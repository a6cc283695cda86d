import StackExport.Proofs.BodyLines
/-!
Which paths have content.

The writer collects the paths with content from all keys of a resource. For a path of one segment
that comes down to the entries of the resource itself: every other key stands under.
-/
namespace StackExport.Proofs.PopulatedPaths

open StackExport
open StackExport.Resource
open StackExport.Proofs.StreamNesting
open StackExport.Proofs.ResourceCompleteness
open StackExport.Proofs.WritableStream
open StackExport.Proofs.SerializedResource
open StackExport.Proofs.BodyLines

/-! ### Paths of a run -/

section Runs

variable {traits : ResourceTraits} {run run' value rest : List Event}
  {paths paths' others : List Path} {key : MappingKey} {path : Path}

/-- A run adds some paths to those that what follows has. -/
def Yields (traits : ResourceTraits) (run : List Event) (paths : List Path) : Prop :=
  ∀ rest others, populatedPaths traits rest = .ok others →
    populatedPaths traits (run ++ rest) = .ok (paths ++ others)

/-- The path of a key, if its value has content. -/
def ownPath (traits : ResourceTraits) (key : MappingKey) (value : List Event) : List Path :=
  if (contentOf traits key value).isEmpty then [] else [key.path]

theorem populatedPaths_key (key : MappingKey) (hv : IsValue value)
    (h : populatedPaths traits (value ++ rest) = .ok others) :
    populatedPaths traits (.key key :: (value ++ rest)) =
      .ok (ownPath traits key value ++ others) := by
  rw [populatedPaths, contentAt_of_isValue traits key hv, h]
  simp only [bind, Except.bind, pure, Except.pure, ownPath]
  split <;> rfl

theorem yields_nil (traits : ResourceTraits) : Yields traits [] [] := fun _ _ h => h

theorem Yields.append (h : Yields traits run paths) (h' : Yields traits run' paths') :
    Yields traits (run ++ run') (paths ++ paths') := by
  intro rest others hrest
  rw [List.append_assoc, List.append_assoc]
  exact h _ _ (h' _ _ hrest)

theorem Yields.cons {e : Event} (he : e.isKey = false) (h : Yields traits run paths) :
    Yields traits (e :: run) paths := by
  intro rest others hrest
  cases e with
  | key key => cases he
  | _ => exact h _ _ hrest

theorem Yields.of_key (hv : IsValue value) (h : Yields traits value paths) (key : MappingKey) :
    Yields traits (.key key :: value) (ownPath traits key value ++ paths) := by
  intro rest others hrest
  rw [List.append_assoc]
  exact populatedPaths_key key hv (h _ _ hrest)

theorem Yields.group {o : Opening} (h : Yields traits run paths) :
    Yields traits (.start o :: (run ++ [.stop o.group])) paths := by
  have hall := (h.append ((yields_nil traits).cons (e := .stop o.group) rfl)).cons
    (e := .start o) rfl
  rwa [List.append_nil] at hall

/-- Every key of a run stands below a path, at or below one of its children. -/
def Under (path : Path) (run : List Event) : Prop :=
  ∀ key, .key key ∈ run → ∃ name, (path.child name).segments <+: key.path.segments

theorem under_nil (path : Path) : Under path [] := nofun

theorem Under.append (h : Under path run) (h' : Under path run') : Under path (run ++ run') :=
  fun key hkey => (List.mem_append.1 hkey).elim (h key) (h' key)

theorem Under.cons {e : Event} (he : e.isKey = false) (h : Under path run) :
    Under path (e :: run) := by
  rintro key (_ | ⟨_, hkey⟩)
  · cases he
  · exact h key hkey

theorem Under.of_child {name : String} (h : Under (path.child name) run) : Under path run := by
  intro key hkey
  obtain ⟨_, hprefix⟩ := h key hkey
  exact ⟨name, (List.prefix_append _ _).trans hprefix⟩

theorem Under.of_element {index : Nat} (h : Under (path.element index) run) : Under path run :=
  Under.of_child h

/-- The key of a child and its value stand below the path. -/
theorem under_key_child {name : String} (hk : key.path = path.child name)
    (h : Under (path.child name) run) : Under path (.key key :: run) := by
  rintro other (_ | ⟨_, hother⟩)
  · exact ⟨name, by rw [hk]⟩
  · exact h.of_child other hother

theorem Under.group {o : Opening} (h : Under path run) :
    Under path (.start o :: (run ++ [.stop o.group])) :=
  (h.append ((under_nil path).cons rfl)).cons rfl

/-- A phrase yields paths of its own keys. -/
theorem exists_yield {p : Part} (h : Phrase p run) (traits : ResourceTraits)
    (hunder : Under path run) : ∃ paths, Yields traits run paths ∧
      ∀ p ∈ paths, ∃ name, (path.child name).segments <+: p.segments := by
  refine h.of_closed (Q := fun run => Under path run → ∃ paths, Yields traits run paths ∧
    ∀ p ∈ paths, ∃ name, (path.child name).segments <+: p.segments) ?_ ?_ ?_ ?_ hunder
  · exact fun _ => ⟨_, yields_nil traits, nofun⟩
  · intro run run' ih ih' hunder
    obtain ⟨paths, hyields, hpaths⟩ := ih fun key hkey => hunder key (List.mem_append_left _ hkey)
    obtain ⟨paths', hyields', hpaths'⟩ :=
      ih' fun key hkey => hunder key (List.mem_append_right _ hkey)
    exact ⟨_, hyields.append hyields',
      fun p hp => (List.mem_append.1 hp).elim (hpaths p) (hpaths' p)⟩
  · intro e run he ih hunder
    obtain ⟨paths, hyields, hpaths⟩ := ih fun key hkey => hunder key (List.mem_cons_of_mem _ hkey)
    exact ⟨_, hyields.cons he, hpaths⟩
  · intro key value hv ih hunder
    obtain ⟨paths, hyields, hpaths⟩ := ih fun other ho => hunder other (List.mem_cons_of_mem _ ho)
    refine ⟨_, hyields.of_key hv key, fun p hp => ?_⟩
    rcases List.mem_append.1 hp with hown | hp
    · unfold ownPath at hown
      split at hown
      · cases hown
      · obtain rfl := List.mem_singleton.1 hown
        exact hunder key List.mem_cons_self
    · exact hpaths p hp

end Runs

/-! ### Keys of a value stand below the value -/

section Below

mutual

theorem documentValue_under (path : Path) : ∀ tree, Under path (documentValue path tree)
  | .list items => (documentItems_under path 0 items).group (o := .sequence)
  | .object entries => (documentEntries_under path entries).group (o := .mapping)
  | .document inner => documentValue_under path inner
  | .null | .bool _ | .number _ | .string _ | .reference _ => (under_nil _).cons rfl

theorem documentItems_under (path : Path) (index : Nat) :
    ∀ items, Under path (documentItems path index items)
  | [] => under_nil _
  | item :: rest =>
      (documentValue_under (path.element index) item).of_element.append
        (documentItems_under path (index + 1) rest)

theorem documentEntries_under (path : Path) :
    ∀ entries, Under path (documentEntries path entries)
  | [] => under_nil _
  | (name, item) :: rest =>
      (under_key_child rfl (documentValue_under (path.child name) item)).append
        (documentEntries_under path rest)

end

theorem document_under (path : Path) (tree : AttributeTree) :
    Under path (document path tree) :=
  (documentValue_under path tree).group (o := .json)

mutual

theorem value_under (r : Rules) (path : Path) : ∀ tree, Under path (r.value path tree)
  | .string s => by
      rw [Rules.value]
      split
      · exact document_under path _
      · exact (under_nil _).cons rfl
  | .document inner => document_under path inner
  | .list items => (items_under r path 0 items).group (o := .sequence)
  | .object entries => (entries_under r path entries).group (o := .mapping)
  | .null | .bool _ | .number _ | .reference _ => (under_nil _).cons rfl

theorem items_under (r : Rules) (path : Path) (index : Nat) :
    ∀ items, Under path (r.items path index items)
  | [] => under_nil _
  | item :: rest =>
      (value_under r (path.element index) item).of_element.append
        (items_under r path (index + 1) rest)

theorem entries_under (r : Rules) (path : Path) :
    ∀ entries, Under path (r.entries path entries)
  | [] => under_nil _
  | (name, item) :: rest =>
      (under_key_child rfl (value_under r (path.child name) item)).append
        (entries_under r path rest)

end

theorem missing_under (r : Rules) (path : Path) (present : List String) :
    Under path (r.missingEvents path present) :=
  missingEvents_of_closed (under_nil _) fun _ _ _ ih =>
    (under_key_child rfl ((under_nil _).cons rfl)).append ih

mutual

theorem bodyValue_under (r : Rules) (path : Path) (name : String) :
    ∀ tree, Under path (bodyValue r path name tree)
  | .list items => by
      rw [bodyValue]
      split
      · exact (blocks_under r path name 0 items).group (o := .sequence)
      · exact value_under r path _
  | .object entries => by
      rw [bodyValue]
      split
      · exact ((body_under r path entries).append (missing_under r path _)).group
          (o := .block name)
      · exact value_under r path _
  | .null | .bool _ | .number _ | .string _ | .reference _ | .document _ => value_under r path _

theorem blocks_under (r : Rules) (path : Path) (name : String) (index : Nat) :
    ∀ items, Under path (r.blocks path name index items)
  | [] => under_nil _
  | .object entries :: rest => by
      have hbody := (body_under r (path.element index) entries).append
        (missing_under r (path.element index) (entries.map (·.1)))
      rw [blocks_cons_object]
      exact (hbody.of_element.group (o := .block name)).append
        (blocks_under r path name (index + 1) rest)
  | .null :: rest | .bool _ :: rest | .number _ :: rest | .string _ :: rest | .list _ :: rest
  | .reference _ :: rest | .document _ :: rest =>
      (blocks_under r path name (index + 1) rest).cons rfl

theorem body_under (r : Rules) (path : Path) :
    ∀ entries, Under path (r.body path entries)
  | [] => under_nil _
  | (name, tree) :: rest => by
      rw [Rules.body, keyed_eq]
      exact (under_key_child rfl (bodyValue_under r (path.child name) name tree)).append
        (body_under r path rest)

end

end Below

/-! ### Paths of the resource -/

variable {r : Rules} {name : String}

/-- The attributes of a resource; a value that is no object has none. -/
def rootEntries : AttributeTree → List (String × AttributeTree)
  | .object entries => entries
  | _ => []

/-- True when an attribute of the resource has content in the state. -/
def HasContent (r : Rules) (attributes : AttributeTree) (name : String) : Prop :=
  ∃ tree, (name, tree) ∈ rootEntries attributes ∧
    (contentOf r.traits (bodyKey r ⟨[name]⟩ name tree) (bodyValue r ⟨[name]⟩ name tree)).isEmpty =
      false

theorem isEmpty_contentOf_null (traits : ResourceTraits) (key : MappingKey) :
    (contentOf traits key [.scalar .null]).isEmpty = true := by
  change (if traits.isConditionalDefault key.path .null then Content.conditionalDefault
    else .null).isEmpty = true
  split <;> rfl

/-- Keys put in for required names have no content. -/
theorem missing_yields (r : Rules) (path : Path) (present : List String) :
    Yields r.traits (r.missingEvents path present) [] := by
  refine missingEvents_of_closed (Q := fun run => Yields r.traits run []) (yields_nil _) ?_
  intro missing _ run ih
  have hkey := ((yields_nil r.traits).cons (e := .scalar .null) rfl).of_key (.scalar .null)
    { r.key missing (path.child missing) .value with required := true }
  rw [ownPath, if_pos (isEmpty_contentOf_null _ _)] at hkey
  exact hkey.append ih

theorem exists_bodyValue_yield (r : Rules) (path : Path) (name : String) (tree : AttributeTree) :
    ∃ paths, Yields r.traits (bodyValue r path name tree) paths ∧
      ∀ other ∈ paths, ∃ name, (path.child name).segments <+: other.segments := by
  have hvalue (tree : AttributeTree) :=
    exists_yield (value_phrase r path tree) r.traits (value_under r path tree)
  cases tree with
  | list items =>
      rw [bodyValue]
      split
      · obtain ⟨paths, hyields, hpaths⟩ :=
          exists_yield (blocks_phrase r path name 0 items) r.traits
            (blocks_under r path name 0 items)
        exact ⟨paths, hyields.group (o := .sequence), hpaths⟩
      · exact hvalue _
  | object entries =>
      rw [bodyValue]
      split
      · obtain ⟨paths, hyields, hpaths⟩ := exists_yield (bodyEvents_phrase r path entries) r.traits
          ((body_under r path entries).append (missing_under r path _))
        exact ⟨paths, hyields.group (o := .block name), hpaths⟩
      · exact hvalue _
  | _ => exact hvalue _

theorem mem_ownPath_iff {path : Path} {traits : ResourceTraits} {key : MappingKey}
    {value : List Event} :
    path ∈ ownPath traits key value ↔
      path = key.path ∧ (contentOf traits key value).isEmpty = false := by
  unfold ownPath
  split <;> simp [*]

/-- Of the paths of one segment a body at the root yields those of its entries with content. -/
theorem exists_body_yield (r : Rules) (entries : List (String × AttributeTree)) :
    ∃ paths, Yields r.traits (r.body .root entries) paths ∧
      ∀ name, ⟨[name]⟩ ∈ paths ↔ HasContent r (.object entries) name := by
  induction entries with
  | nil => exact ⟨[], yields_nil _, fun name => by simp [HasContent, rootEntries]⟩
  | cons entry rest ih =>
      obtain ⟨first, tree⟩ := entry
      obtain ⟨others, hothers, hmem⟩ := ih
      obtain ⟨hv, -⟩ := bodyValue_fed r ⟨[first]⟩ first tree
      obtain ⟨inner, hinner, hbelow⟩ := exists_bodyValue_yield r ⟨[first]⟩ first tree
      have hkey := hinner.of_key hv (bodyKey r ⟨[first]⟩ first tree)
      refine ⟨ownPath r.traits (bodyKey r ⟨[first]⟩ first tree) (bodyValue r ⟨[first]⟩ first tree) ++
        inner ++ others, ?_, fun name => ?_⟩
      · rw [Rules.body, keyed_eq]
        exact hkey.append hothers
      · have hnone : ⟨[name]⟩ ∉ inner := by
          intro h
          obtain ⟨_, hprefix⟩ := hbelow _ h
          simpa [Path.child] using hprefix.length_le
        rw [List.mem_append, List.mem_append, mem_ownPath_iff, hmem]
        simp only [hnone, or_false]
        constructor
        · rintro (⟨heq, hcontent⟩ | ⟨other, hother, hcontent⟩)
          · obtain rfl : name = first := by simpa [bodyKey, Rules.key] using heq
            exact ⟨tree, List.mem_cons_self, hcontent⟩
          · exact ⟨other, List.mem_cons_of_mem _ hother, hcontent⟩
        · rintro ⟨other, hother, hcontent⟩
          rcases List.mem_cons.1 hother with heq | hother
          · obtain ⟨rfl, rfl⟩ := Prod.mk.inj heq
            exact .inl ⟨rfl, hcontent⟩
          · exact .inr ⟨other, hother, hcontent⟩

/-- While a resource is written, a path of one segment counts as populated if it is that of an
attribute with content. -/
theorem mem_populated_iff (r : Rules) (type resource : String) (attributes : AttributeTree) :
    ⟨[name]⟩ ∈ (resourceContext r type resource attributes).populated ↔
      HasContent r attributes name := by
  have hroot : ∃ paths, Yields r.traits (r.rootBody attributes) paths ∧
      (⟨[name]⟩ ∈ paths ↔ HasContent r attributes name) := by
    cases attributes with
    | object entries =>
        obtain ⟨paths, hyields, hmem⟩ := exists_body_yield r entries
        refine ⟨paths, ?_, hmem name⟩
        have hall := hyields.append (missing_yields r .root (entries.map (·.1)))
        rwa [List.append_nil] at hall
    | null => exact ⟨[], missing_yields r .root [], by simp [HasContent, rootEntries]⟩
    | _ => exact ⟨[], yields_nil _, by simp [HasContent, rootEntries]⟩
  obtain ⟨paths, hyields, hmem⟩ := hroot
  have hevents : populatedPaths r.traits (r.events type resource attributes) = .ok paths := by
    have hall := hyields.group (o := .resource type resource) [] [] rfl
    rw [List.append_nil, List.append_nil] at hall
    exact hall
  rw [resourceContext, contextOf, hevents, ← hmem]

end StackExport.Proofs.PopulatedPaths
