import StackExport.Proofs.PopulatedPaths
/-!
What decides over a key.

Two contexts with the same rules write a run of events alike if each key of the run is required, or
loses a conflict in both of them or in neither. And two runs let the same keys lose if they yield
the same paths.
-/
namespace StackExport.Proofs.ConflictDecisions

open StackExport
open StackExport.Resource
open StackExport.Proofs.StreamNesting
open StackExport.Proofs.ResourceCompleteness
open StackExport.Proofs.WritableStream
open StackExport.Proofs.SerializedResource
open StackExport.Proofs.LayoutReading
open StackExport.Proofs.WrittenText
open StackExport.Proofs.ValueLayout
open StackExport.Proofs.BodyLines
open StackExport.Proofs.PopulatedPaths

variable {c c' : Context} {r : Rules} {key : MappingKey} {value run run' : List Event} {path : Path}
  {e : Event}

/-! ### Contexts that agree -/

/-- Two contexts have the same rules, and each key of a run is required or loses a conflict in both
of them or in neither. -/
structure Agree (c c' : Context) (run : List Event) : Prop where
  traits_eq : c'.traits = c.traits
  loser_eq : ∀ key, .key key ∈ run → c.isRequired key = false →
    c.traits.isConflictLoser key.path c'.populated = c.traits.isConflictLoser key.path c.populated

theorem Agree.mono (h : Agree c c' run) (hkeys : ∀ key, .key key ∈ run' → .key key ∈ run) :
    Agree c c' run' :=
  ⟨h.traits_eq, fun key hkey => h.loser_eq key (hkeys key hkey)⟩

theorem Agree.left (h : Agree c c' (run ++ run')) : Agree c c' run :=
  h.mono fun _ => List.mem_append_left _

theorem Agree.right (h : Agree c c' (run ++ run')) : Agree c c' run' :=
  h.mono fun _ => List.mem_append_right _

theorem Agree.tail (h : Agree c c' (e :: run)) : Agree c c' run :=
  h.mono fun _ => List.mem_cons_of_mem _

theorem Agree.inner {first last : Event} (h : Agree c c' (first :: (run ++ [last]))) :
    Agree c c' run :=
  h.tail.left

theorem isRequired_congr (h : c'.traits = c.traits) (key : MappingKey) :
    c'.isRequired key = c.isRequired key := by
  rw [Context.isRequired, Context.isRequired, h]

theorem applyDefault_congr (h : c'.traits = c.traits) (key : MappingKey) (run : List Event) :
    c'.applyDefault key run = c.applyDefault key run := by
  unfold Context.applyDefault
  rw [h]

theorem key_mem_applyDefault {other : MappingKey} (h : .key other ∈ c.applyDefault key run) :
    .key other ∈ run := by
  unfold Context.applyDefault at h
  split at h
  · simpa using h
  · exact h

/-- What is not required is written for the same content if it loses in both contexts or neither. -/
theorem Agree.shouldEmit_eq (h : Agree c c' run) (hkey : .key key ∈ run)
    (hr : c.isRequired key = false) (content : Content) :
    c'.traits.shouldEmit key.path content c'.populated =
      c.traits.shouldEmit key.path content c.populated := by
  rw [h.traits_eq, ResourceTraits.shouldEmit, ResourceTraits.shouldEmit, h.loser_eq key hkey hr]

theorem Agree.isKept_eq (h : Agree c c' run) (hkey : .key key ∈ run) (value : List Event) :
    isKept c' key value = isKept c key value := by
  unfold isKept
  rw [isRequired_congr h.traits_eq]
  cases hr : c.isRequired key with
  | true => rfl
  | false => rw [h.shouldEmit_eq hkey hr, h.traits_eq]

theorem Agree.wouldWrite_eq (h : Agree c c' run) (hkey : .key key ∈ run) (content : Content) :
    c'.wouldWrite key content = c.wouldWrite key content := by
  unfold Context.wouldWrite
  rw [isRequired_congr h.traits_eq]
  cases hr : c.isRequired key with
  | true => rfl
  | false => rw [h.shouldEmit_eq hkey hr, h.traits_eq]

theorem Agree.hasOutput_eq (h : Agree c c' run) : c'.hasOutput run = c.hasOutput run := by
  induction run with
  | nil => rfl
  | cons e run ih =>
      cases e with
      | key key =>
          have hwould := h.wouldWrite_eq (List.mem_cons_self (a := Event.key key))
          rw [Context.hasOutput, Context.hasOutput, ih h.tail, h.traits_eq]
          simp only [hwould]
      | _ => exact ih h.tail

theorem Agree.foresees_eq (h : Agree c c' run) : foresees c' run = foresees c run := by
  rw [foresees, foresees, h.hasOutput_eq]

/-- A key of a body is written in both contexts or in neither. -/
theorem Agree.isWritten_eq (h : Agree c c' (.key key :: value)) :
    isWritten c' key (c'.applyDefault key value) = isWritten c key (c.applyDefault key value) := by
  have hahead : Agree c c' (c.applyDefault key value) := h.tail.mono fun _ => key_mem_applyDefault
  rw [applyDefault_congr h.traits_eq, isWritten, isWritten, h.isKept_eq List.mem_cons_self,
    isRequired_congr h.traits_eq, hahead.foresees_eq]

theorem missingLines_congr (h : c'.traits = c.traits) (r : Rules) (path : Path)
    (present : List String) : missingLines c' r path present = missingLines c r path present := by
  rw [missingLines, missingLines, h]

theorem defaulted_congr (h : c'.traits = c.traits) (key : MappingKey) (tree : AttributeTree)
    (layout : Layout) : defaulted c' key tree layout = defaulted c key tree layout := by
  cases tree with
  | null => rw [defaulted, defaulted, h]
  | _ => rfl

mutual

/-- A value has the same layout in both contexts. -/
theorem Agree.layoutOf_eq (item : Bool) : ∀ {path : Path} (tree : AttributeTree),
    Agree c c' (r.value path tree) → layoutOf c' r item path tree = layoutOf c r item path tree
  | path, .list items, h => by
      rw [layoutOf, layoutOf, itemLayouts_eq 0 items h.inner]
  | path, .object entries, h => by
      rw [layoutOf, layoutOf, entryLayouts_eq item entries h.inner]
  | _, .null, _ | _, .bool _, _ | _, .number _, _ | _, .string _, _ | _, .reference _, _
  | _, .document _, _ => rfl

theorem Agree.itemLayouts_eq (index : Nat) : ∀ {path : Path} (items : List AttributeTree),
    Agree c c' (r.items path index items) →
      itemLayouts c' r path index items = itemLayouts c r path index items
  | _, [], _ => rfl
  | path, item :: rest, h => by
      rw [itemLayouts, itemLayouts, layoutOf_eq true item h.left, itemLayouts_eq _ rest h.right]

theorem Agree.entryLayouts_eq (filtered : Bool) :
    ∀ {path : Path} (entries : List (String × AttributeTree)),
      Agree c c' (r.entries path entries) →
        entryLayouts c' r filtered path entries = entryLayouts c r filtered path entries
  | _, [], _ => rfl
  | path, (name, value) :: rest, h => by
      have hkept := h.isKept_eq (List.mem_cons_self (a := Event.key (r.dataKey name _ _)))
      rw [entryLayouts, entryLayouts, layoutOf_eq false value h.tail.left,
        entryLayouts_eq filtered rest h.tail.right, hkept, applyDefault_congr h.traits_eq,
        defaulted_congr h.traits_eq]

end

mutual

/-- An attribute has the same lines in both contexts if its key is written. -/
theorem Agree.attributeLines_eq (name : String) : ∀ {path : Path} (tree : AttributeTree),
    Agree c c' (bodyValue r path name tree) →
      attributeLines c' r path name tree = attributeLines c r path name tree
  | path, .list items, h => by
      rw [bodyValue] at h
      rw [attributeLines, attributeLines]
      split at h
      · next hshape =>
          rw [if_pos hshape, if_pos hshape]
          exact blockLines_eq name 0 items h.inner
      · next hshape => rw [if_neg hshape, if_neg hshape, h.layoutOf_eq]
  | path, .object entries, h => by
      rw [bodyValue] at h
      rw [attributeLines, attributeLines]
      split at h
      · next hshape =>
          rw [if_pos hshape, if_pos hshape, bodyLines_eq entries h.inner.left,
            missingLines_congr h.traits_eq]
      · next hshape => rw [if_neg hshape, if_neg hshape, h.layoutOf_eq]
  | _, .null, h | _, .bool _, h | _, .number _, h | _, .string _, h | _, .reference _, h
  | _, .document _, h =>
      congrArg (fun value => [Line.assignment name value]) (defaulted_congr h.traits_eq _ _ _)

theorem Agree.blockLines_eq (name : String) (index : Nat) :
    ∀ {path : Path} (items : List AttributeTree), Agree c c' (r.blocks path name index items) →
      blockLines c' r path name index items = blockLines c r path name index items
  | _, [], _ => rfl
  | path, .object entries :: rest, h => by
      rw [blocks_cons_object] at h
      rw [blockLines, blockLines, bodyLines_eq entries h.left.inner.left,
        missingLines_congr h.traits_eq, blockLines_eq name _ rest h.right]
  | path, .null :: rest, h | path, .bool _ :: rest, h | path, .number _ :: rest, h
  | path, .string _ :: rest, h | path, .list _ :: rest, h | path, .reference _ :: rest, h
  | path, .document _ :: rest, h => by
      exact congrArg _ (blockLines_eq name _ rest h.tail)

theorem Agree.bodyLines_eq : ∀ {path : Path} (entries : List (String × AttributeTree)),
    Agree c c' (r.body path entries) → bodyLines c' r path entries = bodyLines c r path entries
  | _, [], _ => rfl
  | path, (name, tree) :: rest, h => by
      rw [Rules.body, keyed_eq] at h
      rw [bodyLines, bodyLines, h.left.isWritten_eq, attributeLines_eq name tree h.left.tail,
        bodyLines_eq rest h.right]

end

/-! ### Losing a conflict -/

variable {traits : ResourceTraits} {populated populated' : List Path} {group : List String}

/-- A path loses in a group if a populated path matches a pattern in front of the first one that it
matches itself. -/
theorem losesIn_iff_exists :
    ResourceTraits.losesIn path populated group = true ↔
      ∃ front pattern back, group = front ++ pattern :: back ∧ path.isLike pattern = true ∧
        (∀ earlier ∈ front, path.isLike earlier = false) ∧
        ∃ winner ∈ front, ∃ p ∈ populated, p.isLike winner = true := by
  unfold ResourceTraits.losesIn
  constructor
  · intro h
    split at h
    · next position hfound =>
        obtain ⟨hlt, hlike, hbefore⟩ := List.findIdx?_eq_some_iff_getElem.mp hfound
        obtain ⟨winner, hwinner, h⟩ := List.any_eq_true.mp h
        refine ⟨group.take position, group[position], group.drop (position + 1), ?_, hlike, ?_,
          winner, hwinner, List.any_eq_true.mp h⟩
        · rw [List.getElem_cons_drop, List.take_append_drop]
        · intro earlier hearlier
          obtain ⟨i, hi, rfl⟩ := List.mem_take_iff_getElem.mp hearlier
          exact Bool.eq_false_iff.mpr (hbefore i (lt_of_lt_of_le hi (min_le_left _ _)))
    · cases h
  · rintro ⟨front, pattern, back, rfl, hlike, hbefore, winner, hwinner, h⟩
    have hnone : front.findIdx? path.isLike = none := List.findIdx?_eq_none_iff.mpr hbefore
    have hfound : (front ++ pattern :: back).findIdx? path.isLike = some front.length := by
      simp [List.findIdx?_append, hnone, List.findIdx?_cons, hlike]
    rw [hfound]
    refine List.any_eq_true.mpr ⟨winner, ?_, List.any_eq_true.mpr h⟩
    rwa [List.take_left]

/-- A path loses a conflict to one of the paths with a property, which matches a pattern in front of
the first one in the group that the loser matches itself. -/
def LosesTo (traits : ResourceTraits) (P : Path → Prop) (path : Path) : Prop :=
  ∃ group ∈ traits.conflicts, ∃ front pattern back, group = front ++ pattern :: back ∧
    path.isLike pattern = true ∧ (∀ earlier ∈ front, path.isLike earlier = false) ∧
    ∃ winner ∈ front, ∃ p, P p ∧ p.isLike winner = true

theorem LosesTo.or {P Q R : Path → Prop} (h : LosesTo traits P path)
    (hor : ∀ p, P p → Q p ∨ R p) : LosesTo traits Q path ∨ LosesTo traits R path := by
  obtain ⟨group, hgroup, front, pattern, back, heq, hlike, hbefore, winner, hwinner, p, hp,
    hwins⟩ := h
  rcases hor p hp with hq | hr
  · exact .inl ⟨group, hgroup, front, pattern, back, heq, hlike, hbefore, winner, hwinner, p, hq,
      hwins⟩
  · exact .inr ⟨group, hgroup, front, pattern, back, heq, hlike, hbefore, winner, hwinner, p, hr,
      hwins⟩

theorem isConflictLoser_iff :
    traits.isConflictLoser path populated = true ↔ LosesTo traits (· ∈ populated) path := by
  rw [ResourceTraits.isConflictLoser, List.any_eq_true]
  simp only [losesIn_iff_exists, LosesTo]

/-- Only which paths are populated matters, not in which order they come. -/
theorem isConflictLoser_congr (h : ∀ p, p ∈ populated ↔ p ∈ populated') (path : Path) :
    traits.isConflictLoser path populated = traits.isConflictLoser path populated' := by
  rw [Bool.eq_iff_iff, isConflictLoser_iff, isConflictLoser_iff]
  simp only [LosesTo, h]

/-- The paths that are populated while a resource is written are those that its body yields. -/
theorem populated_of_yields {paths : List Path} {attributes : AttributeTree} (type name : String)
    (h : Yields r.traits (r.rootBody attributes) paths) :
    (resourceContext r type name attributes).populated = paths := by
  have hall := h.group (o := .resource type name) [] [] rfl
  rw [List.append_nil, List.append_nil] at hall
  have hevents : populatedPaths r.traits (r.events type name attributes) = .ok paths := hall
  rw [resourceContext, contextOf, hevents]

theorem exists_yields {p : Part} (h : Phrase p run) (traits : ResourceTraits) :
    ∃ paths, Yields traits run paths :=
  h.of_closed (Q := fun run => ∃ paths, Yields traits run paths) ⟨_, yields_nil traits⟩
    (fun ⟨_, hpaths⟩ ⟨_, hothers⟩ => ⟨_, hpaths.append hothers⟩)
    (fun he ⟨_, hpaths⟩ => ⟨_, hpaths.cons he⟩)
    (fun key _ hv ⟨_, hpaths⟩ => ⟨_, hpaths.of_key hv key⟩)

end StackExport.Proofs.ConflictDecisions
