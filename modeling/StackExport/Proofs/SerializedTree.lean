import StackExport.Proofs.BodyLines
import StackExport.Proofs.KeyPaths
import StackExport.Proofs.StreamReading
import StackExport.Proofs.TreePaths
/-!
What the stream of a resource says of its attribute tree.

`restoredBody` is the tree that the stream of a body is read back as. It differs from the attributes
in documents, which are expanded, in required names that a body lacks, and in elements that cannot
be blocks.
-/
namespace StackExport.Proofs.SerializedTree

open StackExport
open StackExport.Resource
open StackExport.Proofs.StreamNesting
open StackExport.Proofs.WritableStream
open StackExport.Proofs.SerializedResource
open StackExport.Proofs.BodyLines
open StackExport.Proofs.StreamReading
open StackExport.Proofs.KeyPaths
open StackExport.Proofs.TreePaths

variable {r : Rules} {path : Path} {name : String} {key : MappingKey}
  {attributes tree : AttributeTree} {entries : List (String × AttributeTree)}

/-! ### The tree that is read back -/

mutual

/-- A value of a document. A document inside a document is a part of it. -/
def inDocument : AttributeTree → ReadTree
  | .list items => .list (itemsInDocument items)
  | .object entries => .object (entriesInDocument entries)
  | .document inner => inDocument inner
  | value => .scalar (leaf value)

def itemsInDocument : List AttributeTree → List ReadTree
  | [] => []
  | item :: rest => inDocument item :: itemsInDocument rest

def entriesInDocument : List (String × AttributeTree) → List (String × ReadTree)
  | [] => []
  | (name, item) :: rest => (name, inDocument item) :: entriesInDocument rest

end

mutual

/-- A value with the documents that its strings hold. -/
def expanded : AttributeTree → ReadTree
  | .string s =>
    match Json.document? s with
    | some doc => .document (inDocument (.ofJson doc))
    | none => .scalar (.string s)
  | .document inner => .document (inDocument inner)
  | .list items => .list (expandedItems items)
  | .object entries => .object (expandedEntries entries)
  | value => .scalar (leaf value)

def expandedItems : List AttributeTree → List ReadTree
  | [] => []
  | item :: rest => expanded item :: expandedItems rest

def expandedEntries : List (String × AttributeTree) → List (String × ReadTree)
  | [] => []
  | (name, item) :: rest => (name, expanded item) :: expandedEntries rest

end

/-- The required names that a body lacks, each with a null. -/
def lackingNulls (r : Rules) (path : Path) (entries : List (String × AttributeTree)) :
    List (String × ReadTree) :=
  (r.missingRequired path (entries.map (·.1))).map fun name => (name, .scalar .null)

mutual

/-- The value of an attribute in a body. Blocks are bodies themselves. -/
def restored (r : Rules) (path : Path) (name : String) : AttributeTree → ReadTree
  | .list items =>
    if r.classify path (.list items) = .blockList then .list (restoredBlocks r path name 0 items)
    else expanded (.list items)
  | .object entries =>
    if r.classify path (.object entries) = .blockObject then
      .object (restoredEntries r path entries ++ lackingNulls r path entries)
    else expanded (.object entries)
  | value => expanded value

/-- The elements of a list of blocks. One that is no object leaves a comment. -/
def restoredBlocks (r : Rules) (path : Path) (name : String) (index : Nat) :
    List AttributeTree → List ReadTree
  | [] => []
  | .object entries :: rest =>
    .object (restoredEntries r (path.element index) entries ++
        lackingNulls r (path.element index) entries) ::
      restoredBlocks r path name (index + 1) rest
  | item :: rest =>
    .comment (skippedText name index item) :: restoredBlocks r path name (index + 1) rest

def restoredEntries (r : Rules) (path : Path) :
    List (String × AttributeTree) → List (String × ReadTree)
  | [] => []
  | (name, item) :: rest =>
    (name, restored r (path.child name) name item) :: restoredEntries r path rest

end

/-- The body of a resource or block. -/
def restoredBody (r : Rules) (path : Path) (entries : List (String × AttributeTree)) :
    List (String × ReadTree) :=
  restoredEntries r path entries ++ lackingNulls r path entries

/-! ### Reading back -/

mutual

theorem documentValue_gives (path : Path) :
    ∀ tree, Gives (documentValue path tree) (inDocument tree)
  | .list items => (documentItems_gives path 0 items).list
  | .object entries => (documentEntries_gives path entries).object (o := .mapping) rfl
  | .document inner => documentValue_gives path inner
  | .null | .bool _ | .number _ | .string _ | .reference _ => gives_scalar _

theorem documentItems_gives (path : Path) (index : Nat) :
    ∀ items, GivesItems (documentItems path index items) (itemsInDocument items)
  | [] => givesItems_nil
  | item :: rest =>
      (documentValue_gives (path.element index) item).item
        (documentItems_gives path (index + 1) rest)

theorem documentEntries_gives (path : Path) :
    ∀ entries, GivesEntries (documentEntries path entries) (entriesInDocument entries)
  | [] => givesEntries_nil
  | (name, item) :: rest =>
      ((documentValue_gives (path.child name) item).entry _).append
        (documentEntries_gives path rest)

end

mutual

theorem value_gives (r : Rules) (path : Path) : ∀ tree, Gives (r.value path tree) (expanded tree)
  | .string s => by
      rw [Rules.value, expanded]
      cases Json.document? s with
      | some doc => exact (documentValue_gives path _).document
      | none => exact gives_scalar (.string s)
  | .document inner => (documentValue_gives path inner).document
  | .list items => (items_gives r path 0 items).list
  | .object entries => (entries_gives r path entries).object (o := .mapping) rfl
  | .null | .bool _ | .number _ | .reference _ => gives_scalar _

theorem items_gives (r : Rules) (path : Path) (index : Nat) :
    ∀ items, GivesItems (r.items path index items) (expandedItems items)
  | [] => givesItems_nil
  | item :: rest =>
      (value_gives r (path.element index) item).item (items_gives r path (index + 1) rest)

theorem entries_gives (r : Rules) (path : Path) :
    ∀ entries, GivesEntries (r.entries path entries) (expandedEntries entries)
  | [] => givesEntries_nil
  | (name, item) :: rest =>
      ((value_gives r (path.child name) item).entry _).append (entries_gives r path rest)

end

theorem missing_gives (r : Rules) (path : Path) (entries : List (String × AttributeTree)) :
    GivesEntries (r.missingEvents path (entries.map (·.1))) (lackingNulls r path entries) := by
  unfold Rules.missingEvents lackingNulls
  induction r.missingRequired path (entries.map (·.1)) with
  | nil => exact givesEntries_nil
  | cons name others ih => exact ((gives_scalar .null).entry _).append ih

mutual

theorem bodyValue_gives (r : Rules) (path : Path) (name : String) :
    ∀ tree, Gives (bodyValue r path name tree) (restored r path name tree)
  | .list items => by
      rw [bodyValue, restored]
      split
      · exact (blocks_gives r path name 0 items).list
      · exact value_gives r path _
  | .object entries => by
      rw [bodyValue, restored]
      split
      · exact ((body_gives r path entries).append (missing_gives r path entries)).object
          (o := .block name) rfl
      · exact value_gives r path _
  | .null | .bool _ | .number _ | .string _ | .reference _ | .document _ => value_gives r path _

theorem blocks_gives (r : Rules) (path : Path) (name : String) (index : Nat) :
    ∀ items, GivesItems (r.blocks path name index items) (restoredBlocks r path name index items)
  | [] => givesItems_nil
  | .object entries :: rest => by
      rw [blocks_cons_object]
      have hbody := (body_gives r (path.element index) entries).append
        (missing_gives r (path.element index) entries)
      exact (hbody.object (o := .block name) rfl).item (blocks_gives r path name (index + 1) rest)
  | .null :: rest | .bool _ :: rest | .number _ :: rest | .string _ :: rest | .list _ :: rest
  | .reference _ :: rest | .document _ :: rest =>
      (blocks_gives r path name (index + 1) rest).comment _

theorem body_gives (r : Rules) (path : Path) :
    ∀ entries, GivesEntries (r.body path entries) (restoredEntries r path entries)
  | [] => givesEntries_nil
  | (name, tree) :: rest => by
      rw [Rules.body, keyed_eq]
      exact ((bodyValue_gives r (path.child name) name tree).entry _).append
        (body_gives r path rest)

end

theorem bodyEvents_gives (r : Rules) (path : Path) (entries : List (String × AttributeTree)) :
    GivesEntries (bodyEvents r path entries) (restoredBody r path entries) :=
  (body_gives r path entries).append (missing_gives r path entries)

/-! ### Keys and the values behind them -/

/-- What a key gives of a tree: a key of blocks their bodies, every other key the plain value. -/
def carried (r : Rules) (key : MappingKey) (tree : AttributeTree) : ReadTree :=
  if key.shape.isBlock then restored r key.path key.name tree else expanded tree

/-- At the path of a key stands a value, and the same value comes behind the key. -/
def FindsValue (r : Rules) (attributes : AttributeTree) (key : MappingKey) (after : List Event) :
    Prop :=
  ∃ tree value rest, attributes.getPath? key.path = some tree ∧ after = value ++ rest ∧
    IsValue value ∧ readBack? value = some (carried r key tree)

/-- The key is none of the attributes: it is put in for a name that the rules require of an object
and that the object lacks, and a null comes behind it. -/
structure IsInjected (r : Rules) (attributes : AttributeTree) (key : MappingKey)
    (after : List Event) : Prop where
  absent : attributes.getPath? key.path = none
  required : key.required = true
  lacking : ∃ path entries, attributes.getPath? path = some (.object entries) ∧
    key.path = path.child key.name ∧ key.name ∈ r.missingRequired path (entries.map (·.1))
  null : ∃ rest, after = .scalar .null :: rest

/-- Every key of a run outside documents is accounted for by the attributes, and no two have one
path. -/
abbrev Accounted (r : Rules) (attributes : AttributeTree) (path : Path) (names : Set String)
    (run : List Event) : Prop :=
  Laid (fun key after => FindsValue r attributes key after ∨ IsInjected r attributes key after)
    path names run

theorem carried_dataKey (r : Rules) (name : String) (path : Path) (tree : AttributeTree) :
    carried r (r.dataKey name path (dataShape tree)) tree = expanded tree := by
  have hshape : (r.dataKey name path (dataShape tree)).shape.isBlock = false :=
    isBlock_dataShape tree
  rw [carried, hshape]
  rfl

theorem carried_bodyKey (r : Rules) (name : String) (path : Path) (tree : AttributeTree) :
    carried r (bodyKey r path name tree) tree = restored r path name tree := by
  change (if (r.classify path tree).isBlock then restored r path name tree else expanded tree) = _
  cases tree with
  | list items =>
      rcases classify_list r path items with hshape | hshape <;>
        simp [restored, hshape, Shape.isBlock]
  | object entries =>
      rcases classify_object r path entries with hshape | hshape <;>
        simp [restored, hshape, Shape.isBlock]
  | _ => rfl

/-- The segments of a list's items from an index on. -/
def indicesFrom (index : Nat) : Set String := {segment | ∃ i, index ≤ i ∧ segment = toString i}

theorem disjoint_indicesFrom (index : Nat) :
    Disjoint ({toString index} : Set String) (indicesFrom (index + 1)) := by
  rw [Set.disjoint_singleton_left]
  rintro ⟨i, hi, heq⟩
  have := toString_injective heq
  omega

theorem Accounted.item {run run' : List Event} {index : Nat}
    (h : Accounted r attributes (path.element index) Set.univ run)
    (h' : Accounted r attributes path (indicesFrom (index + 1)) run') :
    Accounted r attributes path (indicesFrom index) (run ++ run') := by
  refine (h.child.append h' (disjoint_indicesFrom index)).mono ?_
  rintro segment (rfl | ⟨i, hi, rfl⟩)
  · exact ⟨index, le_rfl, rfl⟩
  · exact ⟨i, by omega, rfl⟩

theorem Accounted.skip {run : List Event} {index : Nat}
    (h : Accounted r attributes path (indicesFrom (index + 1)) run) (text : String) :
    Accounted r attributes path (indicesFrom index) (.comment text :: run) := by
  refine Laid.comment text (h.mono ?_)
  rintro segment ⟨i, hi, rfl⟩
  exact ⟨i, by omega, rfl⟩

/-- An entry and those behind it, whose keys are others. -/
theorem Accounted.entry {run run' : List Event} {names : List String}
    (h : Accounted r attributes path {name} run)
    (h' : Accounted r attributes path {other | other ∈ names} run') (hname : name ∉ names) :
    Accounted r attributes path {other | other ∈ name :: names} (run ++ run') := by
  refine (h.append h' (Set.disjoint_singleton_left.2 hname)).mono ?_
  rintro other (rfl | hother)
  · exact List.mem_cons_self
  · exact List.mem_cons_of_mem _ hother

theorem Accounted.of_key {value : List Event}
    (h : Accounted r attributes (path.child name) Set.univ value) (hv : IsValue value)
    (hkey : key.path = path.child name)
    (hfound : attributes.getPath? (path.child name) = some tree)
    (hread : readBack? value = some (carried r key tree)) :
    Accounted r attributes path {name} (.key key :: value) :=
  Laid.of_key h hkey fun rest => .inl ⟨tree, value, rest, hkey ▸ hfound, rfl, hv, hread⟩

-- Along the tree, where each node is found at its path. What is left of a list knows the index at
-- which it goes on, and what is left of an object that its keys are none of those before.
mutual

theorem value_accounted (r : Rules) (path : Path) : ∀ tree, Everywhere Addressable tree →
    attributes.getPath? path = some tree → Accounted r attributes path Set.univ (r.value path tree)
  | .string s, _, _ => by
      rw [Rules.value]
      cases Json.document? s with
      | some doc => exact laid_document _ _ _ (documentValue_phrase path _).wellNested
      | none => exact laid_scalar _ _ _ _
  | .document inner, _, _ => laid_document _ _ _ (documentValue_phrase path inner).wellNested
  | .list items, h, hfound => by
      have hitems := items_accounted r path 0 items h.2 (itemsAt_of_list hfound h.1)
      exact (hitems.mono (Set.subset_univ _)).group (o := .sequence) nofun
  | .object entries, h, hfound => by
      have hentries := entries_accounted r path entries h.1 h.2 (entriesAt_of_object hfound h.1)
      exact (hentries.mono (Set.subset_univ _)).group (o := .mapping) nofun
  | .null, _, _ | .bool _, _, _ | .number _, _, _ | .reference _, _, _ => laid_scalar _ _ _ _

theorem items_accounted (r : Rules) (path : Path) (index : Nat) : ∀ items,
    EverywhereInItems Addressable items → ItemsAt attributes path index items →
    Accounted r attributes path (indicesFrom index) (r.items path index items)
  | [], _, _ => laid_nil _ _ _
  | item :: rest, h, hfound => by
      have hitem := value_accounted r (path.element index) item h.1 hfound.head
      exact hitem.item (items_accounted r path (index + 1) rest h.2 hfound.tail)

theorem entries_accounted (r : Rules) (path : Path) : ∀ entries : List (String × AttributeTree),
    (entries.map (·.1)).Nodup → EverywhereInEntries Addressable entries →
    EntriesAt attributes path entries →
    Accounted r attributes path {name | name ∈ entries.map (·.1)} (r.entries path entries)
  | [], _, _, _ => laid_nil _ _ _
  | (name, item) :: rest, hkeys, h, hfound => by
      obtain ⟨hname, hkeys⟩ := List.nodup_cons.1 hkeys
      have hvalue := value_accounted r (path.child name) item h.1 hfound.head
      have hread := (value_gives r (path.child name) item).readBack
      rw [← carried_dataKey r name] at hread
      have hkey := hvalue.of_key (value_phrase r _ item).isValue rfl hfound.head hread
      exact hkey.entry (entries_accounted r path rest hkeys h.2 hfound.tail) hname

end

/-! ### Keys of bodies -/

theorem nodup_missingRequired (r : Rules) (path : Path) (present : List String) :
    (r.missingRequired path present).Nodup := by
  rw [Rules.missingRequired]
  induction r.traits.required using List.reverseRecOn with
  | nil => exact List.nodup_nil
  | append_singleton earlier pattern ih =>
      rw [List.foldl_append, List.foldl_cons, List.foldl_nil]
      generalize List.foldl _ [] earlier = missing at ih ⊢
      cases Rules.requiredName? path pattern with
      | none => exact ih
      | some name =>
          dsimp only
          split
          · exact ih
          · next hnew =>
            have hname : name ∉ missing := by
              simp only [List.contains_iff_mem, Bool.or_eq_true, not_or] at hnew
              exact hnew.2
            exact ih.append (List.nodup_singleton name) (List.disjoint_singleton.2 hname)

theorem missing_accounted (hfound : attributes.getPath? path = some (.object entries)) :
    Accounted r attributes path {name | name ∈ r.missingRequired path (entries.map (·.1))}
      (r.missingEvents path (entries.map (·.1))) := by
  have hkey (name : String) (hname : name ∈ r.missingRequired path (entries.map (·.1))) :
      Accounted r attributes path {name}
        [.key { r.key name (path.child name) .value with required := true }, .scalar .null] := by
    refine Laid.of_key (laid_scalar _ _ Set.univ .null) rfl fun rest => .inr ⟨?_, rfl, ?_, _, rfl⟩
    · exact getPath_eq_none_of_not_mem hfound (mem_missingRequired_iff.1 hname).1
    · exact ⟨path, entries, hfound, rfl, hname⟩
  have hnodup := nodup_missingRequired r path (entries.map (·.1))
  unfold Rules.missingEvents
  generalize r.missingRequired path (entries.map (·.1)) = missing at hkey hnodup ⊢
  induction missing with
  | nil => exact laid_nil _ _ _
  | cons name others ih =>
      obtain ⟨hname, hothers⟩ := List.nodup_cons.1 hnodup
      exact (hkey name List.mem_cons_self).entry
        (ih (fun other ho => hkey other (List.mem_cons_of_mem _ ho)) hothers) hname

theorem bodyEvents_accounted (hfound : attributes.getPath? path = some (.object entries))
    (hbody : Accounted r attributes path {name | name ∈ entries.map (·.1)} (r.body path entries)) :
    Accounted r attributes path Set.univ (bodyEvents r path entries) := by
  refine (hbody.append (missing_accounted hfound) ?_).mono (Set.subset_univ _)
  exact Set.disjoint_right.2 fun name hname => (mem_missingRequired_iff.1 hname).1

mutual

theorem bodyValue_accounted (r : Rules) (path : Path) (name : String) : ∀ tree,
    Everywhere Addressable tree → attributes.getPath? path = some tree →
    Accounted r attributes path Set.univ (bodyValue r path name tree)
  | .list items, h, hfound => by
      rw [bodyValue]
      split
      · have hblocks := blocks_accounted r path name 0 items h.2 (itemsAt_of_list hfound h.1)
        exact (hblocks.mono (Set.subset_univ _)).group (o := .sequence) nofun
      · exact value_accounted r path _ h hfound
  | .object entries, h, hfound => by
      rw [bodyValue]
      split
      · have hbody := body_accounted r path entries h.1 h.2 (entriesAt_of_object hfound h.1)
        exact (bodyEvents_accounted hfound hbody).group (o := .block name) nofun
      · exact value_accounted r path _ h hfound
  | .null, h, hfound | .bool _, h, hfound | .number _, h, hfound | .string _, h, hfound
  | .reference _, h, hfound | .document _, h, hfound => value_accounted r path _ h hfound

theorem blocks_accounted (r : Rules) (path : Path) (name : String) (index : Nat) : ∀ items,
    EverywhereInItems Addressable items → ItemsAt attributes path index items →
    Accounted r attributes path (indicesFrom index) (r.blocks path name index items)
  | [], _, _ => laid_nil _ _ _
  | .object entries :: rest, h, hfound => by
      have hbody := body_accounted r (path.element index) entries h.1.1 h.1.2
        (entriesAt_of_object hfound.head h.1.1)
      have hblock : Accounted r attributes (path.element index) Set.univ
          (.start (.block name) :: (bodyEvents r (path.element index) entries ++ [.stop .block])) :=
        (bodyEvents_accounted hfound.head hbody).group (o := .block name) nofun
      rw [blocks_cons_object]
      exact hblock.item (blocks_accounted r path name (index + 1) rest h.2 hfound.tail)
  | .null :: rest, h, hfound | .bool _ :: rest, h, hfound | .number _ :: rest, h, hfound
  | .string _ :: rest, h, hfound | .list _ :: rest, h, hfound | .reference _ :: rest, h, hfound
  | .document _ :: rest, h, hfound =>
      (blocks_accounted r path name (index + 1) rest h.2 hfound.tail).skip _

theorem body_accounted (r : Rules) (path : Path) : ∀ entries : List (String × AttributeTree),
    (entries.map (·.1)).Nodup → EverywhereInEntries Addressable entries →
    EntriesAt attributes path entries →
    Accounted r attributes path {name | name ∈ entries.map (·.1)} (r.body path entries)
  | [], _, _, _ => laid_nil _ _ _
  | (name, tree) :: rest, hkeys, h, hfound => by
      obtain ⟨hname, hkeys⟩ := List.nodup_cons.1 hkeys
      have hvalue := bodyValue_accounted r (path.child name) name tree h.1 hfound.head
      have hread := (bodyValue_gives r (path.child name) name tree).readBack
      rw [← carried_bodyKey r name] at hread
      have hkey := hvalue.of_key (bodyValue_fed r _ name tree).1 rfl hfound.head hread
      rw [Rules.body, keyed_eq]
      exact hkey.entry (body_accounted r path rest hkeys h.2 hfound.tail) hname

end

/-! ### The whole resource -/

/-- The stream of a resource is read back as its attributes, with the documents in strings expanded,
the required names that a body lacks as nulls, and a comment for every element that cannot be a
block. Outside documents each key stands before the value that is found at its path, or it is put
in, and no two keys have one path. -/
theorem events_readBack (traits : ResourceTraits) (schema : ResourceSchema) (type name : String)
    (entries : List (String × AttributeTree)) (h : Everywhere Addressable (.object entries)) :
    readBack? (Rules.events ⟨traits, schema⟩ type name (.object entries)) =
        some (.object (restoredBody ⟨traits, schema⟩ .root entries)) ∧
      (∀ k ∈ outerKeys 0 (Rules.events ⟨traits, schema⟩ type name (.object entries)),
        FindsValue ⟨traits, schema⟩ (.object entries) k.1 k.2 ∨
          IsInjected ⟨traits, schema⟩ (.object entries) k.1 k.2) ∧
      (outerPaths (Rules.events ⟨traits, schema⟩ type name (.object entries))).Nodup := by
  have hroot : (AttributeTree.object entries).getPath? .root = some (.object entries) := rfl
  have hgives := (bodyEvents_gives ⟨traits, schema⟩ .root entries).object
    (o := .resource type name) rfl
  have hbody := body_accounted ⟨traits, schema⟩ .root entries h.1 h.2
    (entriesAt_of_object hroot h.1)
  have hall := (bodyEvents_accounted hroot hbody).group (o := .resource type name) nofun
  refine ⟨hgives.readBack, fun k hk => ?_, hall.nodup⟩
  simpa using hall.holds k hk []

/-- Rules under which every rule of a list is a block and needs a port. -/
def portRules : Rules :=
  ⟨{ ResourceTraits.none "t" with required := ["rule.*.port"], repeatedBlock := ["rule"] }, []⟩

/-- A document in a string, a rule without a port, and a rule that is none. -/
def ruleEntries : List (String × AttributeTree) :=
  [("policy", .string "[]"),
    ("rule", .list [.object [("data", .document (.document .null))], .bool true])]

theorem events_readBack_rules :
    Everywhere Addressable (.object ruleEntries) ∧
      readBack? (portRules.events "t" "n" (.object ruleEntries)) =
        some (.object [("policy", .document (.list [])),
          ("rule", .list [.object [("data", .document (.scalar .null)), ("port", .scalar .null)],
            .comment "rule[1] skipped: true"])]) ∧
      (∀ k ∈ outerKeys 0 (portRules.events "t" "n" (.object ruleEntries)),
        FindsValue portRules (.object ruleEntries) k.1 k.2 ∨
          IsInjected portRules (.object ruleEntries) k.1 k.2) ∧
      (outerPaths (portRules.events "t" "n" (.object ruleEntries))).Nodup := by
  have haddressable : Everywhere Addressable (.object ruleEntries) := by
    simp [ruleEntries, Everywhere, EverywhereInItems, EverywhereInEntries, Addressable]
  have hdocument : Json.document? "[]" = some (.array []) := by cbv
  have hpolicy : expanded (.string "[]") = .document (.list []) := by
    rw [expanded, hdocument]
    rfl
  have hrestored : restoredBody portRules .root ruleEntries =
      [("policy", expanded (.string "[]")),
        ("rule", .list [.object [("data", .document (.scalar .null)), ("port", .scalar .null)],
          .comment "rule[1] skipped: true"])] := rfl
  have hall := events_readBack portRules.traits portRules.schema "t" "n" ruleEntries haddressable
  rw [← hpolicy, ← hrestored]
  exact ⟨haddressable, hall⟩

end StackExport.Proofs.SerializedTree
