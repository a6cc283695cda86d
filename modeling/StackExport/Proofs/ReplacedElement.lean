import StackExport.Proofs.BlockLookahead
import StackExport.Proofs.ConflictDecisions
/-!
Trees that differ in one element of a list.

Replacing an object in a list by another changes the populated paths at and below the object's path
and no others: all keys around the object keep their content.
-/
namespace StackExport.Proofs.ReplacedElement

open StackExport
open StackExport.Resource
open StackExport.Proofs.StreamNesting
open StackExport.Proofs.ResourceCompleteness
open StackExport.Proofs.WritableStream
open StackExport.Proofs.SerializedResource
open StackExport.Proofs.WrittenText
open StackExport.Proofs.ValueLayout
open StackExport.Proofs.BodyLines
open StackExport.Proofs.PopulatedPaths
open StackExport.Proofs.BlockLookahead
open StackExport.Proofs.ConflictDecisions

variable {traits : ResourceTraits} {r : Rules} {run run' rest rest' value value' : List Event}
  {path element here : Path} {name : String} {tree tree' : AttributeTree}
  {front back : List AttributeTree} {old new entries entries' : List (String × AttributeTree)}

/-! ### Runs that yield the same paths -/

/-- A path leads to an element or into it. -/
def Inside (element path : Path) : Prop := element.segments <+: path.segments

/-- Two runs yield the same paths, but for paths inside an element. -/
def SameOutside (traits : ResourceTraits) (element : Path) (run run' : List Event) : Prop :=
  ∃ paths paths', Yields traits run paths ∧ Yields traits run' paths' ∧
    ∀ path, ¬Inside element path → (path ∈ paths ↔ path ∈ paths')

theorem sameOutside_refl {p : Part} (h : Phrase p run) (traits : ResourceTraits)
    (element : Path) : SameOutside traits element run run := by
  obtain ⟨paths, hpaths⟩ := exists_yields h traits
  exact ⟨paths, paths, hpaths, hpaths, fun _ _ => Iff.rfl⟩

theorem SameOutside.append (h : SameOutside traits element run run')
    (hrest : SameOutside traits element rest rest') :
    SameOutside traits element (run ++ rest) (run' ++ rest') := by
  obtain ⟨paths, paths', hpaths, hpaths', hsame⟩ := h
  obtain ⟨others, others', hothers, hothers', hsame'⟩ := hrest
  refine ⟨_, _, hpaths.append hothers, hpaths'.append hothers', fun path hpath => ?_⟩
  rw [List.mem_append, List.mem_append, hsame path hpath, hsame' path hpath]

theorem SameOutside.cons {e e' : Event} (he : e.isKey = false) (he' : e'.isKey = false)
    (h : SameOutside traits element run run') :
    SameOutside traits element (e :: run) (e' :: run') := by
  obtain ⟨paths, paths', hpaths, hpaths', hsame⟩ := h
  exact ⟨_, _, hpaths.cons he, hpaths'.cons he', hsame⟩

theorem SameOutside.group (o : Opening) (h : SameOutside traits element run run') :
    SameOutside traits element (.start o :: (run ++ [.stop o.group]))
      (.start o :: (run' ++ [.stop o.group])) := by
  obtain ⟨paths, paths', hpaths, hpaths', hsame⟩ := h
  exact ⟨_, _, hpaths.group, hpaths'.group, hsame⟩

/-- Two keys with one path, of which both have content, have the same paths behind them. -/
theorem SameOutside.of_key (key key' : MappingKey) (hpath : key'.path = key.path)
    (hv : IsValue value) (hv' : IsValue value')
    (hcontent : (contentOf traits key value).isEmpty = false)
    (hcontent' : (contentOf traits key' value').isEmpty = false)
    (h : SameOutside traits element value value') :
    SameOutside traits element (.key key :: value) (.key key' :: value') := by
  obtain ⟨paths, paths', hpaths, hpaths', hsame⟩ := h
  refine ⟨_, _, hpaths.of_key hv key, hpaths'.of_key hv' key', fun path hP => ?_⟩
  rw [List.mem_append, List.mem_append, mem_ownPath_iff, mem_ownPath_iff, hpath, hcontent,
    hcontent', hsame path hP]

/-- All paths of a run lie below a path. -/
def YieldsBelow (traits : ResourceTraits) (path : Path) (run : List Event) : Prop :=
  ∃ paths, Yields traits run paths ∧ ∀ p ∈ paths, ∃ name, (path.child name).segments <+: p.segments

/-- Runs that yield nothing outside an element. -/
theorem sameOutside_of_below (h : YieldsBelow traits element run)
    (h' : YieldsBelow traits element run') : SameOutside traits element run run' := by
  obtain ⟨paths, hpaths, hbelow⟩ := h
  obtain ⟨paths', hpaths', hbelow'⟩ := h'
  refine ⟨paths, paths', hpaths, hpaths', fun path houtside => iff_of_false ?_ ?_⟩
  · intro hmem
    obtain ⟨name, hprefix⟩ := hbelow path hmem
    exact houtside ((List.prefix_append _ _).trans hprefix)
  · intro hmem
    obtain ⟨name, hprefix⟩ := hbelow' path hmem
    exact houtside ((List.prefix_append _ _).trans hprefix)

/-! ### Lists and objects in parts -/

theorem items_append (r : Rules) (path : Path) (index : Nat) (before behind : List AttributeTree) :
    r.items path index (before ++ behind) =
      r.items path index before ++ r.items path (index + before.length) behind := by
  induction before generalizing index with
  | nil => rfl
  | cons item before ih =>
      rw [List.cons_append, Rules.items, Rules.items, ih, List.append_assoc, List.length_cons,
        Nat.add_assoc, Nat.add_comm 1]

theorem blocks_cons (r : Rules) (path : Path) (name : String) (index : Nat) (item : AttributeTree)
    (items : List AttributeTree) :
    r.blocks path name index (item :: items) =
      r.blocks path name index [item] ++ r.blocks path name (index + 1) items := by
  cases item with
  | object entries => rw [blocks_cons_object, blocks_cons_object, Rules.blocks, List.append_nil]
  | _ => rfl

theorem blocks_append (r : Rules) (path : Path) (name : String) (index : Nat)
    (before behind : List AttributeTree) :
    r.blocks path name index (before ++ behind) =
      r.blocks path name index before ++ r.blocks path name (index + before.length) behind := by
  induction before generalizing index with
  | nil => rfl
  | cons item before ih =>
      rw [List.cons_append, blocks_cons, blocks_cons r path name index item before, ih,
        List.append_assoc, List.length_cons, Nat.add_assoc, Nat.add_comm 1]

theorem entries_append (r : Rules) (path : Path) (before behind : List (String × AttributeTree)) :
    r.entries path (before ++ behind) = r.entries path before ++ r.entries path behind := by
  induction before with
  | nil => rfl
  | cons entry before ih =>
      obtain ⟨name, tree⟩ := entry
      rw [List.cons_append, Rules.entries, Rules.entries, ih]
      simp only [List.cons_append, List.append_assoc]

theorem body_append (r : Rules) (path : Path) (before behind : List (String × AttributeTree)) :
    r.body path (before ++ behind) = r.body path before ++ r.body path behind := by
  induction before with
  | nil => rfl
  | cons entry before ih =>
      obtain ⟨name, tree⟩ := entry
      rw [List.cons_append, Rules.body, Rules.body, ih, List.append_assoc]

/-! ### Content of what has parts -/

/-- A list with items, or an object with entries. -/
def HasParts : AttributeTree → Prop
  | .list items => items ≠ []
  | .object entries => entries ≠ []
  | _ => False

theorem isEmpty_contentOf_group {o : Opening} (ho : o.group ≠ .json) (ho' : o.group ≠ .resource)
    (hrun : run ≠ []) (key : MappingKey) :
    (contentOf traits key (.start o :: (run ++ [.stop o.group]))).isEmpty = false := by
  have hlength : (Event.start o :: (run ++ [.stop o.group])).length ≠ 2 := by
    have hpos := List.length_pos_of_ne_nil hrun
    simp only [List.length_cons, List.length_append, List.length_nil]
    omega
  cases o with
  | json => exact absurd rfl ho
  | resource type name => exact absurd rfl ho'
  | sequence =>
      simp only [contentOf, if_neg hlength]
      split <;> rfl
  | mapping =>
      simp only [contentOf, if_neg hlength]
      rfl
  | block name =>
      simp only [contentOf, if_neg hlength]
      rfl

theorem bodyEvents_ne_nil (r : Rules) (path : Path) (h : entries ≠ []) :
    bodyEvents r path entries ≠ [] := by
  obtain ⟨⟨name, tree⟩, rest, rfl⟩ := List.exists_cons_of_ne_nil h
  rw [bodyEvents, Rules.body, keyed_eq]
  exact List.cons_ne_nil _ _

theorem blocks_ne_nil (r : Rules) (path : Path) (name : String) {items : List AttributeTree}
    (h : items ≠ []) : r.blocks path name 0 items ≠ [] := by
  obtain ⟨item, rest, rfl⟩ := List.exists_cons_of_ne_nil h
  cases item with
  | object entries =>
      rw [blocks_cons_object]
      exact List.cons_ne_nil _ _
  | _ => exact List.cons_ne_nil _ _

theorem isEmpty_contentOf_value (h : HasParts tree) (r : Rules) (path : Path) (key : MappingKey) :
    (contentOf traits key (r.value path tree)).isEmpty = false := by
  cases tree with
  | list items =>
      obtain ⟨item, rest, rfl⟩ := List.exists_cons_of_ne_nil (show items ≠ [] from h)
      exact isEmpty_contentOf_group (o := .sequence) (by decide) (by decide)
        (value_append_ne_nil (value_phrase r _ item) _) key
  | object entries =>
      obtain ⟨⟨name, tree⟩, rest, rfl⟩ := List.exists_cons_of_ne_nil (show entries ≠ [] from h)
      have hne : r.entries path ((name, tree) :: rest) ≠ [] := by simp [Rules.entries]
      exact isEmpty_contentOf_group (o := .mapping) (by decide) (by decide) hne key
  | _ => exact h.elim

theorem isEmpty_contentOf_bodyValue (h : HasParts tree) (r : Rules) (path : Path) (name : String)
    (key : MappingKey) : (contentOf traits key (bodyValue r path name tree)).isEmpty = false := by
  have hvalue : (contentOf traits key (r.value path tree)).isEmpty = false :=
    isEmpty_contentOf_value h r path key
  cases tree with
  | list items =>
      rw [bodyValue]
      split
      · exact isEmpty_contentOf_group (o := .sequence) (by decide) (by decide)
          (blocks_ne_nil r path name h) key
      · exact hvalue
  | object entries =>
      rw [bodyValue]
      split
      · exact isEmpty_contentOf_group (o := .block name) nofun nofun
          (bodyEvents_ne_nil r path h) key
      · exact hvalue
  | _ => exact h.elim

/-! ### One element replaced -/

/-- Two trees at a path differ only in the object that stands behind the first elements of the list
at `here`. -/
inductive Replaced (here : Path) (front back : List AttributeTree)
    (old new : List (String × AttributeTree)) : Path → AttributeTree → AttributeTree → Prop where
  | here : Replaced here front back old new here (.list (front ++ .object old :: back))
      (.list (front ++ .object new :: back))
  | item {path : Path} {tree tree' : AttributeTree} {before behind : List AttributeTree}
      (h : Replaced here front back old new (path.element before.length) tree tree') :
      Replaced here front back old new path (.list (before ++ tree :: behind))
        (.list (before ++ tree' :: behind))
  | entry {path : Path} {name : String} {tree tree' : AttributeTree}
      {before behind : List (String × AttributeTree)}
      (h : Replaced here front back old new (path.child name) tree tree') :
      Replaced here front back old new path (.object (before ++ (name, tree) :: behind))
        (.object (before ++ (name, tree') :: behind))

/-- Two trees take each other's place without a change outside an element, wherever they stand. -/
structure Exchangeable (r : Rules) (element path : Path) (tree tree' : AttributeTree) : Prop where
  isObject_eq : tree.isObject = tree'.isObject
  value : SameOutside r.traits element (r.value path tree) (r.value path tree')
  bodyValue : ∀ name, SameOutside r.traits element (bodyValue r path name tree)
    (bodyValue r path name tree')
  block : ∀ outer name index, path = outer.element index →
    SameOutside r.traits element (r.blocks outer name index [tree])
      (r.blocks outer name index [tree'])

theorem classify_list_congr {items items' : List AttributeTree}
    (hobjects : items.all AttributeTree.isObject = items'.all AttributeTree.isObject)
    (hempty : items.isEmpty = items'.isEmpty) :
    r.classify path (.list items) = r.classify path (.list items') := by
  simp only [Rules.classify, AttributeTree.isObjectList, hobjects, hempty]
  rfl

theorem bodyEvents_yieldsBelow (r : Rules) (path : Path)
    (entries : List (String × AttributeTree)) :
    YieldsBelow r.traits path (bodyEvents r path entries) :=
  exists_yield (bodyEvents_phrase r path entries) r.traits
    ((body_under r path entries).append (missing_under r path _))

/-- Objects can be exchanged in the place of the element itself. -/
theorem exchangeable_objects (r : Rules) (element : Path)
    (old new : List (String × AttributeTree)) :
    Exchangeable r element element (.object old) (.object new) where
  isObject_eq := rfl
  value := sameOutside_of_below
    (exists_yield (value_phrase r element _) r.traits (value_under r element _))
    (exists_yield (value_phrase r element _) r.traits (value_under r element _))
  bodyValue name := sameOutside_of_below (exists_bodyValue_yield r element name _)
    (exists_bodyValue_yield r element name _)
  block outer name index hpath := by
    have hbody : SameOutside r.traits element (bodyEvents r element old)
        (bodyEvents r element new) :=
      sameOutside_of_below (bodyEvents_yieldsBelow r element old)
        (bodyEvents_yieldsBelow r element new)
    rw [blocks_cons_object, blocks_cons_object, ← hpath]
    exact (hbody.group (.block name)).append (sameOutside_refl (p := .blocks) .noBlock _ _)

theorem Exchangeable.item {before behind : List AttributeTree}
    (h : Exchangeable r element (path.element before.length) tree tree') :
    Exchangeable r element path (.list (before ++ tree :: behind))
      (.list (before ++ tree' :: behind)) := by
  have hitems : SameOutside r.traits element (r.items path 0 (before ++ tree :: behind))
      (r.items path 0 (before ++ tree' :: behind)) := by
    rw [items_append, items_append, Rules.items, Rules.items, Nat.zero_add]
    exact (sameOutside_refl (items_phrase r path 0 before) _ _).append
      (h.value.append (sameOutside_refl (items_phrase r path _ behind) _ _))
  have hblocks (name : String) :
      SameOutside r.traits element (r.blocks path name 0 (before ++ tree :: behind))
        (r.blocks path name 0 (before ++ tree' :: behind)) := by
    rw [blocks_append, blocks_append, blocks_cons, blocks_cons r path name _ tree', Nat.zero_add]
    exact (sameOutside_refl (blocks_phrase r path name 0 before) _ _).append
      ((h.block path name _ rfl).append
        (sameOutside_refl (blocks_phrase r path name _ behind) _ _))
  have hobjects : (before ++ tree :: behind).all AttributeTree.isObject =
      (before ++ tree' :: behind).all AttributeTree.isObject := by
    rw [List.all_append, List.all_append, List.all_cons, List.all_cons, h.isObject_eq]
  have hshape : r.classify path (.list (before ++ tree :: behind)) =
      r.classify path (.list (before ++ tree' :: behind)) :=
    classify_list_congr hobjects (by cases before <;> rfl)
  refine ⟨rfl, hitems.group .sequence, fun name => ?_, fun outer name index _ => ?_⟩
  · rw [BodyLines.bodyValue, BodyLines.bodyValue, hshape]
    split
    · exact (hblocks name).group .sequence
    · exact hitems.group .sequence
  · exact (sameOutside_refl (p := .blocks) .noBlock _ _).cons rfl rfl

theorem body_phrase (r : Rules) (path : Path) (entries : List (String × AttributeTree)) :
    Phrase .body (r.body path entries) := by
  have hbody := body_append_phrase r path entries .noKey
  rwa [List.append_nil] at hbody

theorem Exchangeable.bodyEvents {before behind : List (String × AttributeTree)}
    (h : Exchangeable r element (path.child name) tree tree') (hparts : HasParts tree)
    (hparts' : HasParts tree') :
    SameOutside r.traits element (bodyEvents r path (before ++ (name, tree) :: behind))
      (bodyEvents r path (before ++ (name, tree') :: behind)) := by
  have hkeyed := (h.bodyValue name).of_key (bodyKey r (path.child name) name tree)
    (bodyKey r (path.child name) name tree') rfl (bodyValue_fed r _ name tree).1
    (bodyValue_fed r _ name tree').1 (isEmpty_contentOf_bodyValue hparts r _ name _)
    (isEmpty_contentOf_bodyValue hparts' r _ name _)
  have hnames : (before ++ (name, tree) :: behind).map (·.1) =
      (before ++ (name, tree') :: behind).map (·.1) := by
    simp only [List.map_append, List.map_cons]
  rw [BodyLines.bodyEvents, BodyLines.bodyEvents, body_append, body_append, Rules.body, Rules.body,
    keyed_eq, keyed_eq, hnames]
  exact ((sameOutside_refl (body_phrase r path before) _ _).append
    (hkeyed.append (sameOutside_refl (body_phrase r path behind) _ _))).append
      (sameOutside_refl (missingEvents_phrase r path _) _ _)

theorem Exchangeable.entry {before behind : List (String × AttributeTree)}
    (h : Exchangeable r element (path.child name) tree tree') (hparts : HasParts tree)
    (hparts' : HasParts tree') :
    Exchangeable r element path (.object (before ++ (name, tree) :: behind))
      (.object (before ++ (name, tree') :: behind)) := by
  have hkeyed := h.value.of_key (r.dataKey name (path.child name) (dataShape tree))
    (r.dataKey name (path.child name) (dataShape tree')) rfl (value_phrase r _ tree).isValue
    (value_phrase r _ tree').isValue (isEmpty_contentOf_value hparts r _ _)
    (isEmpty_contentOf_value hparts' r _ _)
  have hentries : SameOutside r.traits element (r.entries path (before ++ (name, tree) :: behind))
      (r.entries path (before ++ (name, tree') :: behind)) := by
    rw [entries_append, entries_append, Rules.entries, Rules.entries]
    exact (sameOutside_refl (entries_phrase r path before) _ _).append
      (hkeyed.append (sameOutside_refl (entries_phrase r path behind) _ _))
  refine ⟨rfl, hentries.group .mapping, fun outer => ?_, ?_⟩
  · have hshape : r.classify path (.object (before ++ (name, tree) :: behind)) =
        r.classify path (.object (before ++ (name, tree') :: behind)) := rfl
    rw [BodyLines.bodyValue, BodyLines.bodyValue, hshape]
    split
    · exact (h.bodyEvents hparts hparts').group (.block outer)
    · exact hentries.group .mapping
  · rintro outer inner index rfl
    rw [blocks_cons_object, blocks_cons_object]
    exact ((h.bodyEvents hparts hparts').group (.block inner)).append
      (sameOutside_refl (p := .blocks) .noBlock _ _)

theorem Replaced.hasParts (h : Replaced here front back old new path tree tree') :
    HasParts tree ∧ HasParts tree' := by
  cases h with
  | here | item _ | entry _ => exact ⟨by simp [HasParts], by simp [HasParts]⟩

/-- What differs in an element can be exchanged without a change outside the element. -/
theorem Replaced.exchangeable (h : Replaced here front back old new path tree tree') (r : Rules) :
    Exchangeable r (here.element front.length) path tree tree' := by
  induction h with
  | here => exact (exchangeable_objects r _ old new).item
  | item _ ih => exact ih.item
  | entry h ih => exact ih.entry h.hasParts.1 h.hasParts.2

/-- Outside the element the same paths are populated. -/
theorem Replaced.mem_populated_iff {attributes attributes' : AttributeTree}
    (h : Replaced here front back old new .root attributes attributes') (r : Rules)
    (type name : String) (hpath : ¬Inside (here.element front.length) path) :
    path ∈ (resourceContext r type name attributes).populated ↔
      path ∈ (resourceContext r type name attributes').populated := by
  have hbody : SameOutside r.traits (here.element front.length) (r.rootBody attributes)
      (r.rootBody attributes') := by
    cases h with
    | here | item _ => exact sameOutside_refl (p := .body) .noKey _ _
    | entry h => exact (h.exchangeable r).bodyEvents h.hasParts.1 h.hasParts.2
  obtain ⟨paths, paths', hpaths, hpaths', hsame⟩ := hbody
  rw [populated_of_yields type name hpaths, populated_of_yields type name hpaths']
  exact hsame path hpath

end StackExport.Proofs.ReplacedElement
