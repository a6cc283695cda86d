import StackExport.Proofs.CommentIndependence
import StackExport.Proofs.ResolutionSoundness
/-!
Resolution that replaces nothing.

Documents are expanded twice: early where references are put in place of values, and late where a
tree becomes events. The serializer does not tell a string that holds a document from that document,
so a walk that puts no reference into a tree does not show in the resource that is written, comments
about list elements that are no blocks apart: these quote the element.
-/
namespace StackExport.Proofs.ResolutionTransparency

open StackExport
open StackExport.Resource
open StackExport.Proofs.ResourceCompleteness
open StackExport.Proofs.LayoutReading
open StackExport.Proofs.ValueLayout
open StackExport.Proofs.BodyLines
open StackExport.Proofs.RenderingIndependence
open StackExport.Proofs.LinkedTree
open StackExport.Proofs.ResolutionSoundness
open StackExport.Proofs.CommentIndependence

/-! ### Unfolded trees -/

mutual

/-- The tree in which every string that holds a document is that document. -/
def unfolded : AttributeTree → AttributeTree
  | .string s =>
    match Json.document? s with
    | some doc => .document (.ofJson doc)
    | none => .string s
  | .list items => .list (unfoldedItems items)
  | .object entries => .object (unfoldedEntries entries)
  | tree => tree

def unfoldedItems : List AttributeTree → List AttributeTree
  | [] => []
  | item :: rest => unfolded item :: unfoldedItems rest

def unfoldedEntries : List (String × AttributeTree) → List (String × AttributeTree)
  | [] => []
  | (name, item) :: rest => (name, unfolded item) :: unfoldedEntries rest

end

theorem unfolded_string_of_document {s : String} {doc : Json} (h : Json.document? s = some doc) :
    unfolded (.string s) = .document (.ofJson doc) := by
  rw [unfolded, h]

theorem unfolded_string_of_none {s : String} (h : Json.document? s = none) :
    unfolded (.string s) = .string s := by
  rw [unfolded, h]

@[simp] theorem isObject_unfolded (tree : AttributeTree) :
    (unfolded tree).isObject = tree.isObject := by
  cases tree with
  | string s => cases h : Json.document? s <;> simp [unfolded, h, AttributeTree.isObject]
  | _ => rfl

@[simp] theorem all_isObject_unfoldedItems (items : List AttributeTree) :
    (unfoldedItems items).all AttributeTree.isObject = items.all AttributeTree.isObject := by
  induction items with
  | nil => rfl
  | cons item rest ih => rw [unfoldedItems, List.all_cons, List.all_cons, isObject_unfolded, ih]

@[simp] theorem isEmpty_unfoldedItems (items : List AttributeTree) :
    (unfoldedItems items).isEmpty = items.isEmpty := by
  cases items <;> rfl

@[simp] theorem isEmpty_unfoldedEntries (entries : List (String × AttributeTree)) :
    (unfoldedEntries entries).isEmpty = entries.isEmpty := by
  cases entries <;> rfl

@[simp] theorem names_unfoldedEntries (entries : List (String × AttributeTree)) :
    (unfoldedEntries entries).map (·.1) = entries.map (·.1) := by
  induction entries with
  | nil => rfl
  | cons entry rest ih => rw [unfoldedEntries, List.map_cons, List.map_cons, ih]

@[simp] theorem dataShape_unfolded (tree : AttributeTree) :
    dataShape (unfolded tree) = dataShape tree := by
  cases tree with
  | string s => cases h : Json.document? s <;> simp [unfolded, h, dataShape]
  | _ => rfl

/-! ### Events -/

section

variable (r : Rules)

theorem classify_unfolded_list (path : Path) (items : List AttributeTree) :
    r.classify path (.list (unfoldedItems items)) = r.classify path (.list items) := by
  simp only [Rules.classify, AttributeTree.isObjectList, all_isObject_unfoldedItems,
    isEmpty_unfoldedItems]
  rfl

/-- The shape of a value does not depend on what its strings hold. -/
theorem classify_unfolded (path : Path) (tree : AttributeTree) :
    r.classify path (unfolded tree) = r.classify path tree := by
  cases tree with
  | list items => exact classify_unfolded_list r path items
  | string s => cases h : Json.document? s <;> simp [unfolded, h, Rules.classify]
  | _ => rfl

theorem bodyKey_unfolded (path : Path) (name : String) (tree : AttributeTree) :
    bodyKey r path name (unfolded tree) = bodyKey r path name tree := by
  rw [bodyKey, bodyKey, classify_unfolded]

mutual

theorem value_unfolded (path : Path) : ∀ tree : AttributeTree,
    r.value path (unfolded tree) = r.value path tree
  | .string s => by cases h : Json.document? s <;> simp [unfolded, h, Rules.value]
  | .list items => by rw [unfolded, Rules.value, Rules.value, items_unfolded path 0 items]
  | .object entries => by rw [unfolded, Rules.value, Rules.value, entries_unfolded path entries]
  | .null | .bool _ | .number _ | .reference _ | .document _ => rfl

theorem items_unfolded (path : Path) (index : Nat) : ∀ items : List AttributeTree,
    r.items path index (unfoldedItems items) = r.items path index items
  | [] => rfl
  | item :: rest => by
      rw [unfoldedItems, Rules.items, Rules.items, value_unfolded _ item,
        items_unfolded path (index + 1) rest]

theorem entries_unfolded (path : Path) : ∀ entries : List (String × AttributeTree),
    r.entries path (unfoldedEntries entries) = r.entries path entries
  | [] => rfl
  | (name, item) :: rest => by
      rw [unfoldedEntries, Rules.entries, Rules.entries, dataShape_unfolded,
        value_unfolded _ item, entries_unfolded path rest]

end

/-- A list element that is no object is no block either way. -/
theorem blocks_cons_of_not_object {item : AttributeTree} (h : item.isObject = false) (path : Path)
    (name : String) (index : Nat) (rest : List AttributeTree) :
    r.blocks path name index (item :: rest) =
      Rules.skippedComment name index item :: r.blocks path name (index + 1) rest := by
  cases item with
  | object entries => cases h
  | _ => rfl

/-- A body lacks the same names when its values are unfolded. -/
theorem bodyEvents_unfolded {path : Path} {entries : List (String × AttributeTree)}
    (h : (r.body path (unfoldedEntries entries)).map silenced =
      (r.body path entries).map silenced) :
    (bodyEvents r path (unfoldedEntries entries)).map silenced =
      (bodyEvents r path entries).map silenced := by
  rw [bodyEvents, bodyEvents, names_unfoldedEntries, List.map_append, List.map_append, h]

mutual

theorem bodyValue_unfolded (path : Path) (name : String) : ∀ tree : AttributeTree,
    (bodyValue r path name (unfolded tree)).map silenced =
      (bodyValue r path name tree).map silenced
  | .list items => by
      have hvalue := value_unfolded r path (.list items)
      have hblocks := blocks_unfolded path name 0 items
      rw [unfolded] at hvalue ⊢
      rw [bodyValue, bodyValue, classify_unfolded_list, hvalue]
      split
      · simp only [List.map_cons, List.map_append, hblocks]
      · rfl
  | .object entries => by
      have hvalue := value_unfolded r path (.object entries)
      have hshape := classify_unfolded r path (.object entries)
      have hbody := bodyEvents_unfolded r (body_unfolded path entries)
      rw [unfolded] at hvalue hshape ⊢
      rw [bodyValue, bodyValue, hvalue, hshape]
      split
      · simp only [List.map_cons, List.map_append, hbody]
      · rfl
  | .string s => by
      have hvalue := value_unfolded r path (.string s)
      cases h : Json.document? s with
      | none => rw [unfolded_string_of_none h]
      | some doc =>
          rw [unfolded_string_of_document h] at hvalue ⊢
          exact congrArg _ hvalue
  | .null | .bool _ | .number _ | .reference _ | .document _ => rfl

theorem blocks_unfolded (path : Path) (name : String) (index : Nat) :
    ∀ items : List AttributeTree,
      (r.blocks path name index (unfoldedItems items)).map silenced =
        (r.blocks path name index items).map silenced
  | [] => rfl
  | item :: rest => by
      have hrest := blocks_unfolded path name (index + 1) rest
      rw [unfoldedItems]
      cases item with
      | object entries =>
          have hbody := bodyEvents_unfolded r (body_unfolded (path.element index) entries)
          rw [unfolded, blocks_cons_object, blocks_cons_object]
          simp only [List.map_cons, List.map_append, hbody, hrest]
      | _ =>
          rw [blocks_cons_of_not_object r (isObject_unfolded _),
            blocks_cons_of_not_object r rfl, List.map_cons, hrest]
          rfl

theorem body_unfolded (path : Path) : ∀ entries : List (String × AttributeTree),
    (r.body path (unfoldedEntries entries)).map silenced = (r.body path entries).map silenced
  | [] => rfl
  | (name, tree) :: rest => by
      rw [unfoldedEntries, Rules.body, Rules.body, keyed_eq, keyed_eq, bodyKey_unfolded,
        List.map_append, List.map_append, List.map_cons, List.map_cons,
        bodyValue_unfolded _ name tree, body_unfolded path rest]

end

theorem rootBody_unfolded (tree : AttributeTree) :
    (r.rootBody (unfolded tree)).map silenced = (r.rootBody tree).map silenced := by
  cases tree with
  | object entries => exact bodyEvents_unfolded r (body_unfolded r .root entries)
  | string s => cases h : Json.document? s <;> simp [unfolded, h, Rules.rootBody]
  | _ => rfl

/-- Strings that hold documents are serialized as those documents, comments apart. -/
theorem events_unfolded (type name : String) (tree : AttributeTree) :
    (r.events type name (unfolded tree)).map silenced = (r.events type name tree).map silenced := by
  simp only [Rules.events, List.map_append, List.map_cons, rootBody_unfolded]

/-! ### Lines -/

section

variable (c : Context)

theorem defaulted_unfolded (key : MappingKey) (tree : AttributeTree) (layout : Layout) :
    defaulted c key (unfolded tree) layout = defaulted c key tree layout := by
  cases tree with
  | string s => cases h : Json.document? s <;> simp [unfolded, h, defaulted]
  | _ => rfl

mutual

theorem layoutOf_unfolded (item : Bool) (path : Path) : ∀ tree : AttributeTree,
    layoutOf c r item path (unfolded tree) = layoutOf c r item path tree
  | .string s => by cases h : Json.document? s <;> simp [unfolded, h, layoutOf]
  | .list items => by
      rw [unfolded, layoutOf, layoutOf, isEmpty_unfoldedItems, itemLayouts_unfolded path 0 items]
  | .object entries => by
      rw [unfolded, layoutOf, layoutOf, isEmpty_unfoldedEntries,
        entryLayouts_unfolded item path entries]
  | .null | .bool _ | .number _ | .reference _ | .document _ => rfl

theorem itemLayouts_unfolded (path : Path) (index : Nat) : ∀ items : List AttributeTree,
    itemLayouts c r path index (unfoldedItems items) = itemLayouts c r path index items
  | [] => rfl
  | item :: rest => by
      rw [unfoldedItems, itemLayouts, itemLayouts, layoutOf_unfolded true _ item,
        itemLayouts_unfolded path (index + 1) rest]

theorem entryLayouts_unfolded (filtered : Bool) (path : Path) :
    ∀ entries : List (String × AttributeTree),
      entryLayouts c r filtered path (unfoldedEntries entries) =
        entryLayouts c r filtered path entries
  | [] => rfl
  | (name, tree) :: rest => by
      simp only [unfoldedEntries, entryLayouts, dataShape_unfolded, value_unfolded,
        defaulted_unfolded, layoutOf_unfolded false (path.child name) tree,
        entryLayouts_unfolded filtered path rest]

end

theorem isWritten_unfolded (path : Path) (name : String) (tree : AttributeTree) :
    isWritten c (bodyKey r path name (unfolded tree))
        (c.applyDefault (bodyKey r path name (unfolded tree))
          (bodyValue r path name (unfolded tree))) =
      isWritten c (bodyKey r path name tree)
        (c.applyDefault (bodyKey r path name tree) (bodyValue r path name tree)) := by
  rw [bodyKey_unfolded]
  exact isWritten_applyDefault_eq c _ (bodyValue_unfolded r path name tree)

theorem missingLines_unfolded (path : Path) (entries : List (String × AttributeTree)) :
    missingLines c r path ((unfoldedEntries entries).map (·.1)) =
      missingLines c r path (entries.map (·.1)) := by
  rw [names_unfoldedEntries]

theorem blockLines_cons_of_not_object {item : AttributeTree} (h : item.isObject = false)
    (path : Path) (name : String) (index : Nat) (rest : List AttributeTree) :
    blockLines c r path name index (item :: rest) =
      .comment (skippedText name index item) :: blockLines c r path name (index + 1) rest := by
  cases item with
  | object entries => cases h
  | _ => rfl

mutual

theorem attributeLines_unfolded (path : Path) (name : String) : ∀ tree : AttributeTree,
    silencedLines (attributeLines c r path name (unfolded tree)) =
      silencedLines (attributeLines c r path name tree)
  | .list items => by
      have hlayout := layoutOf_unfolded r c false path (.list items)
      rw [unfolded] at hlayout ⊢
      rw [attributeLines, attributeLines, classify_unfolded_list, hlayout]
      split
      · exact blockLines_unfolded path name 0 items
      · rfl
  | .object entries => by
      have hlayout := layoutOf_unfolded r c false path (.object entries)
      have hshape := classify_unfolded r path (.object entries)
      rw [unfolded] at hlayout hshape ⊢
      rw [attributeLines, attributeLines, hshape, hlayout, missingLines_unfolded]
      split
      · simp only [silencedLines, silencedLine, silencedLines_append,
          bodyLines_unfolded path entries]
      · rfl
  | .string s => by
      have hlayout := layoutOf_unfolded r c false path (.string s)
      cases h : Json.document? s with
      | none => rw [unfolded_string_of_none h]
      | some doc =>
          rw [unfolded_string_of_document h] at hlayout ⊢
          simp only [attributeLines, defaulted, hlayout]
  | .null | .bool _ | .number _ | .reference _ | .document _ => rfl

theorem blockLines_unfolded (path : Path) (name : String) (index : Nat) :
    ∀ items : List AttributeTree,
      silencedLines (blockLines c r path name index (unfoldedItems items)) =
        silencedLines (blockLines c r path name index items)
  | [] => rfl
  | item :: rest => by
      have hrest := blockLines_unfolded path name (index + 1) rest
      rw [unfoldedItems]
      cases item with
      | object entries =>
          have hbody := bodyLines_unfolded (path.element index) entries
          simp only [unfolded, blockLines, silencedLines, silencedLine, silencedLines_append,
            missingLines_unfolded, hbody, hrest]
      | _ =>
          rw [blockLines_cons_of_not_object r c (isObject_unfolded _),
            blockLines_cons_of_not_object r c rfl, silencedLines, silencedLines, hrest]
          rfl

theorem bodyLines_unfolded (path : Path) : ∀ entries : List (String × AttributeTree),
    silencedLines (bodyLines c r path (unfoldedEntries entries)) =
      silencedLines (bodyLines c r path entries)
  | [] => rfl
  | (name, tree) :: rest => by
      rw [unfoldedEntries, bodyLines_cons, bodyLines_cons, keyedLines, keyedLines,
        isWritten_unfolded, silencedLines_append, silencedLines_append,
        bodyLines_unfolded path rest]
      split
      · rw [attributeLines_unfolded (path.child name) name tree]
      · rfl

end

theorem rootLines_unfolded (tree : AttributeTree) :
    silencedLines (rootLines c r (unfolded tree)) = silencedLines (rootLines c r tree) := by
  cases tree with
  | object entries =>
      rw [unfolded, rootLines, rootLines, missingLines_unfolded, silencedLines_append,
        silencedLines_append, bodyLines_unfolded]
  | string s => cases h : Json.document? s <;> simp [unfolded, h, rootLines]
  | _ => rfl

end

end

/-! ### Trees that no reference is put into -/

section

variable {traits : ResourceTraits} {link : Evaluated → Option Reference}

mutual

/-- Inside a document nothing but references changes anything. -/
theorem eq_of_linked_document : ∀ {scope : Scope} {tree after : AttributeTree} {n : Nat}
    {met : List Evaluated}, Linked traits link scope tree after n met → scope = .document → n = 0 →
      after = tree
  | _, _, _, _, _, .untouched _, _, _ => rfl
  | _, _, _, _, _, .leaf _ _ _, _, _ => rfl
  | _, _, _, _, _, .list _ _ h, hscope, hn =>
      congrArg _ (items_eq_of_linked_document h hscope hn)
  | _, _, _, _, _, .object _ h, hscope, hn =>
      congrArg _ (entries_eq_of_linked_document h hscope hn)
  | _, _, _, _, _, .document _ h, _, hn => congrArg _ (eq_of_linked_document h rfl hn)

theorem items_eq_of_linked_document : ∀ {scope : Scope} {index : Nat}
    {items after : List AttributeTree} {n : Nat} {met : List Evaluated},
    LinkedItems traits link scope index items after n met → scope = .document → n = 0 →
      after = items
  | _, _, _, _, _, _, .nil, _, _ => rfl
  | _, _, _, _, _, _, .cons h hrest, hscope, hn => by
      subst hscope
      obtain ⟨hitem, hothers⟩ := Nat.add_eq_zero_iff.mp hn
      rw [eq_of_linked_document h rfl hitem, items_eq_of_linked_document hrest rfl hothers]

theorem entries_eq_of_linked_document : ∀ {scope : Scope}
    {entries after : List (String × AttributeTree)} {n : Nat} {met : List Evaluated},
    LinkedEntries traits link scope entries after n met → scope = .document → n = 0 →
      after = entries
  | _, _, _, _, _, .nil, _, _ => rfl
  | _, _, _, _, _, .cons h hrest, hscope, hn => by
      subst hscope
      obtain ⟨hitem, hothers⟩ := Nat.add_eq_zero_iff.mp hn
      rw [eq_of_linked_document h rfl hitem, entries_eq_of_linked_document hrest rfl hothers]

end

-- Strings that were expanded are the one difference that is left, and unfolding removes it.
mutual

theorem unfolded_eq_of_linked : ∀ {scope : Scope} {tree after : AttributeTree} {n : Nat}
    {met : List Evaluated}, Linked traits link scope tree after n met → n = 0 →
      unfolded after = unfolded tree
  | _, _, _, _, _, .untouched _, _ => rfl
  | _, _, _, _, _, .leaf _ _ _, _ => rfl
  | _, _, _, _, _, .expanded _ _ hd h, hn => by
      rw [eq_of_linked_document h rfl hn, unfolded_string_of_document hd]
      rfl
  | _, _, _, _, _, .list _ _ h, hn =>
      congrArg AttributeTree.list (unfoldedItems_eq_of_linked h hn)
  | _, _, _, _, _, .object _ h, hn =>
      congrArg AttributeTree.object (unfoldedEntries_eq_of_linked h hn)
  | _, _, _, _, _, .document _ h, hn => by rw [eq_of_linked_document h rfl hn]

theorem unfoldedItems_eq_of_linked : ∀ {scope : Scope} {index : Nat}
    {items after : List AttributeTree} {n : Nat} {met : List Evaluated},
    LinkedItems traits link scope index items after n met → n = 0 →
      unfoldedItems after = unfoldedItems items
  | _, _, _, _, _, _, .nil, _ => rfl
  | _, _, _, _, _, _, .cons h hrest, hn => by
      obtain ⟨hitem, hothers⟩ := Nat.add_eq_zero_iff.mp hn
      rw [unfoldedItems, unfoldedItems, unfolded_eq_of_linked h hitem,
        unfoldedItems_eq_of_linked hrest hothers]

theorem unfoldedEntries_eq_of_linked : ∀ {scope : Scope}
    {entries after : List (String × AttributeTree)} {n : Nat} {met : List Evaluated},
    LinkedEntries traits link scope entries after n met → n = 0 →
      unfoldedEntries after = unfoldedEntries entries
  | _, _, _, _, _, .nil, _ => rfl
  | _, _, _, _, _, .cons h hrest, hn => by
      obtain ⟨hitem, hothers⟩ := Nat.add_eq_zero_iff.mp hn
      rw [unfoldedEntries, unfoldedEntries, unfolded_eq_of_linked h hitem,
        unfoldedEntries_eq_of_linked hrest hothers]

end

mutual

/-- Without references for values nothing is replaced. -/
theorem eq_zero_of_linked : ∀ {scope : Scope} {tree after : AttributeTree} {n : Nat}
    {met : List Evaluated}, Linked traits link scope tree after n met → (∀ v, link v = none) → n = 0
  | _, _, _, _, _, .untouched _, _ => rfl
  | _, _, _, _, _, .leaf _ _ _, _ => rfl
  | _, _, _, _, _, .reference _ _ hl, hnone => by
      rw [hnone] at hl
      cases hl
  | _, _, _, _, _, .expanded _ _ _ h, hnone => eq_zero_of_linked h hnone
  | _, _, _, _, _, .list _ _ h, hnone => eq_zero_of_linkedItems h hnone
  | _, _, _, _, _, .object _ h, hnone => eq_zero_of_linkedEntries h hnone
  | _, _, _, _, _, .document _ h, hnone => eq_zero_of_linked h hnone

theorem eq_zero_of_linkedItems : ∀ {scope : Scope} {index : Nat}
    {items after : List AttributeTree} {n : Nat} {met : List Evaluated},
    LinkedItems traits link scope index items after n met → (∀ v, link v = none) → n = 0
  | _, _, _, _, _, _, .nil, _ => rfl
  | _, _, _, _, _, _, .cons h hrest, hnone => by
      rw [eq_zero_of_linked h hnone, eq_zero_of_linkedItems hrest hnone]

theorem eq_zero_of_linkedEntries : ∀ {scope : Scope}
    {entries after : List (String × AttributeTree)} {n : Nat} {met : List Evaluated},
    LinkedEntries traits link scope entries after n met → (∀ v, link v = none) → n = 0
  | _, _, _, _, _, .nil, _ => rfl
  | _, _, _, _, _, .cons h hrest, hnone => by
      rw [eq_zero_of_linked h hnone, eq_zero_of_linkedEntries hrest hnone]

end

end

/-! ### Resolution -/

section

variable {c : RenderContext} {s : Stack} {m : ResourceMapping} {traits : ResourceTraits}
  {tree : AttributeTree} {ds : Declarations}

/-- A resource none of whose calls can take the place of a value has no value replaced. -/
theorem replaced_eq_zero_of_no_link (h : ∀ v, link c s (callsOf c m) v = none) :
    (resolve c s m traits tree ds).replaced = 0 := by
  rcases unchanged_or_soundlyResolved c s m traits tree ds with ⟨-, -, hreplaced, -⟩ | ⟨met, hresolved⟩
  · exact hreplaced
  · exact eq_zero_of_linked hresolved.linked h

/-- Resolution that replaces nothing unfolds strings at most. -/
theorem unfolded_resolve (h : (resolve c s m traits tree ds).replaced = 0) :
    unfolded (resolve c s m traits tree ds).attributes = unfolded tree := by
  rcases unchanged_or_soundlyResolved c s m traits tree ds with ⟨-, hsame, -⟩ | ⟨met, hresolved⟩
  · rw [hsame]
  · exact unfolded_eq_of_linked hresolved.linked h

/-- Trees with the same unfolding have the same events, comments apart. -/
theorem events_eq_of_unfolded_eq (r : Rules) (type name : String) {after : AttributeTree}
    (h : unfolded after = unfolded tree) :
    (r.events type name after).map silenced = (r.events type name tree).map silenced := by
  rw [← events_unfolded, h, events_unfolded]

theorem rootLines_eq_of_unfolded_eq (r : Rules) (type name : String) {after : AttributeTree}
    (h : unfolded after = unfolded tree) :
    silencedLines (rootLines (resourceContext r type name after) r after) =
      silencedLines (rootLines (resourceContext r type name tree) r tree) := by
  have hcontext : resourceContext r type name after = resourceContext r type name tree :=
    contextOf_eq r.traits (events_eq_of_unfolded_eq r type name h)
  rw [hcontext, ← rootLines_unfolded, h, rootLines_unfolded]

/-- Where resolution replaces nothing, the attributes are serialized and written as before. The
events differ at most in the texts of comments, the lines that are written likewise, and without
comments there is no difference at all. -/
theorem resolve_transparent (c : RenderContext) (s : Stack) (m : ResourceMapping)
    (traits : ResourceTraits) (tree : AttributeTree) (ds : Declarations) (r : Rules)
    (type name : String) {after : AttributeTree}
    (hafter : after = (resolve c s m traits tree ds).attributes)
    (hreplaced : (resolve c s m traits tree ds).replaced = 0) :
    (r.events type name after).map silenced = (r.events type name tree).map silenced ∧
      (∃ lines lines', silencedLines lines' = silencedLines lines ∧
        write r.traits (r.events type name tree) =
          .ok (resourceOpening type name ++ linesText 1 lines ++ "\x7d\n\n") ∧
        write r.traits (r.events type name after) =
          .ok (resourceOpening type name ++ linesText 1 lines' ++ "\x7d\n\n")) ∧
      ((∀ e ∈ r.events type name tree, e.isComment = false) →
        write r.traits (r.events type name after) = write r.traits (r.events type name tree)) := by
  have hunfolded : unfolded after = unfolded tree := hafter ▸ unfolded_resolve hreplaced
  have hevents := events_eq_of_unfolded_eq r type name hunfolded
  refine ⟨hevents, ⟨_, _, rootLines_eq_of_unfolded_eq r type name hunfolded,
    events_text r.traits r.schema type name tree,
    events_text r.traits r.schema type name after⟩, fun hquiet => ?_⟩
  have hsame : r.events type name after = r.events type name tree := by
    rw [← map_silenced_of_no_comment (isComment_of_map_silenced hevents hquiet), hevents,
      map_silenced_of_no_comment hquiet]
  rw [hsame]

/-- The call that stands for the value cannot be rendered, so that the value is expanded. -/
theorem resolve_transparent_sample :
    (resolve (tableContext (.ref "Other")) (tableStack (.ref "Other")) thing (.none "test_thing")
        (.object [("p", .string "[]")]) []).attributes = .object [("p", .document (.list []))] ∧
    (Rules.events ⟨.none "test_thing", []⟩ "test_thing" "t"
        (.object [("p", .document (.list []))])).map silenced =
      (Rules.events ⟨.none "test_thing", []⟩ "test_thing" "t"
        (.object [("p", .string "[]")])).map silenced := by
  have hcalls : callsOf (tableContext (.ref "Other")) thing = [.ref "Other"] := by cbv
  have hrendering : rendering (tableContext (.ref "Other")) (.ref "Other") =
      .error (.unresolvedReference "Other") := by cbv
  have hlink (v : Evaluated) : link (tableContext (.ref "Other")) (tableStack (.ref "Other"))
      (callsOf (tableContext (.ref "Other")) thing) v = none := by
    refine Option.eq_none_iff_forall_ne_some.mpr fun x hx => ?_
    obtain ⟨call, hcall, -, hx⟩ := exists_call_of_link hx
    rw [hcalls, List.mem_singleton] at hcall
    rw [hcall, hrendering] at hx
    cases hx
  have hexpanded := document_expanded (.none "test_thing") (by cbv) (by cbv)
  exact ⟨hexpanded, (resolve_transparent _ _ _ _ _ [] ⟨.none "test_thing", []⟩ "test_thing" "t"
    hexpanded.symm (replaced_eq_zero_of_no_link hlink)).1⟩

end

end StackExport.Proofs.ResolutionTransparency
