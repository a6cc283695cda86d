import StackExport.Proofs.PrintedValues
import StackExport.Proofs.ReplacedElement
/-!
The texts of a list's elements.

What is written for an element of a list depends on its siblings only where a key of the element
loses a conflict to something populated inside a sibling. Otherwise a sibling can be replaced by any
other object, and the element's text stays the same.
-/
namespace StackExport.Proofs.SiblingElements

open Relation
open StackExport
open StackExport.Resource
open StackExport.Proofs.StreamNesting
open StackExport.Proofs.WritableStream
open StackExport.Proofs.SerializedResource
open StackExport.Proofs.LayoutReading
open StackExport.Proofs.WrittenText
open StackExport.Proofs.ValueLayout
open StackExport.Proofs.BodyLines
open StackExport.Proofs.PrintedValues (bodyLines_append)
open StackExport.Proofs.ConflictDecisions
open StackExport.Proofs.ReplacedElement

variable {c c' : Context} {r : Rules} {n : Nat} {path here element : Path} {name : String}
  {tree attributes attributes' : AttributeTree} {items front back : List AttributeTree}
  {entries old new : List (String × AttributeTree)}

/-! ### Texts in texts -/

def Within (inner outer : String) : Prop := ∃ before behind, outer = before ++ inner ++ behind

theorem within_self (s : String) : Within s s := ⟨"", "", by simp⟩

theorem within_middle (before inner behind : String) : Within inner (before ++ inner ++ behind) :=
  ⟨before, behind, rfl⟩

theorem Within.trans {a b d : String} (h : Within a b) (h' : Within b d) : Within a d := by
  obtain ⟨before, behind, rfl⟩ := h
  obtain ⟨before', behind', rfl⟩ := h'
  exact ⟨before' ++ before, behind ++ behind', by simp only [String.append_assoc]⟩

/-! ### What is written where -/

/-- A part of a resource that is written: an attribute of a body, the blocks of a list, or a value,
each under a number of levels. -/
inductive Site where
  | attribute (n : Nat) (path : Path) (name : String) (tree : AttributeTree)
  | blocks (n : Nat) (path : Path) (name : String) (items : List AttributeTree)
  | value (n : Nat) (item : Bool) (path : Path) (tree : AttributeTree)

/-- The text of a part. -/
def Site.text (c : Context) (r : Rules) : Site → String
  | .attribute n path name tree => linesText n (attributeLines c r path name tree)
  | .blocks n path name items => linesText n (blockLines c r path name 0 items)
  | .value n item path tree => textOf (written n (layoutOf c r item path tree))

/-- The key of an attribute is written in its body. -/
def IsAttribute (c : Context) (r : Rules) (path : Path) (name : String) (tree : AttributeTree) :
    Prop :=
  isWritten c (bodyKey r path name tree)
    (c.applyDefault (bodyKey r path name tree) (bodyValue r path name tree)) = true

instance : Decidable (IsAttribute c r path name tree) := inferInstanceAs (Decidable (_ = true))

/-- One part of a resource is written directly in another one. -/
inductive Part (c : Context) (r : Rules) : Site → Site → Prop where
  | blocks {n : Nat} {path : Path} {name : String} {items : List AttributeTree}
      (hshape : r.classify path (.list items) = .blockList) :
      Part c r (.attribute n path name (.list items)) (.blocks n path name items)
  | block {n : Nat} {path : Path} {name key : String} {tree : AttributeTree}
      {before behind : List AttributeTree} {first last : List (String × AttributeTree)}
      (hkey : IsAttribute c r ((path.element before.length).child key) key tree) :
      Part c r (.blocks n path name (before ++ .object (first ++ (key, tree) :: last) :: behind))
        (.attribute (n + 1) ((path.element before.length).child key) key tree)
  | body {n : Nat} {path : Path} {name key : String} {tree : AttributeTree}
      {first last : List (String × AttributeTree)}
      (hshape : r.classify path (.object (first ++ (key, tree) :: last)) = .blockObject)
      (hkey : IsAttribute c r (path.child key) key tree) :
      Part c r (.attribute n path name (.object (first ++ (key, tree) :: last)))
        (.attribute (n + 1) (path.child key) key tree)
  | list {n : Nat} {path : Path} {name : String} {items : List AttributeTree}
      (hshape : r.classify path (.list items) ≠ .blockList) :
      Part c r (.attribute n path name (.list items)) (.value n false path (.list items))
  | object {n : Nat} {path : Path} {name : String} {entries : List (String × AttributeTree)}
      (hshape : r.classify path (.object entries) ≠ .blockObject) :
      Part c r (.attribute n path name (.object entries)) (.value n false path (.object entries))
  | item {n : Nat} {isItem : Bool} {path : Path} {tree : AttributeTree}
      {before behind : List AttributeTree} :
      Part c r (.value n isItem path (.list (before ++ tree :: behind)))
        (.value (n + 1) true (path.element before.length) tree)
  | entry {n : Nat} {isItem : Bool} {path : Path} {key : String} {tree : AttributeTree}
      {first last : List (String × AttributeTree)} (hnull : tree ≠ .null)
      (hkept : isItem = true → isKept c (r.dataKey key (path.child key) (dataShape tree))
        (c.applyDefault (r.dataKey key (path.child key) (dataShape tree))
          (r.value (path.child key) tree)) = true) :
      Part c r (.value n isItem path (.object (first ++ (key, tree) :: last)))
        (.value (n + 1) false (path.child key) tree)

/-- A part of a resource is written, directly in its body or anywhere inside an attribute there. -/
def IsWrittenIn (c : Context) (r : Rules) (attributes : AttributeTree) (site : Site) : Prop :=
  ∃ first key tree last, attributes = .object (first ++ (key, tree) :: last) ∧
    IsAttribute c r (.child .root key) key tree ∧
    ReflTransGen (Part c r) (.attribute 1 (.child .root key) key tree) site

/-! ### Texts of lists and objects -/

theorem blockLines_cons (c : Context) (r : Rules) (path : Path) (name : String) (index : Nat)
    (item : AttributeTree) (items : List AttributeTree) :
    blockLines c r path name index (item :: items) =
      blockLines c r path name index [item] ++ blockLines c r path name (index + 1) items := by
  cases item with
  | object entries => rfl
  | _ => rfl

theorem blockLines_append (c : Context) (r : Rules) (path : Path) (name : String) (index : Nat)
    (before behind : List AttributeTree) :
    blockLines c r path name index (before ++ behind) =
      blockLines c r path name index before ++
        blockLines c r path name (index + before.length) behind := by
  induction before generalizing index with
  | nil => rfl
  | cons item before ih =>
      rw [List.cons_append, blockLines_cons, blockLines_cons c r path name index item before, ih,
        List.append_assoc, List.length_cons, Nat.add_assoc, Nat.add_comm 1]

theorem itemLayouts_append (c : Context) (r : Rules) (path : Path) (index : Nat)
    (before behind : List AttributeTree) :
    itemLayouts c r path index (before ++ behind) =
      itemLayouts c r path index before ++ itemLayouts c r path (index + before.length) behind := by
  induction before generalizing index with
  | nil => rfl
  | cons item before ih =>
      rw [List.cons_append, itemLayouts, itemLayouts, ih, List.length_cons, Nat.add_assoc,
        Nat.add_comm 1]
      rfl

theorem entryLayouts_append (c : Context) (r : Rules) (filtered : Bool) (path : Path)
    (before behind : List (String × AttributeTree)) :
    entryLayouts c r filtered path (before ++ behind) =
      entryLayouts c r filtered path before ++ entryLayouts c r filtered path behind := by
  induction before with
  | nil => rfl
  | cons entry before ih =>
      obtain ⟨key, tree⟩ := entry
      rw [List.cons_append, entryLayouts, entryLayouts, ih]
      split_ifs <;> rfl

theorem textOf_writtenItems_append (n : Nat) (before behind : List Layout) :
    textOf (writtenItems n (before ++ behind)) =
      textOf (writtenItems n before) ++ textOf (writtenItems n behind) := by
  induction before with
  | nil => exact String.empty_append.symm
  | cons item before ih =>
      rw [List.cons_append, textOf_item, textOf_item, ih]
      simp only [String.append_assoc]

theorem textOf_writtenEntries_append (n : Nat) (before behind : List (String × Layout)) :
    textOf (writtenEntries n (before ++ behind)) =
      textOf (writtenEntries n before) ++ textOf (writtenEntries n behind) := by
  induction before with
  | nil => exact String.empty_append.symm
  | cons entry before ih =>
      obtain ⟨key, value⟩ := entry
      rw [List.cons_append, textOf_entry, textOf_entry, ih]
      simp only [String.append_assoc]

/-! ### Parts of a text -/

theorem keyedLines_eq (h : IsAttribute c r path name tree) :
    keyedLines c r path name tree = attributeLines c r path name tree :=
  if_pos h

theorem within_bodyLines (h : IsAttribute c r (path.child name) name tree) (n : Nat)
    (first last : List (String × AttributeTree)) :
    Within (linesText n (attributeLines c r (path.child name) name tree))
      (linesText n (bodyLines c r path (first ++ (name, tree) :: last))) := by
  rw [bodyLines_append, bodyLines_cons, keyedLines_eq h, linesText_append, linesText_append,
    ← String.append_assoc]
  exact within_middle _ _ _

theorem within_block {key : String} (h : IsAttribute c r (path.child key) key tree) (n : Nat)
    (name : String) (first last : List (String × AttributeTree)) (lines : List Line) :
    Within (linesText (n + 1) (attributeLines c r (path.child key) key tree))
      (lineText n (.block name (bodyLines c r path (first ++ (key, tree) :: last) ++ lines))) := by
  rw [lineText, linesText_append]
  refine (within_bodyLines h (n + 1) first last).trans ?_
  exact ⟨indentation n ++ name ++ " \x7b\n", linesText (n + 1) lines ++ (indentation n ++ "\x7d\n"),
    by simp only [String.append_assoc]⟩

theorem layoutOf_list (c : Context) (r : Rules) (isItem : Bool) (path : Path)
    (h : items ≠ []) :
    layoutOf c r isItem path (.list items) = .list (itemLayouts c r path 0 items) := by
  rw [layoutOf, if_neg (by simpa using h)]

theorem layoutOf_object (c : Context) (r : Rules) (isItem : Bool) (path : Path)
    (h : entries ≠ []) :
    layoutOf c r isItem path (.object entries) =
      .object (entryLayouts c r isItem path entries) := by
  rw [layoutOf, if_neg (by simpa using h)]

theorem within_items (c : Context) (r : Rules) (n : Nat) (path : Path)
    (before behind : List AttributeTree) (tree : AttributeTree) :
    Within (textOf (written n (layoutOf c r true (path.element before.length) tree)))
      (textOf (writtenItems n (itemLayouts c r path 0 (before ++ tree :: behind)))) := by
  rw [itemLayouts_append, itemLayouts, textOf_writtenItems_append, textOf_item, Nat.zero_add]
  exact ⟨textOf (writtenItems n (itemLayouts c r path 0 before)) ++ indentation n,
    ",\n" ++ textOf (writtenItems n (itemLayouts c r path (before.length + 1) behind)),
    by simp only [String.append_assoc]⟩

theorem within_entries {isItem : Bool} {key : String} (hnull : tree ≠ .null)
    (hkept : isItem = true → isKept c (r.dataKey key (path.child key) (dataShape tree))
      (c.applyDefault (r.dataKey key (path.child key) (dataShape tree))
        (r.value (path.child key) tree)) = true)
    (n : Nat) (first last : List (String × AttributeTree)) :
    Within (textOf (written n (layoutOf c r false (path.child key) tree)))
      (textOf (writtenEntries n
        (entryLayouts c r isItem path (first ++ (key, tree) :: last)))) := by
  have hdefaulted (key : MappingKey) (layout : Layout) : defaulted c key tree layout = layout := by
    cases tree with
    | null => exact absurd rfl hnull
    | _ => rfl
  have hentry : entryLayouts c r isItem path ((key, tree) :: last) =
      (key, layoutOf c r false (path.child key) tree) :: entryLayouts c r isItem path last := by
    cases isItem with
    | false => rfl
    | true => rw [entryLayouts, if_pos rfl, if_pos (hkept rfl), hdefaulted]
  rw [entryLayouts_append, hentry, textOf_writtenEntries_append, textOf_entry]
  exact ⟨textOf (writtenEntries n (entryLayouts c r isItem path first)) ++ indentation n ++
      Text.objectKey key ++ " = ",
    "\n" ++ textOf (writtenEntries n (entryLayouts c r isItem path last)),
    by simp only [String.append_assoc]⟩

/-- The text of a part stands in the text of what it is a part of. -/
theorem Part.within {s s' : Site} (h : Part c r s s') : Within (s'.text c r) (s.text c r) := by
  cases h with
  | blocks hshape =>
      rw [Site.text, Site.text, attributeLines, if_pos hshape]
      exact within_self _
  | block hkey =>
      rw [Site.text, Site.text, blockLines_append, blockLines, linesText_append, linesText,
        Nat.zero_add, ← String.append_assoc]
      exact (within_block hkey _ _ _ _ _).trans (within_middle _ _ _)
  | body hshape hkey =>
      rw [Site.text, Site.text, attributeLines, if_pos hshape, linesText_singleton]
      exact within_block hkey _ _ _ _ _
  | list hshape | object hshape =>
      rw [Site.text, Site.text, attributeLines, if_neg hshape, linesText_singleton, lineText]
      exact ⟨_, "\n", by rw [← String.append_assoc]⟩
  | item =>
      rw [Site.text, Site.text, layoutOf_list c r _ _ (by simp), textOf_list]
      exact (within_items c r _ _ _ _ _).trans (within_middle _ _ _)
  | entry hnull hkept =>
      rw [Site.text, Site.text, layoutOf_object c r _ _ (by simp), textOf_object]
      exact (within_entries hnull hkept _ _ _).trans (within_middle _ _ _)

theorem within_of_parts {s s' : Site} (h : ReflTransGen (Part c r) s s') :
    Within (s'.text c r) (s.text c r) := by
  induction h with
  | refl => exact within_self _
  | tail _ hpart ih => exact hpart.within.trans ih

/-- The text of a part that is written stands in the text of the resource. -/
theorem IsWrittenIn.within {type name : String} {site : Site}
    (h : IsWrittenIn (resourceContext r type name attributes) r attributes site) :
    ∃ text, write r.traits (r.events type name attributes) = .ok text ∧
      Within (site.text (resourceContext r type name attributes) r) text := by
  obtain ⟨first, key, tree, last, rfl, hkey, hparts⟩ := h
  have htext := events_text r.traits r.schema type name (.object (first ++ (key, tree) :: last))
  rw [rootLines, linesText_append, ← String.append_assoc, String.append_assoc] at htext
  refine ⟨_, htext, (within_of_parts hparts).trans ((within_bodyLines hkey 1 first last).trans ?_)⟩
  exact within_middle _ _ _

/-! ### Elements -/

/-- How the elements of a list are written: as blocks with a name, or as items of a value. -/
inductive Form where
  | blocks (name : String)
  | items (isItem : Bool)

/-- The part of the resource that a list is. -/
def Form.site (form : Form) (n : Nat) (path : Path) (items : List AttributeTree) : Site :=
  match form with
  | .blocks name => .blocks n path name items
  | .items isItem => .value n isItem path (.list items)

/-- The events of an element. -/
def Form.events (form : Form) (r : Rules) (path : Path) (index : Nat) (item : AttributeTree) :
    List Event :=
  match form with
  | .blocks name => r.blocks path name index [item]
  | .items _ => r.value (path.element index) item

/-- What is written for an element. -/
def Form.text (form : Form) (c : Context) (r : Rules) (n : Nat) (path : Path) (index : Nat)
    (item : AttributeTree) : String :=
  match form with
  | .blocks name => linesText n (blockLines c r path name index [item])
  | .items _ =>
    indentation (n + 1) ++ textOf (written (n + 1) (layoutOf c r true (path.element index) item)) ++
      ",\n"

/-- What is written for the elements from an index on. -/
def Form.texts (form : Form) (c : Context) (r : Rules) (n : Nat) (path : Path) :
    (index : Nat) → List AttributeTree → List String
  | _, [] => []
  | index, item :: rest => form.text c r n path index item :: form.texts c r n path (index + 1) rest

theorem join_texts_blocks (c : Context) (r : Rules) (n : Nat) (path : Path) (name : String)
    (index : Nat) (items : List AttributeTree) :
    String.join ((Form.blocks name).texts c r n path index items) =
      linesText n (blockLines c r path name index items) := by
  induction items generalizing index with
  | nil => rfl
  | cons item rest ih =>
      rw [Form.texts, String.join_cons, ih, blockLines_cons, linesText_append]
      rfl

theorem join_texts_items (c : Context) (r : Rules) (n : Nat) (path : Path) (isItem : Bool)
    (index : Nat) (items : List AttributeTree) :
    String.join ((Form.items isItem).texts c r n path index items) =
      textOf (writtenItems (n + 1) (itemLayouts c r path index items)) := by
  induction items generalizing index with
  | nil => rfl
  | cons item rest ih =>
      rw [Form.texts, String.join_cons, ih, itemLayouts, textOf_item]
      rfl

/-- The text of a list is made of the texts of its elements, one after the other. -/
theorem within_site (form : Form) (c : Context) (r : Rules) (n : Nat) (path : Path)
    (h : items ≠ []) :
    Within (String.join (form.texts c r n path 0 items)) ((form.site n path items).text c r) := by
  cases form with
  | blocks name =>
      rw [join_texts_blocks]
      exact within_self _
  | items isItem =>
      rw [join_texts_items, Form.site, Site.text, layoutOf_list c r isItem path h, textOf_list]
      exact within_middle _ _ _

/-- The writer stands where an element of the list comes next. -/
def Form.IsReady (form : Form) (n : Nat) (d : Draft) : Prop :=
  match form with
  | .blocks _ => AtBlocks d ∧ depth d = n
  | .items _ => d.pending = none ∧ d.inline = false ∧ d.frames.head? = some .sequence ∧
      d.inJson = false ∧ depth d = n + 1

/-- The text of an element is what the writer adds while it goes over its events. -/
theorem Form.text_adds (form : Form) (c : Context) (r : Rules) (path : Path) (index : Nat)
    (item : AttributeTree) {d : Draft} (h : form.IsReady n d) :
    Adds c d (form.events r path index item) (form.text c r n path index item) := by
  cases form with
  | blocks name =>
      obtain ⟨hd, hdepth⟩ := h
      rw [Form.text, ← hdepth]
      exact blocks_adds c r path name index [item] hd
  | items isItem =>
      obtain ⟨hpending, hinline, hframes, hjson, hdepth⟩ := h
      have hadds := value_adds c r (path.element index) item hpending (.inr (.inl hframes)) hjson
      rw [around_item hinline hframes, isItem_of_sequence hframes hjson, hdepth] at hadds
      exact hadds

/-- Contexts that agree on the keys of an element write the same text for it. -/
theorem Form.text_congr {form : Form} {index : Nat} {item : AttributeTree}
    (h : Agree c c' (form.events r path index item)) (n : Nat) :
    form.text c' r n path index item = form.text c r n path index item := by
  cases form with
  | blocks name => rw [Form.text, Form.text, Agree.blockLines_eq name index [item] h]
  | items isItem => rw [Form.text, Form.text, Agree.layoutOf_eq true item h]

/-! ### Conflicts between elements -/

/-- A path loses a conflict to something populated inside an element. -/
def LosesToElement (c : Context) (element path : Path) : Prop :=
  LosesTo c.traits (fun p => p ∈ c.populated ∧ Inside element p) path

/-- A path loses a conflict. -/
def Loses (c : Context) (path : Path) : Prop := c.traits.isConflictLoser path c.populated = true

instance : Decidable (Loses c path) := inferInstanceAs (Decidable (_ = true))

/-- Where the same is populated outside an element, what loses in one context loses to the element
or loses in the other context as well. -/
theorem Loses.or_loses (h : Loses c path) (htraits : c'.traits = c.traits)
    (hsame : ∀ p, ¬Inside element p → p ∈ c.populated → p ∈ c'.populated) :
    LosesToElement c element path ∨ Loses c' path := by
  rw [Loses, isConflictLoser_iff, htraits]
  refine (isConflictLoser_iff.mp h).or fun p hp => ?_
  by_cases hinside : Inside element p
  · exact .inl ⟨hp, hinside⟩
  · exact .inr (hsame p hinside hp)

/-- No key of a run that may be left out loses to an element in one of two contexts only. -/
def Undisturbed (c c' : Context) (element : Path) (run : List Event) : Prop :=
  ∀ key, .key key ∈ run → c.isRequired key = false →
    (LosesToElement c element key.path → Loses c' key.path) ∧
      (LosesToElement c' element key.path → Loses c key.path)

/-- If only what stands inside an element differs, then the contexts agree on an undisturbed run. -/
theorem Undisturbed.agree {run : List Event} (h : Undisturbed c c' element run)
    (htraits : c'.traits = c.traits)
    (hsame : ∀ p, ¬Inside element p → (p ∈ c.populated ↔ p ∈ c'.populated)) : Agree c c' run where
  traits_eq := htraits
  loser_eq key hkey hrequired := by
    obtain ⟨hto, hto'⟩ := h key hkey hrequired
    have hiff : Loses c' key.path ↔ Loses c key.path :=
      ⟨fun hl => (hl.or_loses htraits.symm fun p hp => (hsame p hp).mpr).elim hto' id,
        fun hl => (hl.or_loses htraits fun p hp => (hsame p hp).mp).elim hto id⟩
    rw [Loses, Loses, htraits] at hiff
    exact Bool.eq_iff_iff.mpr hiff

/-! ### Lists that are written -/

/-- The texts of the elements of a list are what the writer adds for them, and they stand one after
the other in the text of the resource. -/
structure Form.Elements (form : Form) (r : Rules) (type resource : String)
    (attributes : AttributeTree) (n : Nat) (path : Path) (items : List AttributeTree) : Prop where
  adds : ∀ i item, items[i]? = some item → ∀ d, form.IsReady n d →
    Adds (resourceContext r type resource attributes) d (form.events r path i item)
      (form.text (resourceContext r type resource attributes) r n path i item)
  within : ∃ text, write r.traits (r.events type resource attributes) = .ok text ∧
    Within (String.join (form.texts (resourceContext r type resource attributes) r n path 0 items))
      text

theorem IsWrittenIn.elements {type resource : String} {form : Form} (hne : items ≠ [])
    (h : IsWrittenIn (resourceContext r type resource attributes) r attributes
      (form.site n path items)) : form.Elements r type resource attributes n path items where
  adds i item _ _ hready := form.text_adds _ r path i item hready
  within := by
    obtain ⟨text, htext, hwithin⟩ := h.within
    exact ⟨text, htext, (within_site form _ r n path hne).trans hwithin⟩

theorem getElem?_replaced {i : Nat} (h : i ≠ front.length) (tree tree' : AttributeTree) :
    (front ++ tree' :: back)[i]? = (front ++ tree :: back)[i]? := by
  rw [List.getElem?_append, List.getElem?_append]
  split
  · rfl
  · obtain ⟨k, hk⟩ : ∃ k, i - front.length = k + 1 := ⟨i - front.length - 1, by omega⟩
    rw [hk, List.getElem?_cons_succ, List.getElem?_cons_succ]

/-- An object of a list is replaced and the list is still written in the same form. The text of each
other element of the list stays what it is, unless a key of the element loses a conflict to a path
inside the object in one of the resources only. -/
theorem sibling_text_eq (form : Form) (n : Nat) (type resource : String)
    (hreplaced : Replaced here front back old new .root attributes attributes')
    (hold : IsWrittenIn (resourceContext r type resource attributes) r attributes
      (form.site n here (front ++ .object old :: back)))
    (hnew : IsWrittenIn (resourceContext r type resource attributes') r attributes'
      (form.site n here (front ++ .object new :: back))) :
    form.Elements r type resource attributes n here (front ++ .object old :: back) ∧
    form.Elements r type resource attributes' n here (front ++ .object new :: back) ∧
    ∀ i item, i ≠ front.length → (front ++ .object old :: back)[i]? = some item →
      (front ++ .object new :: back)[i]? = some item ∧
      (Undisturbed (resourceContext r type resource attributes)
          (resourceContext r type resource attributes') (here.element front.length)
          (form.events r here i item) →
        form.text (resourceContext r type resource attributes') r n here i item =
          form.text (resourceContext r type resource attributes) r n here i item) := by
  refine ⟨hold.elements (by simp), hnew.elements (by simp), fun i item hi hitem =>
    ⟨(getElem?_replaced hi _ _).trans hitem, fun hundisturbed => ?_⟩⟩
  have hagree := hundisturbed.agree rfl fun p hp => hreplaced.mem_populated_iff r type resource hp
  exact Form.text_congr hagree n

/-! ### Blocks with one of two names -/

/-- In each block `rule` only the first of two names is written. -/
def ruleRules : Rules where
  traits :=
    { ResourceTraits.none "t" with
      repeatedBlock := ["rule"]
      conflicts := [["rule.*.a", "rule.*.b"]] }
  schema := []

/-- A block that has the second name. -/
def secondRule : AttributeTree := .object [("b", .string "y")]

/-- A resource with two blocks, of which the first has a given entry. -/
def ruleTree (entry : String × AttributeTree) : AttributeTree :=
  .object [("rule", .list [.object [entry], secondRule])]

def ruleContext (entry : String × AttributeTree) : Context :=
  resourceContext ruleRules "t" "n" (ruleTree entry)

variable {entry entry' : String × AttributeTree}

theorem replaced_rule : Replaced (.child .root "rule") [] [secondRule] [entry] [entry'] .root
    (ruleTree entry) (ruleTree entry') :=
  @Replaced.entry _ _ _ _ _ _ _ _ _ [] [] .here

theorem rules_written (h : IsAttribute (ruleContext entry) ruleRules (.child .root "rule") "rule"
    (.list [.object [entry], secondRule])) :
    IsWrittenIn (ruleContext entry) ruleRules (ruleTree entry)
      ((Form.blocks "rule").site 1 (.child .root "rule") [.object [entry], secondRule]) :=
  ⟨[], "rule", _, [], rfl, h, .single (.blocks rfl)⟩

theorem path_of_secondRule {key : MappingKey}
    (h : .key key ∈ (Form.blocks "rule").events ruleRules (.child .root "rule") 1 secondRule) :
    key.path = ⟨["rule", "1", "b"]⟩ := by
  have hevents : (Form.blocks "rule").events ruleRules (.child .root "rule") 1 secondRule =
      [.start (.block "rule"), .key (ruleRules.key "b" ⟨["rule", "1", "b"]⟩ .value),
        .scalar (.string "y"), .stop .block] := by rfl
  rw [hevents] at h
  obtain rfl : key = ruleRules.key "b" ⟨["rule", "1", "b"]⟩ .value := by simpa using h
  rfl

theorem sibling_text_eq_rules :
    (Form.blocks "rule").text (ruleContext ("a", .string "z")) ruleRules 1 (.child .root "rule") 1
        secondRule =
      (Form.blocks "rule").text (ruleContext ("a", .string "x")) ruleRules 1 (.child .root "rule") 1
        secondRule := by
  have hold : IsWrittenIn (ruleContext ("a", .string "x")) _ _ _ := rules_written (by decide)
  have hnew : IsWrittenIn (ruleContext ("a", .string "z")) _ _ _ := rules_written (by decide)
  obtain ⟨-, -, hsame⟩ := sibling_text_eq (.blocks "rule") 1 "t" "n" replaced_rule hold hnew
  refine (hsame 1 secondRule (by decide) rfl).2 fun key hkey _ => ?_
  have hlost : Loses (ruleContext ("a", .string "x")) ⟨["rule", "1", "b"]⟩ := by decide
  have hlost' : Loses (ruleContext ("a", .string "z")) ⟨["rule", "1", "b"]⟩ := by decide
  rw [path_of_secondRule hkey]
  exact ⟨fun _ => hlost', fun _ => hlost⟩

/-- The first block takes the second name from the other block if it has the first name itself. -/
theorem sibling_text_ne :
    Replaced (.child .root "rule") [] [secondRule] [("a", .string "x")] [("c", .string "z")] .root
        (ruleTree ("a", .string "x")) (ruleTree ("c", .string "z")) ∧
      IsWrittenIn (ruleContext ("a", .string "x")) ruleRules (ruleTree ("a", .string "x"))
        ((Form.blocks "rule").site 1 (.child .root "rule")
          [.object [("a", .string "x")], secondRule]) ∧
      IsWrittenIn (ruleContext ("c", .string "z")) ruleRules (ruleTree ("c", .string "z"))
        ((Form.blocks "rule").site 1 (.child .root "rule")
          [.object [("c", .string "z")], secondRule]) ∧
      (Form.blocks "rule").text (ruleContext ("a", .string "x")) ruleRules 1 (.child .root "rule") 1
        secondRule = "  rule \x7b\n  \x7d\n" ∧
      (Form.blocks "rule").text (ruleContext ("c", .string "z")) ruleRules 1 (.child .root "rule") 1
        secondRule = "  rule \x7b\n    b = \"y\"\n  \x7d\n" := by
  have hempty : blockLines (ruleContext ("a", .string "x")) ruleRules (.child .root "rule") "rule" 1
      [secondRule] = [.block "rule" []] := by rfl
  have hnamed : blockLines (ruleContext ("c", .string "z")) ruleRules (.child .root "rule") "rule" 1
      [secondRule] = [.block "rule" [.assignment "b" (.scalar (.string "y"))]] := by rfl
  refine ⟨replaced_rule, rules_written (by decide), rules_written (by decide), ?_, ?_⟩
  · rw [Form.text, hempty]
    decide +kernel
  · rw [Form.text, hnamed]
    decide +kernel

end StackExport.Proofs.SiblingElements
