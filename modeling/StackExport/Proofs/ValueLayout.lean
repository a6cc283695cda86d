import StackExport.Proofs.LayoutReading
import StackExport.Proofs.SerializedResource
import StackExport.Proofs.WrittenText
/-!
The layouts of serialized values.

The entries of a map hold data, except where the map is an item of an attribute's list: there they
are attributes, which are left out or get defaults like those of the resource itself.
-/
namespace StackExport.Proofs.ValueLayout

open Relation
open StackExport
open StackExport.Resource
open StackExport.Proofs.StreamNesting
open StackExport.Proofs.WriterRun
open StackExport.Proofs.ResourceCompleteness
open StackExport.Proofs.WritableStream
open StackExport.Proofs.SerializedResource
open StackExport.Proofs.LiteralReading
open StackExport.Proofs.LayoutReading
open StackExport.Proofs.WrittenText

variable {c : Context} {d : Draft} {json item : Bool} {run value : List Event} {layout : Layout}

/-! ### Texts of layouts -/

def textOf (ps : List Piece) : String := String.ofList (plain ps)

theorem plain_append (a b : List Piece) : plain (a ++ b) = plain a ++ plain b := by
  induction a with
  | nil => rfl
  | cons p a ih => cases p <;> simp only [List.cons_append, plain, ih, List.append_assoc]

theorem textOf_append (a b : List Piece) : textOf (a ++ b) = textOf a ++ textOf b := by
  rw [textOf, plain_append, String.ofList_append]
  rfl

theorem textOf_char (c : Char) (ps : List Piece) :
    textOf (.char c :: ps) = String.singleton c ++ textOf ps :=
  String.ofList_cons

theorem plain_map (cs : List Char) : plain (cs.map .char) = cs := by
  induction cs with
  | nil => rfl
  | cons c cs ih => rw [List.map_cons, plain, ih]

theorem textOf_pieces (s : String) : textOf (pieces s) = s := by
  rw [textOf, pieces, plain_map, String.ofList_toList]

theorem textOf_scalarPieces (s : Scalar) : textOf (scalarPieces s) = s.text := by
  cases s with
  | reference r =>
      change String.ofList (r.expression.toList ++ []) = r.expression
      rw [List.append_nil, String.ofList_toList]
  | _ => exact textOf_pieces _

/-! ### What a layout is written from -/

mutual

/-- A run of events that is written with a layout, inside a document or not, as an item of an
attribute's list or elsewhere. -/
inductive LaidOut (c : Context) : (json item : Bool) → List Event → Layout → Prop where
  | scalar (json item : Bool) (s : Scalar) : LaidOut c json item [.scalar s] (.scalar s)
  | noItems (json item : Bool) :
      LaidOut c json item [.start .sequence, .stop .sequence] .noItems
  | list {json item : Bool} {run : List Event} {items : List Layout} (hn : WellNested run)
      (hne : run ≠ []) (h : LaidItems c json run items) :
      LaidOut c json item (.start .sequence :: (run ++ [.stop .sequence])) (.list items)
  | noEntries (json item : Bool) :
      LaidOut c json item [.start .mapping, .stop .mapping] .noEntries
  | object {json item : Bool} {run : List Event} {entries : List (String × Layout)}
      (hn : WellNested run) (hne : run ≠ []) (h : LaidEntries c json item run entries) :
      LaidOut c json item (.start .mapping :: (run ++ [.stop .mapping])) (.object entries)
  | call {json item : Bool} {value : List Event} {inner : Layout}
      (h : LaidOut c true false value inner) :
      LaidOut c json item (.start .json :: (value ++ [.stop .json])) (.call inner)

inductive LaidItems (c : Context) : (json : Bool) → List Event → List Layout → Prop where
  | nil (json : Bool) : LaidItems c json [] []
  | cons {json : Bool} {value run : List Event} {item : Layout} {rest : List Layout}
      (hv : LaidOut c json (!json) value item) (hrest : LaidItems c json run rest) :
      LaidItems c json (value ++ run) (item :: rest)

inductive LaidEntries (c : Context) :
    (json filtered : Bool) → List Event → List (String × Layout) → Prop where
  | nil (json filtered : Bool) : LaidEntries c json filtered [] []
  | datum {json : Bool} {key : MappingKey} {value run : List Event} {layout : Layout}
      {rest : List (String × Layout)} (hk : key.shape.isBlock = false)
      (hv : LaidOut c json false value layout) (hrest : LaidEntries c json false run rest) :
      LaidEntries c json false (.key key :: (value ++ run)) ((key.name, layout) :: rest)
  | kept {json : Bool} {key : MappingKey} {value run : List Event} {layout : Layout}
      {rest : List (String × Layout)} (hk : key.shape.isBlock = false) (hvalue : IsValue value)
      (hkept : isKept c key (c.applyDefault key value) = true)
      (hv : LaidOut c json false (c.applyDefault key value) layout)
      (hrest : LaidEntries c json true run rest) :
      LaidEntries c json true (.key key :: (value ++ run)) ((key.name, layout) :: rest)
  | leftOut {json : Bool} {key : MappingKey} {value run : List Event}
      {rest : List (String × Layout)} (hk : key.shape.isBlock = false) (hvalue : IsValue value)
      (hkept : isKept c key (c.applyDefault key value) = false)
      (hrest : LaidEntries c json true run rest) :
      LaidEntries c json true (.key key :: (value ++ run)) rest

end

/-- The number of levels by which lines are indented. -/
def depth (d : Draft) : Nat := d.frames.countP Frame.indents

theorem isItem_eq_false {f : Frame} (h : d.frames.head? = some f) (hf : f ≠ .sequence) :
    isItem d = false := by
  simp [isItem, h, hf]

theorem textOf_list (n : Nat) (items : List Layout) :
    textOf (written n (.list items)) =
      ("[" ++ "\n") ++ textOf (writtenItems (n + 1) items) ++ (indentation n ++ "]") := by
  simp only [written, textOf_char, textOf_append, textOf_pieces, String.append_assoc]
  rfl

theorem textOf_object (n : Nat) (entries : List (String × Layout)) :
    textOf (written n (.object entries)) =
      ("\x7b" ++ "\n") ++ textOf (writtenEntries (n + 1) entries) ++
        (indentation n ++ "\x7d") := by
  simp only [written, textOf_char, textOf_append, textOf_pieces, String.append_assoc]
  rfl

theorem textOf_call (n : Nat) (inner : Layout) :
    textOf (written n (.call inner)) = "jsonencode(" ++ textOf (written n inner) ++ ")" := by
  have hopen : "jsonencode(" = "jsonencode" ++ String.singleton '(' := rfl
  simp only [written, textOf_char, textOf_append, textOf_pieces, String.append_assoc, hopen]
  rfl

theorem textOf_item (n : Nat) (item : Layout) (rest : List Layout) :
    textOf (writtenItems n (item :: rest)) =
      indentation n ++ textOf (written n item) ++ ",\n" ++ textOf (writtenItems n rest) := by
  have hcomma : ",\n" = String.singleton ',' ++ "\n" := rfl
  simp only [writtenItems, textOf_char, textOf_append, textOf_pieces, String.append_assoc, hcomma]

theorem textOf_entry (n : Nat) (name : String) (value : Layout) (rest : List (String × Layout)) :
    textOf (writtenEntries n ((name, value) :: rest)) =
      indentation n ++ Text.objectKey name ++ " = " ++ (textOf (written n value) ++ "\n") ++
        textOf (writtenEntries n rest) := by
  simp only [writtenEntries, textOf_char, textOf_append, textOf_pieces, String.append_assoc]
  rfl

/-! ### What stands around a value -/

theorem around_item (hi : d.inline = false) (hf : d.frames.head? = some .sequence) (s : String) :
    lead d ++ s ++ trail d.frames = indentation (depth d) ++ s ++ ",\n" := by
  obtain ⟨outer, ho⟩ := List.head?_eq_some_iff.1 hf
  rw [lead, if_neg (by rw [hi]; decide), ho]
  rfl

theorem around_keyed {filtered : Bool} (hf : d.frames.head? = some (.mapping filtered))
    (name s : String) :
    lead (keyed d name) ++ s ++ trail (keyed d name).frames = s ++ "\n" := by
  obtain ⟨outer, ho⟩ := List.head?_eq_some_iff.1 hf
  change "" ++ s ++ trail d.frames = _
  rw [String.empty_append, ho]
  rfl

theorem around_inner (d : Draft) (s s' : String) :
    lead { inside d s .json with inline := true } ++ s' ++
      trail { inside d s .json with inline := true }.frames = s' := by
  change "" ++ s' ++ "" = s'
  rw [String.empty_append, String.append_empty]

theorem isItem_of_sequence (hf : d.frames.head? = some .sequence) (hj : d.inJson = json) :
    isItem d = !json := by
  rw [isItem, hf, hj]
  rfl

theorem filters?_of_mapping {filtered : Bool} (hf : d.frames.head? = some (.mapping filtered)) :
    d.filters? = some filtered := by
  obtain ⟨outer, ho⟩ := List.head?_eq_some_iff.1 hf
  rw [Draft.filters?, ho]

mutual

/-- A value adds its layout, with what stands in front of it and behind it. -/
theorem LaidOut.adds : ∀ {json item : Bool} {run : List Event} {layout : Layout},
    LaidOut c json item run layout → ∀ {d : Draft}, d.pending = none → Ready d →
      d.inJson = json → isItem d = item →
      Adds c d run (lead d ++ textOf (written (depth d) layout) ++ trail d.frames)
  | _, _, _, _, .scalar _ _ s, d, _, hr, _, _ => by
      rw [written, textOf_scalarPieces]
      exact adds_scalar hr s
  | _, _, _, _, .noItems _ _, d, hp, hr, _, _ => adds_noItems hp hr
  | _, _, _, _, .noEntries _ _, d, _, hr, _, _ => adds_noEntries hr
  | _, _, _, _, .list hn hne h, d, hp, hr, hj, _ => by
      have hitems := h.adds (d := inside d (lead d ++ ("[" ++ "\n")) .sequence) hp rfl rfl hj
      have hdepth : depth (inside d (lead d ++ ("[" ++ "\n")) .sequence) = depth d + 1 :=
        List.countP_cons_of_pos rfl
      have hadds := adds_list hp hr hn hne hitems
      rw [hdepth] at hadds
      simp only [textOf_list, ← String.append_assoc] at hadds ⊢
      exact hadds
  | _, _, _, _, .object hn hne h, d, hp, hr, hj, hi => by
      have hentries := h.adds (d := inside d (lead d ++ ("\x7b" ++ "\n")) (.mapping (isItem d))) hp
        rfl (by rw [hi]; rfl) hj
      have hdepth : depth (inside d (lead d ++ ("\x7b" ++ "\n")) (.mapping (isItem d))) =
          depth d + 1 := List.countP_cons_of_pos rfl
      have hadds := adds_object hr hn hne hentries
      rw [hdepth] at hadds
      simp only [textOf_object, ← String.append_assoc] at hadds ⊢
      exact hadds
  | _, _, _, _, .call h, d, hp, hr, _, _ => by
      -- the level of a document indents nothing, and its value stands on the line of the call
      have hinner := h.adds (d := { inside d (lead d ++ "jsonencode(") .json with inline := true })
        hp (.inl rfl) rfl rfl
      have hdepth : depth { inside d (lead d ++ "jsonencode(") .json with inline := true } =
          depth d := List.countP_cons_of_neg (by decide)
      rw [hdepth, around_inner] at hinner
      have hadds := adds_call hr hinner
      simp only [textOf_call, ← String.append_assoc] at hadds ⊢
      exact hadds

theorem LaidItems.adds : ∀ {json : Bool} {run : List Event} {items : List Layout},
    LaidItems c json run items → ∀ {d : Draft}, d.pending = none → d.inline = false →
      d.frames.head? = some .sequence → d.inJson = json →
      Adds c d run (textOf (writtenItems (depth d) items))
  | _, _, _, .nil _, d, _, hi, _, _ => adds_nil hi
  | _, _, _, .cons hv hrest, d, hp, hi, hf, hj => by
      have hvalue := hv.adds hp (.inr (.inl hf)) hj (isItem_of_sequence hf hj)
      rw [around_item hi hf] at hvalue
      have hadds := hvalue.append (hrest.adds (d := after d _) hp rfl hf hj)
      rw [textOf_item]
      exact hadds

theorem LaidEntries.adds : ∀ {json filtered : Bool} {run : List Event}
    {entries : List (String × Layout)}, LaidEntries c json filtered run entries →
      ∀ {d : Draft}, d.pending = none → d.inline = false →
        d.frames.head? = some (.mapping filtered) → d.inJson = json →
        Adds c d run (textOf (writtenEntries (depth d) entries))
  | _, _, _, _, .nil _ _, d, _, hi, _, _ => adds_nil hi
  | _, _, _, _, @LaidEntries.datum _ _ key _ _ _ _ hk hv hrest, d, hp, hi, hf, hj => by
      have hvalue := hv.adds (d := keyed d key.name) hp (.inl rfl) hj (isItem_eq_false hf nofun)
      rw [around_keyed hf] at hvalue
      have hentry := adds_datum (filters?_of_mapping hf) hk hvalue
      rw [textOf_entry]
      exact hentry.append (hrest.adds (d := after d _) hp rfl hf hj)
  | _, _, _, _, @LaidEntries.kept _ _ key _ _ _ _ hk hvalue hkept hv hrest, d, hp, hi, hf, hj => by
      have hadds := hv.adds (d := keyed d key.name) hp (.inl rfl) hj (isItem_eq_false hf nofun)
      rw [around_keyed hf] at hadds
      have hentry := adds_kept (filters?_of_mapping hf) hk hvalue hkept hadds
      rw [textOf_entry]
      exact hentry.append (hrest.adds (d := after d _) hp rfl hf hj)
  | _, _, _, _, .leftOut hk hvalue hkept hrest, d, hp, hi, hf, hj => by
      -- the writer drops the value behind the key, and the draft stays as it is
      have hnothing := adds_leftOut hi (filters?_of_mapping hf) hk hvalue hkept
      have hadds := hnothing.append (hrest.adds (d := after d "") hp rfl hf hj)
      rw [String.empty_append] at hadds
      exact hadds

end

/-! ### Layouts of trees -/

mutual

/-- The layout of a value inside a document. -/
def documentLayout : AttributeTree → Layout
  | .list items => if items.isEmpty then .noItems else .list (documentLayouts items)
  | .object entries =>
    if entries.isEmpty then .noEntries else .object (documentEntryLayouts entries)
  | .document inner => documentLayout inner
  | value => .scalar (leaf value)

def documentLayouts : List AttributeTree → List Layout
  | [] => []
  | item :: rest => documentLayout item :: documentLayouts rest

def documentEntryLayouts : List (String × AttributeTree) → List (String × Layout)
  | [] => []
  | (key, value) :: rest => (key, documentLayout value) :: documentEntryLayouts rest

end

/-- The tree of a value behind a key, after its default has been put in. -/
def defaulted (c : Context) (key : MappingKey) : AttributeTree → Layout → Layout
  | .null, _ => .scalar (c.traits.applyDefault key.path .null)
  | _, layout => layout

mutual

/-- The layout of an attribute's value, as an item of a list or elsewhere. -/
def layoutOf (c : Context) (r : Rules) (item : Bool) (path : Path) : AttributeTree → Layout
  | .string s =>
    match Json.document? s with
    | some doc => .call (documentLayout (.ofJson doc))
    | none => .scalar (.string s)
  | .document inner => .call (documentLayout inner)
  | .list items => if items.isEmpty then .noItems else .list (itemLayouts c r path 0 items)
  | .object entries =>
    if entries.isEmpty then .noEntries else .object (entryLayouts c r item path entries)
  | value => .scalar (leaf value)

def itemLayouts (c : Context) (r : Rules) (path : Path) (index : Nat) :
    List AttributeTree → List Layout
  | [] => []
  | item :: rest =>
    layoutOf c r true (path.element index) item :: itemLayouts c r path (index + 1) rest

/-- The layouts of a map's entries, from which attributes may be left out. -/
def entryLayouts (c : Context) (r : Rules) (filtered : Bool) (path : Path) :
    List (String × AttributeTree) → List (String × Layout)
  | [] => []
  | (name, value) :: rest =>
    let key := r.dataKey name (path.child name) (dataShape value)
    let layout := layoutOf c r false (path.child name) value
    let others := entryLayouts c r filtered path rest
    if filtered then
      if isKept c key (c.applyDefault key (r.value (path.child name) value)) then
        (name, defaulted c key value layout) :: others
      else others
    else (name, layout) :: others

end

theorem value_append_ne_nil (hv : Phrase .value value) (run : List Event) : value ++ run ≠ [] := by
  cases hv.isValue <;> nofun

mutual

theorem document_laidOut (c : Context) (path : Path) :
    ∀ tree, LaidOut c true false (documentValue path tree) (documentLayout tree)
  | .list [] => .noItems _ _
  | .list (item :: rest) =>
      .list (documentItems_phrase path 0 (item :: rest)).wellNested
        (value_append_ne_nil (documentValue_phrase _ item) _)
        (documentItems_laidItems c path 0 (item :: rest))
  | .object [] => .noEntries _ _
  | .object (entry :: rest) =>
      .object (documentEntries_phrase path (entry :: rest)).wellNested nofun
        (documentEntries_laidEntries c path (entry :: rest))
  | .document inner => document_laidOut c path inner
  | .null | .bool _ | .number _ | .string _ | .reference _ => .scalar _ _ _

theorem documentItems_laidItems (c : Context) (path : Path) (index : Nat) :
    ∀ items, LaidItems c true (documentItems path index items) (documentLayouts items)
  | [] => .nil _
  | item :: rest => .cons (document_laidOut c _ item) (documentItems_laidItems c path _ rest)

theorem documentEntries_laidEntries (c : Context) (path : Path) :
    ∀ entries, LaidEntries c true false (documentEntries path entries)
      (documentEntryLayouts entries)
  | [] => .nil _ _
  | (_, value) :: rest => .datum (isBlock_dataShape value) (document_laidOut c _ value)
      (documentEntries_laidEntries c path rest)

end

theorem defaulted_laidOut {r : Rules} {path : Path} {tree : AttributeTree} (key : MappingKey)
    (h : LaidOut c false false (r.value path tree) layout) :
    LaidOut c false false (c.applyDefault key (r.value path tree))
      (defaulted c key tree layout) := by
  cases tree with
  | null => exact .scalar _ _ _
  | string s =>
      have hsame : c.applyDefault key (r.value path (.string s)) = r.value path (.string s) := by
        rw [Rules.value]
        split <;> rfl
      rw [hsame]
      exact h
  | _ => exact h

mutual

theorem value_laidOut (c : Context) (r : Rules) (item : Bool) (path : Path) :
    ∀ tree, LaidOut c false item (r.value path tree) (layoutOf c r item path tree)
  | .string s => by
      rw [Rules.value, layoutOf]
      cases Json.document? s with
      | some doc => exact .call (document_laidOut c path _)
      | none => exact .scalar _ _ _
  | .document inner => .call (document_laidOut c path inner)
  | .list [] => .noItems _ _
  | .list (item :: rest) =>
      .list (items_phrase r path 0 (item :: rest)).wellNested
        (value_append_ne_nil (value_phrase r _ item) _)
        (items_laidItems c r path 0 (item :: rest))
  | .object [] => .noEntries _ _
  | .object (entry :: rest) =>
      .object (entries_phrase r path (entry :: rest)).wellNested nofun
        (entries_laidEntries c r item path (entry :: rest))
  | .null | .bool _ | .number _ | .reference _ => .scalar _ _ _

theorem items_laidItems (c : Context) (r : Rules) (path : Path) (index : Nat) :
    ∀ items, LaidItems c false (r.items path index items) (itemLayouts c r path index items)
  | [] => .nil _
  | item :: rest => .cons (value_laidOut c r true _ item) (items_laidItems c r path _ rest)

theorem entries_laidEntries (c : Context) (r : Rules) (filtered : Bool) (path : Path) :
    ∀ entries, LaidEntries c false filtered (r.entries path entries)
      (entryLayouts c r filtered path entries)
  | [] => .nil _ _
  | (name, value) :: rest => by
      have hblock := isBlock_dataShape value
      have hvalue := value_laidOut c r false (path.child name) value
      have hothers := entries_laidEntries c r filtered path rest
      cases filtered with
      | false => exact .datum hblock hvalue hothers
      | true =>
          have hisValue := (value_phrase r (path.child name) value).isValue
          simp only [Rules.entries, entryLayouts, if_true]
          split_ifs with hkept
          · exact .kept hblock hisValue hkept (defaulted_laidOut _ hvalue) hothers
          · exact .leftOut hblock hisValue (Bool.eq_false_iff.2 hkept) hothers

end

/-- What the events of an attribute's value add to the text, wherever they stand outside a
document. -/
theorem value_adds (c : Context) (r : Rules) (path : Path) (tree : AttributeTree)
    (hp : d.pending = none) (hr : Ready d) (hj : d.inJson = false) :
    Adds c d (r.value path tree)
      (lead d ++ textOf (written (depth d) (layoutOf c r (isItem d) path tree)) ++
        trail d.frames) :=
  (value_laidOut c r (isItem d) path tree).adds hp hr hj rfl

end StackExport.Proofs.ValueLayout
