import StackExport.Proofs.EmbeddedDocument
/-!
When the text of a map denotes the map.

The entries of a map are written as they are, but the objects in its lists are taken for lists of
attributes, whose entries may be left out or get defaults. `map_denotes_iff` says that nothing else
can come between a map and its text.
-/
namespace StackExport.Proofs.MapData

open Relation
open StackExport
open StackExport.Resource
open StackExport.Proofs.StreamNesting
open StackExport.Proofs.WriterRun
open StackExport.Proofs.ResourceCompleteness
open StackExport.Proofs.WritableStream
open StackExport.Proofs.SerializedResource
open StackExport.Proofs.NumeralReading
open StackExport.Proofs.LiteralReading
open StackExport.Proofs.LayoutReading
open StackExport.Proofs.WrittenText
open StackExport.Proofs.ValueLayout
open StackExport.Proofs.EmbeddedDocument

/-! ### What an attribute's value denotes -/

mutual

/-- True when a literal denotes an attribute's value: the same keys and items in the same order and
the same leaves. A string that holds a document may be a call on that document. -/
def Denotes : AttributeTree → Literal → Prop
  | .string s, l => l = .text s ∨ ∃ doc inner, Json.document? s = some doc ∧ l = .encoded inner ∧
      DenotesData (.ofJson doc) inner
  | .document doc, l => ∃ inner, l = .encoded inner ∧ DenotesData doc inner
  | .list items, l => ∃ ls, l = .list ls ∧ Denote items ls
  | .object entries, l => ∃ ls, l = .object ls ∧ DenoteEntries entries ls
  | leaf, l => DenotesData leaf l

def Denote : List AttributeTree → List Literal → Prop
  | [], ls => ls = []
  | item :: rest, ls => ∃ l others, ls = l :: others ∧ Denotes item l ∧ Denote rest others

def DenoteEntries : List (String × AttributeTree) → List (String × Literal) → Prop
  | [], ls => ls = []
  | (name, value) :: rest, ls =>
    ∃ l others, ls = (name, l) :: others ∧ Denotes value l ∧ DenoteEntries rest others

end

mutual

/-- True when nothing is left out of an attribute's value and no null in it gets a default. -/
def keeps (c : Context) (r : Rules) (item : Bool) (path : Path) : AttributeTree → Bool
  | .list items => keepsItems c r path 0 items
  | .object entries => keepsEntries c r item path entries
  | _ => true

def keepsItems (c : Context) (r : Rules) (path : Path) (index : Nat) : List AttributeTree → Bool
  | [] => true
  | item :: rest =>
    keeps c r true (path.element index) item && keepsItems c r path (index + 1) rest

/-- The entries of an object in a list are attributes, and those of any other map are data. -/
def keepsEntries (c : Context) (r : Rules) (inList : Bool) (path : Path) :
    List (String × AttributeTree) → Bool
  | [] => true
  | (name, value) :: rest =>
    let key := r.dataKey name (path.child name) (dataShape value)
    (!inList || isKept c key (c.applyDefault key (r.value (path.child name) value)) &&
      (!value.isNull || (c.traits.applyDefault key.path .null).isNull)) &&
    keeps c r false (path.child name) value && keepsEntries c r inList path rest

end

variable {c : Context} {r : Rules} {path : Path} {layout : Layout}

theorem ofWord_ne_null {s : String} (h : s ≠ "null") : ofWord s.toList ≠ .null := by
  unfold ofWord
  rw [String.ofList_toList]
  split
  · nofun
  · split
    · exact absurd rfl h
    all_goals nofun

theorem scalarLiteral_eq_null_iff {s : Scalar} : scalarLiteral s = .null ↔ s.isNull = true := by
  cases s with
  | null => exact ⟨fun _ => rfl, fun _ => rfl⟩
  | number n =>
      have hword : n.configText ≠ "null" := configText_ne rfl (by decide)
      exact ⟨fun h => absurd h (ofWord_ne_null hword), nofun⟩
  | _ => exact ⟨nofun, nofun⟩

theorem denote_cons_iff {item : AttributeTree} {rest : List AttributeTree} {l : Literal}
    {ls : List Literal} : Denote (item :: rest) (l :: ls) ↔ Denotes item l ∧ Denote rest ls := by
  constructor
  · rintro ⟨_, _, heq, hitem, hrest⟩
    cases heq
    exact ⟨hitem, hrest⟩
  · rintro ⟨hitem, hrest⟩
    exact ⟨l, ls, rfl, hitem, hrest⟩

theorem denoteEntries_cons_iff {name : String} {value : AttributeTree}
    {rest : List (String × AttributeTree)} {l : Literal} {ls : List (String × Literal)} :
    DenoteEntries ((name, value) :: rest) ((name, l) :: ls) ↔
      Denotes value l ∧ DenoteEntries rest ls := by
  constructor
  · rintro ⟨_, _, heq, hvalue, hrest⟩
    cases heq
    exact ⟨hvalue, hrest⟩
  · rintro ⟨hvalue, hrest⟩
    exact ⟨l, ls, rfl, hvalue, hrest⟩

theorem denoteEntries_length {entries : List (String × AttributeTree)}
    {ls : List (String × Literal)} (h : DenoteEntries entries ls) : ls.length = entries.length := by
  induction entries generalizing ls with
  | nil =>
      cases h
      rfl
  | cons entry rest ih =>
      obtain ⟨l, others, rfl, -, hrest⟩ := h
      rw [List.length_cons, List.length_cons, ih hrest]

theorem entryLayouts_length (c : Context) (r : Rules) (inList : Bool) (path : Path)
    (entries : List (String × AttributeTree)) :
    (literalEntries (entryLayouts c r inList path entries)).length ≤ entries.length := by
  induction entries with
  | nil => exact Nat.le_refl 0
  | cons entry rest ih =>
      obtain ⟨name, value⟩ := entry
      simp only [entryLayouts]
      split_ifs <;> simp only [literalEntries, List.length_cons] <;> omega

/-- A null that gets a default is no null any more. -/
theorem denotes_defaulted_iff {key : MappingKey} {value : AttributeTree}
    (h : Denotes value (literal (layoutOf c r false path value)) ↔
      keeps c r false path value = true) :
    Denotes value (literal (defaulted c key value (layoutOf c r false path value))) ↔
      ((!value.isNull || (c.traits.applyDefault key.path .null).isNull) &&
        keeps c r false path value) = true := by
  cases value with
  | null =>
      have hkeeps : keeps c r false path .null = true := rfl
      rw [hkeeps, Bool.and_true]
      exact scalarLiteral_eq_null_iff
  | _ => exact h

mutual

theorem denotes_layoutOf_iff (c : Context) (r : Rules) (item : Bool) (path : Path) :
    ∀ tree, Denotes tree (literal (layoutOf c r item path tree)) ↔
      keeps c r item path tree = true
  | .null => ⟨fun _ => rfl, fun _ => rfl⟩
  | .bool _ => ⟨fun _ => rfl, fun _ => rfl⟩
  | .reference _ => ⟨fun _ => rfl, fun _ => rfl⟩
  | .number _ => ⟨fun _ => rfl, fun _ => literal_number⟩
  | .string s => by
      refine ⟨fun _ => rfl, fun _ => ?_⟩
      rw [layoutOf]
      cases hdoc : Json.document? s with
      | some doc => exact .inr ⟨doc, _, hdoc, rfl, denotes_documentLayout _⟩
      | none => exact .inl rfl
  | .document inner => ⟨fun _ => rfl, fun _ => ⟨_, rfl, denotes_documentLayout inner⟩⟩
  | .list items => by
      have hitems := denote_itemLayouts_iff c r path 0 items
      have hliteral : literal (layoutOf c r item path (.list items)) =
          .list (literals (itemLayouts c r path 0 items)) := by
        cases items <;> rfl
      rw [hliteral, keeps, ← hitems]
      exact ⟨by rintro ⟨_, heq, h⟩; cases heq; exact h, fun h => ⟨_, rfl, h⟩⟩
  | .object entries => by
      have hentries := denote_entryLayouts_iff c r item path entries
      have hliteral : literal (layoutOf c r item path (.object entries)) =
          .object (literalEntries (entryLayouts c r item path entries)) := by
        cases entries <;> rfl
      rw [hliteral, keeps, ← hentries]
      exact ⟨by rintro ⟨_, heq, h⟩; cases heq; exact h, fun h => ⟨_, rfl, h⟩⟩

theorem denote_itemLayouts_iff (c : Context) (r : Rules) (path : Path) (index : Nat) :
    ∀ items, Denote items (literals (itemLayouts c r path index items)) ↔
      keepsItems c r path index items = true
  | [] => ⟨fun _ => rfl, fun _ => rfl⟩
  | item :: rest => by
      have hitem := denotes_layoutOf_iff c r true (path.element index) item
      have hrest := denote_itemLayouts_iff c r path (index + 1) rest
      rw [keepsItems, Bool.and_eq_true, ← hitem, ← hrest]
      exact denote_cons_iff

theorem denote_entryLayouts_iff (c : Context) (r : Rules) (inList : Bool) (path : Path) :
    ∀ entries, DenoteEntries entries (literalEntries (entryLayouts c r inList path entries)) ↔
      keepsEntries c r inList path entries = true
  | [] => ⟨fun _ => rfl, fun _ => rfl⟩
  | (name, value) :: rest => by
      have hvalue := denotes_layoutOf_iff c r false (path.child name) value
      have hrest := denote_entryLayouts_iff c r inList path rest
      cases inList with
      | false =>
          rw [keepsEntries, Bool.and_eq_true, Bool.not_false, Bool.true_or, Bool.true_and, ← hvalue,
            ← hrest]
          exact denoteEntries_cons_iff
      | true =>
          simp only [keepsEntries, entryLayouts, if_true]
          split_ifs with hkept
          · rw [literalEntries, denoteEntries_cons_iff, denotes_defaulted_iff hvalue, hrest]
            simp only [hkept, Bool.not_true, Bool.false_or, Bool.true_and, Bool.and_eq_true]
          · -- an entry that is left out leaves too few for the entries of the map
            rw [Bool.not_eq_true] at hkept
            refine ⟨fun h => ?_, fun h => ?_⟩
            · have hlength := denoteEntries_length h
              have hle := entryLayouts_length c r true path rest
              rw [List.length_cons] at hlength
              omega
            · rw [hkept] at h
              cases h

end

/-! ### Maps in the text of a resource -/

variable {traits : ResourceTraits} {schema : ResourceSchema} {type name : String}
  {attributes : AttributeTree} {d : Draft} {key : MappingKey}
  {entries : List (String × AttributeTree)} {rest : List Event}

theorem filters?_of_writes {events : List Event} (h : Writes c d key events) :
    ∃ filtered, d.filters? = some filtered :=
  h.elim (fun hf => ⟨_, hf⟩) fun hf => ⟨_, hf.1⟩

theorem trail_of_filters? {filtered : Bool} (h : d.filters? = some filtered) :
    trail d.frames = "\n" := by
  unfold Draft.filters? at h
  split at h
  · next heq => rw [heq]; rfl
  · next heq => rw [heq]; rfl
  · next heq => rw [heq]; rfl
  · cases h

theorem isItem_of_filters? {filtered : Bool} (h : d.filters? = some filtered) :
    isItem d = false := by
  obtain ⟨f, outer, hframes, -, hf, -⟩ := exists_frame_of_filters? (d := d) (by rw [h]; rfl)
  exact isItem_eq_false (by rw [hframes]; rfl) hf

/-- A map that is written behind its key is one expression in the text, the literal of its
layout. -/
theorem exists_text_of_map
    (h : Reaches traits (Rules.events ⟨traits, schema⟩ type name attributes) d
      (.key key :: (Rules.value ⟨traits, schema⟩ path (.object entries) ++ rest)))
    (hshape : key.shape = .mapping) (hdata : d.inJson = false)
    (hw : Writes (contextOf traits (Rules.events ⟨traits, schema⟩ type name attributes)) d key
      (Rules.value ⟨traits, schema⟩ path (.object entries) ++ rest)) :
    ∃ behind,
      write traits (Rules.events ⟨traits, schema⟩ type name attributes) =
        .ok (d.text ++ d.indent ++ Text.objectKey key.name ++ " = " ++
          textOf (written (depth d)
            (layoutOf (contextOf traits (Rules.events ⟨traits, schema⟩ type name attributes))
              ⟨traits, schema⟩ false path (.object entries))) ++ "\n" ++ behind) := by
  obtain ⟨text, htext⟩ := exists_eventsText traits schema type name attributes
  obtain ⟨filtered, hf⟩ := filters?_of_writes hw
  obtain ⟨hp, -⟩ := (sound_of_reaches h).idle_of_filters? hf
  have hvalue := reaches_value h (by rw [hshape]; rfl) hw
  have hadds := value_adds (d := keyed d key.name)
    (contextOf traits (Rules.events ⟨traits, schema⟩ type name attributes)) ⟨traits, schema⟩ path
    (.object entries) hp (.inl rfl) hdata
  obtain ⟨behind, hbehind⟩ := exists_text_of_adds htext hvalue hadds
  have hitem : isItem (keyed d key.name) = false := isItem_of_filters? (d := d) hf
  have hlead : lead (keyed d key.name) = "" := rfl
  have htrail : trail (keyed d key.name).frames = "\n" := trail_of_filters? (d := d) hf
  rw [hitem, hlead, htrail, String.empty_append] at hbehind
  refine ⟨behind, ?_⟩
  rw [htext, hbehind]
  simp only [keyed, after, String.append_assoc]
  rfl

/-- The text of a map that is written, as the value behind its key, is one expression, and it
denotes the map exactly when the map keeps its entries. -/
theorem map_denotes_iff
    (h : Reaches traits (Rules.events ⟨traits, schema⟩ type name attributes) d
      (.key key :: (Rules.value ⟨traits, schema⟩ path (.object entries) ++ rest)))
    (hshape : key.shape = .mapping) (hdata : d.inJson = false)
    (hw : Writes (contextOf traits (Rules.events ⟨traits, schema⟩ type name attributes)) d key
      (Rules.value ⟨traits, schema⟩ path (.object entries) ++ rest)) :
    ∃ ps behind l,
      write traits (Rules.events ⟨traits, schema⟩ type name attributes) =
          .ok (d.text ++ d.indent ++ Text.objectKey key.name ++ " = " ++ textOf ps ++ "\n" ++
            behind) ∧
        read ps = some l ∧
        (Denotes (.object entries) l ↔
          keeps (contextOf traits (Rules.events ⟨traits, schema⟩ type name attributes))
            ⟨traits, schema⟩ false path (.object entries) = true) := by
  obtain ⟨behind, htext⟩ := exists_text_of_map h hshape hdata hw
  exact ⟨_, behind, _, htext, read_written _ _, denotes_layoutOf_iff _ _ _ _ _⟩

/-- A map as the required attribute `p` of a resource is written. -/
theorem writes_required_map (c : Context) (entries : List (String × AttributeTree)) :
    Writes c ⟨[.resource], none, false, "resource \"t\" \"n\" \x7b\n"⟩
      ⟨"p", ⟨["p"]⟩, .mapping, false, true, []⟩
      (Rules.value ⟨.none "t", requiredAttribute⟩ ⟨["p"]⟩ (.object entries) ++
        [.stop .resource]) := by
  have hvalue := (value_phrase ⟨.none "t", requiredAttribute⟩ ⟨["p"]⟩ (.object entries)).isValue
  exact .inr ⟨rfl, shouldWrite_eq rfl hvalue _⟩

theorem map_denotes_iff_false_entry :
    ∃ ps behind l,
      write (.none "t") (Rules.events ⟨.none "t", requiredAttribute⟩ "t" "n"
          (.object [("p", .object [("q", .bool false)])])) =
        .ok ("resource \"t\" \"n\" \x7b\n" ++ "  " ++ "p" ++ " = " ++ textOf ps ++ "\n" ++
          behind) ∧
      read ps = some l ∧ Denotes (.object [("q", .bool false)]) l := by
  have hreaches := reaches_only_attribute requiredAttribute (.object [("q", .bool false)]) rfl
  obtain ⟨ps, behind, l, htext, hread, hiff⟩ :=
    map_denotes_iff hreaches rfl rfl (writes_required_map _ _)
  exact ⟨ps, behind, l, htext, hread, hiff.2 rfl⟩

theorem isKept_false_eq_false (hc : c.traits = .none "t") (h : key.required = false) :
    isKept c key [.scalar (.bool false)] = false := by
  have hrequired : c.traits.isRequired key.path = false := by rw [hc]; rfl
  have hempty : (contentOf c.traits key [.scalar (.bool false)]).isEmpty = true := by rw [hc]; rfl
  simp [isKept, Context.isRequired, h, hrequired, ResourceTraits.shouldEmit, hempty]

/-- An entry of an object in a list is missing in the text. -/
theorem item_entry_left_out :
    ∃ behind,
      write (.none "t") (Rules.events ⟨.none "t", requiredAttribute⟩ "t" "n"
          (.object [("p", .object [("q", .list [.object [("r", .bool false)]])])])) =
        .ok ("resource \"t\" \"n\" \x7b\n" ++ "  " ++ "p" ++ " = " ++
          "\x7b\n    q = [\n      \x7b\n      \x7d,\n    ]\n  \x7d" ++ "\n" ++ behind) ∧
      read (pieces "\x7b\n    q = [\n      \x7b\n      \x7d,\n    ]\n  \x7d") =
        some (.object [("q", .list [.object []])]) ∧
      ¬ Denotes (.object [("q", .list [.object [("r", .bool false)]])])
        (.object [("q", .list [.object []])]) := by
  have hreaches := reaches_only_attribute requiredAttribute
    (.object [("q", .list [.object [("r", .bool false)]])]) rfl
  have hlayout (c : Context) (hc : c.traits = .none "t") :
      layoutOf c ⟨.none "t", requiredAttribute⟩ false ⟨["p"]⟩
        (.object [("q", .list [.object [("r", .bool false)]])]) =
          .object [("q", .list [.object []])] := by
    have hkept : isKept c (Rules.dataKey ⟨.none "t", requiredAttribute⟩ "r"
        ⟨["p", "q", "0", "r"]⟩ .value) [.scalar (.bool false)] = false :=
      isKept_false_eq_false hc rfl
    change Layout.object [("q", .list [.object (if isKept _ _ _ = true then _ else _)])] = _
    rw [if_neg]
    · rfl
    · exact Bool.eq_false_iff.1 hkept
  have hpieces : pieces "\x7b\n    q = [\n      \x7b\n      \x7d,\n    ]\n  \x7d" =
      written 1 (.object [("q", .list [.object []])]) := rfl
  obtain ⟨behind, htext⟩ := exists_text_of_map hreaches rfl rfl (writes_required_map _ _)
  rw [hlayout _ rfl] at htext
  refine ⟨behind, ?_, ?_, ?_⟩
  · rw [← textOf_pieces "\x7b\n    q = [\n      \x7b\n      \x7d,\n    ]\n  \x7d", hpieces]
    exact htext
  · rw [hpieces]
    exact read_written _ _
  · rintro ⟨_, heq, _, _, hentries, ⟨_, hlist, _, _, hitems, ⟨_, hobject, _, _, hempty, -⟩, -⟩, -⟩
    cases heq
    cases hentries
    cases hlist
    cases hitems
    cases hobject
    cases hempty

end StackExport.Proofs.MapData
