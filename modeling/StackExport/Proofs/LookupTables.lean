import StackExport.Locals
import StackExport.Proofs.LoopKeyword
import StackExport.Proofs.ParsedTemplate
import StackExport.Proofs.PrintedValues
import StackExport.Proofs.ReferenceMeaning
/-!
Look-up tables, from the text of the configuration to the values that traversals lead to.

The tables are written as one local value and calls are rendered as traversals of it. Both sides meet
wherever the text of the tables is no loop.
-/
namespace StackExport.Proofs.LookupTables

open StackExport
open StackExport.Resource
open StackExport.Proofs.Lexemes
open StackExport.Proofs.Traversal
open StackExport.Proofs.NumeralReading
open StackExport.Proofs.LiteralReading
open StackExport.Proofs.LayoutReading
open StackExport.Proofs.ValueLayout
open StackExport.Proofs.EmbeddedDocument
open StackExport.Proofs.PrintedValues
open StackExport.Proofs.ReferenceMeaning
open StackExport.Proofs.ParsedTemplate
open StackExport.Proofs.LoopKeyword

/-! ### Local values -/

/-- The entries between the braces of a block. There are none where a brace among them opens a
loop. -/
def blockEntries? (body : List Token) : Option (List (String × Literal)) :=
  if opensLoop body then none
  else
    match readEntries (body.length + 1) body with
    | some (entries, rest) => if rest.all Token.isSpace then some entries else none
    | none => none

/-- The local values of a text that is one block of them. -/
def locals? (text : String) : Option (List (String × Literal)) :=
  match takeKey? (tokens (pieces text)) with
  | some (name, behind) =>
    match behind.dropWhile Token.isBlank with
    | .lexeme (.code '\x7b') :: body => if name = "locals" then blockEntries? body else none
    | _ => none
  | none => none

/-- The part of a literal that a step leads to. Of two entries with one key the later counts. -/
def partOf? : Literal → Step → Option Literal
  | .object entries, .entry key => lookup? key entries.reverse
  | .list items, .element i => items[i]?
  | _, _ => none

/-- What an expression that begins with `local` leads to among the local values. -/
def follow? (locals : List (String × Literal)) (expression : String) : Option Literal := do
  let rest ← Text.dropStart? "local" expression
  let steps ← steps? (lexemes rest)
  steps.foldlM partOf? (.object locals)

/-! ### Reading the tables -/

/-- What a plain value is written for. -/
def literalOf (json : Json) : Literal := literal (documentLayout (.ofJson json))

theorem literalEntries_ofJson (entries : List (String × Json)) :
    literalEntries (documentEntryLayouts (AttributeTree.ofJsonEntries entries)) =
      entries.map fun e => (e.1, literalOf e.2) := by
  induction entries with
  | nil => rfl
  | cons e rest ih =>
      rw [AttributeTree.ofJsonEntries, documentEntryLayouts, literalEntries, ih]
      rfl

theorem literalOf_object (entries : List (String × Json)) :
    literalOf (.object entries) = .object (entries.map fun e => (e.1, literalOf e.2)) := by
  rw [← literalEntries_ofJson]
  cases entries <;> rfl

/-- The pieces of the entry that the tables stand in. -/
def mappingPieces (tables : List (String × Json)) : List Piece :=
  pieces "  " ++ (pieces (Text.objectKey "mappings") ++ (pieces " = " ++
    (written 1 (documentLayout (.ofJson (.object tables))) ++ (.char '\n' :: []))))

theorem written_eq_pieces (n : Nat) (json : Json) :
    written n (documentLayout (.ofJson json)) = pieces (Locals.literal n json) := by
  rw [← textOf_plain, pieces_textOf (isPlain_written n json)]

theorem pieces_block {tables : List (String × Json)} (h : tables ≠ []) :
    pieces (Locals.block tables) =
      pieces "locals" ++ (pieces " " ++ (.char '\x7b' :: ((pieces "\n" ++
        (mappingPieces tables ++ pieces "")) ++ [.char '\x7d']) ++ pieces "\n\n")) := by
  have hkey : pieces (Text.objectKey "mappings") = pieces "mappings" := rfl
  have hempty : tables.isEmpty = false := by simpa using h
  have hfront : "locals \x7b\n  mappings = " =
      "locals" ++ " " ++ "\x7b" ++ "\n" ++ "  " ++ "mappings" ++ " = " := rfl
  have hback : "\n\x7d\n\n" = "\n" ++ "" ++ "\x7d" ++ "\n\n" := rfl
  rw [Locals.block, hempty, mappingPieces, written_eq_pieces, hkey, hfront, hback]
  change pieces ("locals" ++ " " ++ "\x7b" ++ "\n" ++ "  " ++ "mappings" ++ " = " ++
      Locals.literal 1 (.object tables) ++ ("\n" ++ "" ++ "\x7d" ++ "\n\n")) =
    pieces "locals" ++ (pieces " " ++ (pieces "\x7b" ++ ((pieces "\n" ++
      ((pieces "  " ++ (pieces "mappings" ++ (pieces " = " ++ (_ ++ pieces "\n")))) ++
        pieces "")) ++ pieces "\x7d") ++ pieces "\n\n"))
  simp only [← pieces_append, String.append_assoc]

theorem Lexes.unique {ps : List Piece} {ts ts' : List Token} (h : Lexes ps ts) (h' : Lexes ps ts') :
    ts = ts' :=
  (h.tokens_eq []).symm.trans (h'.tokens_eq [])

/-- The entry of the tables reads as what they are written for, and it opens a loop where they do. -/
theorem exists_lexes_mappings (tables : List (String × Json)) :
    ∃ ts, Lexes (mappingPieces tables) ts ∧
      (∀ rest, opensLoop (ts ++ rest) = (leadsWithFor (.object tables) || opensLoop rest)) ∧
      ∀ fuel rest, ts.length < fuel →
        readEntries fuel (code "\n".toList ++ (ts ++ (code "".toList ++ .lexeme (.code '\x7d') :: rest))) =
          some ([("mappings", literalOf (.object tables))], rest) := by
  have hindent : IsSpaces "  " := isSpaces_indentation 1
  obtain ⟨ts, hlexes, hread⟩ : EntriesReadAs (mappingPieces tables) _ :=
    entriesReadAs_cons hindent (readsAs_written 1 _) entriesReadAs_nil
  obtain ⟨ts', hlexes', hopens, -⟩ : EntriesOpenAs (mappingPieces tables) _ _ :=
    entriesOpenAs_cons "mappings" hindent (opensAs_written 1 (.object tables)) entriesOpenAs_nil
  obtain rfl := Lexes.unique hlexes hlexes'
  rw [Bool.or_false] at hopens
  exact ⟨ts, hlexes, hopens, fun fuel rest hfuel =>
    hread fuel "\n" "" rest isSpaces_line isSpaces_empty hfuel⟩

/-- The tables are read as what they are written for, unless an object of theirs reads as a loop. -/
theorem locals_block {tables : List (String × Json)} (h : tables ≠ []) :
    locals? (Locals.block tables) =
      if leadsWithFor (.object tables) then none
      else some [("mappings", literalOf (.object tables))] := by
  obtain ⟨ts, hlexes, hopens, hread⟩ := exists_lexes_mappings tables
  have hword : "locals".toList.all IsWord = true := by decide
  have hblank : IsSpaces " " := fun c hc => .inl (List.mem_singleton.mp hc)
  have hends : IsSpaces "\n\n" := isSpaces_append isSpaces_line isSpaces_line
  have hbody := lexes_braces ((lexes_spaces isSpaces_line).append
    (hlexes.append (lexes_spaces isSpaces_empty)))
  have hblock := (lexes_word hword).append ((lexes_spaces hblank).append
    (hbody.append (lexes_spaces hends)))
  rw [← pieces_block h] at hblock
  have htokens : tokens (pieces (Locals.block tables)) = _ := hblock.tokens_eq []
  simp only [List.append_assoc, List.cons_append, List.nil_append] at htokens
  generalize hbody : code "\n".toList ++ (ts ++ (code "".toList ++
    .lexeme (.code '\x7d') :: code "\n\n".toList)) = body at htokens
  have hkey : takeKey? (tokens (pieces (Locals.block tables))) =
      some ("locals", code " ".toList ++ .lexeme (.code '\x7b') :: body) := by
    rw [htokens]
    exact takeKey_word hword (by decide) (by decide) (delimited_code (by decide) _)
  have hdrop : (code " ".toList ++ .lexeme (.code '\x7b') :: body).dropWhile Token.isBlank =
      .lexeme (.code '\x7b') :: body := rfl
  have hloop : opensLoop body = leadsWithFor (.object tables) := by
    rw [← hbody, opensLoop_append_of_quiet (quiet_code (not_mem_of_isSpaces isSpaces_line)), hopens]
    exact Bool.or_false _
  have hentries : readEntries (body.length + 1) body =
      some ([("mappings", literalOf (.object tables))], code "\n\n".toList) := by
    have hlength : ts.length < body.length + 1 := by
      rw [← hbody, List.length_append, List.length_append]
      omega
    have hread := hread (body.length + 1) (code "\n\n".toList) hlength
    rwa [hbody] at hread
  rw [locals?, hkey]
  dsimp only
  rw [hdrop]
  change (if "locals" = "locals" then blockEntries? body else none) = _
  rw [if_pos rfl, blockEntries?, hloop, hentries]
  rfl

/-! ### Following a traversal -/

/-- A step by a key leads to the literal of the entry with the key. -/
theorem partOf_literalOf {entries : List (String × Json)} (hkeys : (entries.map (·.1)).Nodup)
    {key : String} {v : Json} (h : lookup? key entries = some v) :
    partOf? (literalOf (.object entries)) (.entry key) = some (literalOf v) := by
  rw [literalOf_object, partOf?]
  apply lookup?_of_mem
  · rw [List.map_reverse, List.nodup_reverse, List.map_map]
    exact hkeys
  · rw [List.mem_reverse]
    exact List.mem_map.mpr ⟨_, mem_of_lookup? h, rfl⟩

theorem exists_object_of_get? {v w : Json} {key : String} (h : v.get? key = some w) :
    ∃ entries, v = .object entries ∧ lookup? key entries = some w := by
  cases v with
  | object entries => exact ⟨entries, rfl, h⟩
  | _ => cases h

/-- The expression that a call on three names is rendered as. -/
def lookUpPath (map top second : String) : String :=
  "local" ++ writeAll [.entry "mappings", .entry map, .entry top, .entry second]

theorem render_findInMap (c : RenderContext) (map top second : String) (ds : Declarations) :
    (c.render (.findInMap (.string map) (.string top) (.string second)) none).run ds =
      (.ok (.map (lookUpPath map top second)), ds) := by
  have hlocal : "local.mappings" = "local" ++ Step.write (.entry "mappings") := rfl
  have hpath : "local.mappings" ++ Step.write (.entry map) ++ Step.write (.entry top) ++
      Step.write (.entry second) ++ "" = lookUpPath map top second := by
    rw [hlocal]
    simp only [lookUpPath, writeAll, List.map_cons, List.map_nil, String.join_cons, String.join_nil,
      String.append_assoc]
  rw [← hpath]
  rfl

theorem follow_lookUpPath (locals : List (String × Literal)) (map top second : String) :
    follow? locals (lookUpPath map top second) =
      [Step.entry "mappings", .entry map, .entry top, .entry second].foldlM partOf?
        (.object locals) := by
  have hplain : ∀ step ∈ [Step.entry "mappings", .entry map, .entry top, .entry second],
      step.Plain := by
    intro step hstep
    simp only [List.mem_cons, List.not_mem_nil, or_false] at hstep
    rcases hstep with rfl | rfl | rfl | rfl <;> trivial
  rw [follow?, lookUpPath, dropStart?_append]
  change (steps? (lexemes (writeAll _))).bind _ = _
  rw [steps?_writeAll hplain]
  rfl

/-- The traversal leads to the literal of what the call evaluates to. -/
theorem follow_of_evaluateCall {s : Stack} {map top second : String} {v : Json}
    (hkeys : KeysOnceWithin (.object s.template.mappings))
    (h : s.evaluateCall (.findInMap (.string map) (.string top) (.string second)) = some v) :
    follow? [("mappings", literalOf (.object s.template.mappings))] (lookUpPath map top second) =
      some (literalOf v) := by
  obtain ⟨table, htable, h⟩ := Option.bind_eq_some_iff.mp
    (show s.findInMap map top second = some v from h)
  obtain ⟨inner, hinner, hv⟩ := Option.bind_eq_some_iff.mp h
  obtain ⟨rows, rfl, hrow⟩ := exists_object_of_get? hinner
  obtain ⟨cells, rfl, hcell⟩ := exists_object_of_get? hv
  have hrows := hkeys.of_lookup? htable
  have hcells := hrows.of_lookup? hrow
  have hmappings : partOf? (.object [("mappings", literalOf (.object s.template.mappings))])
      (.entry "mappings") = some (literalOf (.object s.template.mappings)) := rfl
  rw [follow_lookUpPath]
  simp only [List.foldlM_cons, List.foldlM_nil, hmappings, partOf_literalOf hkeys.1 htable,
    partOf_literalOf hrows.1 hrow, partOf_literalOf hcells.1 hcell, Option.bind_eq_bind,
    Option.bind_some]
  rfl

theorem ne_nil_of_evaluateCall {s : Stack} {map top second : String} {v : Json}
    (h : s.evaluateCall (.findInMap (.string map) (.string top) (.string second)) = some v) :
    s.template.mappings ≠ [] := by
  obtain ⟨table, htable, -⟩ := Option.bind_eq_some_iff.mp
    (show s.findInMap map top second = some v from h)
  intro hnil
  rw [hnil] at htable
  cases htable

/-- A call on three names that has a value is rendered as a traversal. The traversal leads to this
value in the text of the tables, unless an object among the tables has the word `for` as its first
key: there the text cannot be read. -/
theorem look_up_read_iff (c : RenderContext) (s : Stack) {map top second : String} {v : Json}
    (hkeys : KeysOnceWithin (.object s.template.mappings))
    (h : s.evaluateCall (.findInMap (.string map) (.string top) (.string second)) = some v)
    (ds : Declarations) :
    ∃ path, (c.render (.findInMap (.string map) (.string top) (.string second)) none).run ds =
        (.ok (.map path), ds) ∧
      ((∃ locals l, locals? (Locals.block s.template.mappings) = some locals ∧
          follow? locals path = some l ∧ DenotesData (.ofJson v) l) ↔
        leadsWithFor (.object s.template.mappings) = false) := by
  refine ⟨_, render_findInMap c map top second ds, ?_⟩
  rw [locals_block (ne_nil_of_evaluateCall h)]
  constructor
  · rintro ⟨locals, l, hlocals, -⟩
    split_ifs at hlocals with hloop
    exact Bool.eq_false_iff.mpr hloop
  · intro hloop
    rw [hloop]
    exact ⟨_, _, rfl, follow_of_evaluateCall hkeys h, denotes_documentLayout _⟩

/-- A stack whose template has nothing but look-up tables. -/
def stackOf (tables : List (String × Json)) : Stack :=
  ⟨{ Template.empty with mappings := tables }, ⟨"", "", "", "", "", none⟩, ⟨.none "", []⟩, [], []⟩

def contextOf (tables : List (String × Json)) : RenderContext :=
  ⟨(stackOf tables).template, [], ⟨.none "", []⟩, []⟩

/-- Keys that are written in quotes, and the word `for` behind another key. -/
def sampleTables : List (String × Json) :=
  [("a.b", .object [("2021", .object [("true", .array [.null, .object []]), ("for", .string "x")])])]

theorem look_up_read_sample :
    (stackOf sampleTables).evaluateCall
        (.findInMap (.string "a.b") (.string "2021") (.string "true")) =
      some (.array [.null, .object []]) ∧
    ∃ path, ((contextOf sampleTables).render
        (.findInMap (.string "a.b") (.string "2021") (.string "true")) none).run [] =
        (.ok (.map path), []) ∧
      ∃ locals l, locals? (Locals.block sampleTables) = some locals ∧
        follow? locals path = some l ∧ DenotesData (.ofJson (.array [.null, .object []])) l := by
  have hevaluate : (stackOf sampleTables).evaluateCall
      (.findInMap (.string "a.b") (.string "2021") (.string "true")) =
        some (.array [.null, .object []]) := by cbv
  have hkeys : KeysOnceWithin (.object (stackOf sampleTables).template.mappings) := by
    simp [stackOf, sampleTables, KeysOnceWithin, EntriesKeysOnce, ItemsKeysOnce]
  obtain ⟨path, hrender, hread⟩ :=
    look_up_read_iff (contextOf sampleTables) (stackOf sampleTables) hkeys hevaluate []
  exact ⟨hevaluate, path, hrender, hread.mpr rfl⟩

/-- The tables of a template may be named by the word `for`. -/
def loopTables : List (String × Json) := [("for", .object [("t", .object [("k", .string "v")])])]

/-- The call has a value and is rendered, but there is nothing to be read in the text that its
traversal goes through. -/
theorem loop_tables_unread :
    (stackOf loopTables).evaluateCall (.findInMap (.string "for") (.string "t") (.string "k")) =
      some (.string "v") ∧
    ((contextOf loopTables).render
        (.findInMap (.string "for") (.string "t") (.string "k")) none).run [] =
      (.ok (.map "local.mappings.for.t.k"), []) ∧
    Locals.block loopTables = "locals \x7b\n  mappings = \x7b\n    for = \x7b\n      t = \x7b\n" ++
      "        k = \"v\"\n      \x7d\n    \x7d\n  \x7d\n\x7d\n\n" ∧
    locals? (Locals.block loopTables) = none := by
  refine ⟨by cbv, ?_, by cbv, ?_⟩
  · rw [render_findInMap]
    cbv
  · rw [locals_block (by decide)]
    rfl

end StackExport.Proofs.LookupTables
