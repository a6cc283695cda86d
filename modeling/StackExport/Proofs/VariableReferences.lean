import Mathlib
import StackExport.Proofs.Lexemes
import StackExport.Script
/-!
Variables in place of the literals that equal their defaults.

A document is read as a list of lexemes. Where a literal with a value and a variable with the same
value stand as operands, one may be exchanged for the other. Putting variables into a document is a
sequence of such exchanges, as long as each text that is replaced starts where a literal starts and
stands as an operand, and the variables have their defaults as values.
-/
namespace StackExport.Proofs.VariableReferences

open StackExport
open StackExport.Proofs.TemplateReading
open StackExport.Proofs.Lexemes

/-! ### Exchanging literals and variables -/

def isBlankLexeme (l : Lexeme) : Bool := [.code ' ', .code '\t', .code '\n', .code '\r'].contains l

/-- True between lexemes where a literal or a variable is an operand of an expression: not the label
of a block, not the key of an entry, and not part of a longer word. -/
def isOperand (before after : List Lexeme) : Bool :=
  (match before.reverse.find? (!isBlankLexeme ·) with
  | some (.opening _) => true
  | some (.code ',') =>
    match after.find? (!isBlankLexeme ·) with
    | some (.code c) => c != '=' && c != ':'
    | _ => true
  | some (.code c) => "=([:?!&|<>+-*/%".toList.contains c
  | _ => false) &&
  match after.head? with
  | some (.code c) => !Text.isNameRest c && c != '.'
  | _ => true

def variableLexemes (name : String) : List Lexeme := ("var." ++ name).toList.map .code

/-- Two documents of which one has a variable where the other has a literal with its value. -/
inductive Exchange (value : String → Option String) : List Lexeme → List Lexeme → Prop
  | intro {name text : String} {before after : List Lexeme} (hvalue : value name = some text)
      (hoperand : isOperand before after = true) :
      Exchange value (before ++ literalLexemes text ++ after)
        (before ++ variableLexemes name ++ after)

/-- True where an operand may stand in a document. -/
def standsAsOperand (before after : List Char) : Bool :=
  match run [.code none] before with
  | .code _ :: outer =>
    isOperand (lexFrom [.code none] before) (lexFrom (.code none :: outer) after)
  | _ => false

def literalOf (text : String) : List Char := '"' :: text.toList ++ ['"']

/-- A literal that needs no escapes, at a place where code is read. -/
theorem lexFrom_literalOf {text : String} (hplain : Text.escape text = text) (begun : Option Char)
    (outer : List Level) :
    lexFrom (.code begun :: outer) (literalOf text) = literalLexemes text ∧
      run (.code begun :: outer) (literalOf text) = .code none :: outer := by
  have hquote : (Text.quote text).toList = literalOf text := by
    simp [Text.quote, hplain, literalOf]
  rw [← hquote]
  exact lexFrom_quote text begun outer

theorem lexFrom_variable {name : String} (hname : Text.isIdentifier name = true)
    (begun : Option Char) (outer : List Level) :
    lexFrom (.code begun :: outer) ("var." ++ name).toList = variableLexemes name ∧
      run (.code begun :: outer) ("var." ++ name).toList = .code none :: outer := by
  have hsplit : ("var." ++ name).toList = 'v' :: ('a' :: 'r' :: '.' :: name.toList) := by simp
  have hrest : ∀ c ∈ 'a' :: 'r' :: '.' :: name.toList, Text.isNameRest c = true ∨ c = '.' := by
    intro c hc
    simp only [List.mem_cons] at hc
    rcases hc with rfl | rfl | rfl | hc
    · decide
    · decide
    · decide
    · exact Or.inl (isNameRest_of_isIdentifier hname c hc)
  obtain ⟨hlex, hrun⟩ := lexFrom_bare (fun c hc => bare_of_isNameRest (hrest c hc)) outer
  have hfirst : step (.code begun :: outer) 'v' = .code none :: outer := rfl
  rw [variableLexemes, hsplit]
  constructor
  · rw [lexFrom, hfirst, hlex]
    rfl
  · rw [run_cons, hfirst, hrun]

theorem exchange_of_standsAsOperand {value : String → Option String} {name text : String}
    {before after : List Char} (hvalue : value name = some text)
    (hname : Text.isIdentifier name = true) (hplain : Text.escape text = text)
    (h : standsAsOperand before after = true) :
    Exchange value (lexFrom [.code none] (before ++ literalOf text ++ after))
      (lexFrom [.code none] (before ++ ("var." ++ name).toList ++ after)) := by
  unfold standsAsOperand at h
  split at h
  · next begun outer hlevels =>
      obtain ⟨hliteral, hafterLiteral⟩ := lexFrom_literalOf hplain begun outer
      obtain ⟨hvariable, hafterVariable⟩ := lexFrom_variable hname begun outer
      have hexchange := Exchange.intro hvalue h
      rw [lexFrom_append, lexFrom_append, run_append, hlevels, hliteral, hafterLiteral]
      rw [lexFrom_append _ _ after, lexFrom_append, run_append, hlevels, hvariable, hafterVariable]
      exact hexchange
  · cases h

/-! ### Pieces of a line -/

theorem eq_append_of_splitFirst {needle cs before after : List Char}
    (h : Text.splitFirst needle cs = some (before, after)) : cs = before ++ needle ++ after := by
  induction cs generalizing before with
  | nil =>
      unfold Text.splitFirst at h
      split_ifs at h with hempty
      cases h
      simpa using hempty
  | cons c cs ih =>
      unfold Text.splitFirst at h
      split_ifs at h with hprefix
      · cases h
        obtain ⟨rest, hrest⟩ := List.isPrefixOf_iff_prefix.mp hprefix
        rw [← hrest]
        simp
      · obtain ⟨⟨before', after'⟩, hsplit, heq⟩ := Option.map_eq_some_iff.mp h
        cases heq
        simp [ih hsplit]

theorem piecesOn_ne_nil (delimiter : List Char) (fuel : Nat) (cs : List Char) :
    Text.piecesOn delimiter fuel cs ≠ [] := by
  cases fuel with
  | zero => simp [Text.piecesOn]
  | succ fuel =>
      unfold Text.piecesOn
      split <;> simp

theorem intercalate_cons_of_ne_nil {separator piece : List Char} {rest : List (List Char)}
    (h : rest ≠ []) :
    separator.intercalate (piece :: rest) = piece ++ separator ++ separator.intercalate rest := by
  obtain ⟨first, rest, rfl⟩ := List.exists_cons_of_ne_nil h
  simp [List.intercalate]

theorem intercalate_piecesOn (delimiter : List Char) (fuel : Nat) (cs : List Char) :
    delimiter.intercalate (Text.piecesOn delimiter fuel cs) = cs := by
  induction fuel generalizing cs with
  | zero => simp [Text.piecesOn, List.intercalate]
  | succ fuel ih =>
      unfold Text.piecesOn
      split
      · next before after hsplit =>
          rw [intercalate_cons_of_ne_nil (piecesOn_ne_nil _ _ _), ih,
            ← eq_append_of_splitFirst hsplit]
      · simp [List.intercalate]

/-! ### Faithful rewriting -/

/-- The pieces of a line between the literals that are replaced in it. -/
def linePieces (literal reference line : String) : List (List Char) :=
  match Script.referLine literal reference line with
  | some _ => Text.piecesOn literal.toList line.length line.toList
  | none => [line.toList]

def textOfLines (lines : List String) : List Char := lines.flatMap fun line => line.toList ++ ['\n']

/-- True when each literal between pieces, with a variable in place of those before it, stands as an
operand. -/
def operandPieces (literal reference before : List Char) : List (List Char) → List Char → Bool
  | [], _ => true
  | [_], _ => true
  | piece :: second :: rest, after =>
    standsAsOperand (before ++ piece) (literal.intercalate (second :: rest) ++ after) &&
      operandPieces literal reference (before ++ piece ++ reference) (second :: rest) after

/-- True when each literal that is replaced in the lines of a document stands as an operand. -/
def operandLines (literal reference : String) (before : List Char) : List String → Bool
  | [] => true
  | line :: rest =>
    let pieces := linePieces literal reference line
    operandPieces literal.toList reference.toList before pieces ('\n' :: textOfLines rest) &&
      operandLines literal reference
        (before ++ reference.toList.intercalate pieces ++ ['\n']) rest

/-- What makes it right to put a variable in place of the literals that equal its default. -/
structure Faithful (value : String → Option String) (v : Variable) (default : String)
    (s : Script) : Prop where
  value : value v.name = some default
  name : Text.isIdentifier v.name = true
  /-- The default is written as it is. -/
  plain : Text.escape default = default
  operands : operandLines ("\"" ++ default ++ "\"") v.address [] s.lines = true

/-- What makes it right to put variables in place of literals, one variable after the other. A
variable that is put nowhere is of no account. -/
def AllFaithful (value : String → Option String) : Script → List Variable → Prop
  | _, [] => True
  | s, v :: rest =>
    ((s.referTo v).2 ≠ 0 → ∃ default ∈ v.default, Faithful value v default s) ∧
      AllFaithful value (s.referTo v).1 rest

variable {value : String → Option String} {name text : String}

theorem exchanges_pieces (hvalue : value name = some text) (hname : Text.isIdentifier name = true)
    (hplain : Text.escape text = text) {before after : List Char} {pieces : List (List Char)}
    (h : operandPieces (literalOf text) ("var." ++ name).toList before pieces after = true) :
    Relation.ReflTransGen (Exchange value)
      (lexFrom [.code none] (before ++ (literalOf text).intercalate pieces ++ after))
      (lexFrom [.code none] (before ++ ("var." ++ name).toList.intercalate pieces ++ after)) := by
  induction pieces generalizing before with
  | nil => exact Relation.ReflTransGen.refl
  | cons piece rest ih =>
      cases rest with
      | nil => simpa [List.intercalate] using Relation.ReflTransGen.refl
      | cons second rest =>
          rw [operandPieces, Bool.and_eq_true] at h
          obtain ⟨hfirst, hrest⟩ := h
          have hexchange := exchange_of_standsAsOperand hvalue hname hplain hfirst
          have hlater := ih hrest
          rw [intercalate_cons_of_ne_nil (List.cons_ne_nil _ _),
            intercalate_cons_of_ne_nil (List.cons_ne_nil _ _)]
          simp only [List.append_assoc] at hexchange hlater ⊢
          exact Relation.ReflTransGen.head hexchange hlater

def referredLine (literal reference line : String) : String :=
  (Script.referLine literal reference line).getD line

theorem intercalate_linePieces (literal reference line : String) :
    literal.toList.intercalate (linePieces literal reference line) = line.toList := by
  unfold linePieces
  split
  · exact intercalate_piecesOn _ _ _
  · simp [List.intercalate]

theorem toList_referredLine {literal : String} (hliteral : literal.isEmpty = false)
    (reference line : String) :
    (referredLine literal reference line).toList =
      reference.toList.intercalate (linePieces literal reference line) := by
  unfold referredLine linePieces
  rcases hline : Script.referLine literal reference line with _ | new
  · simp [List.intercalate]
  · unfold Script.referLine at hline
    split_ifs at hline
    cases hline
    simp [Text.replaceAll, Text.splitOn, hliteral, String.toList_intercalate]

theorem exchanges_lines (hvalue : value name = some text) (hname : Text.isIdentifier name = true)
    (hplain : Text.escape text = text) {before : List Char} {lines : List String}
    (h : operandLines ("\"" ++ text ++ "\"") ("var." ++ name) before lines = true) :
    Relation.ReflTransGen (Exchange value)
      (lexFrom [.code none] (before ++ textOfLines lines))
      (lexFrom [.code none] (before ++
        textOfLines (lines.map (referredLine ("\"" ++ text ++ "\"") ("var." ++ name))))) := by
  have hliteral : ("\"" ++ text ++ "\"").toList = literalOf text := by simp [literalOf]
  induction lines generalizing before with
  | nil => exact Relation.ReflTransGen.refl
  | cons line rest ih =>
      rw [operandLines, Bool.and_eq_true, hliteral] at h
      obtain ⟨hline, hrest⟩ := h
      have hhere := exchanges_pieces hvalue hname hplain hline
      have hbelow := ih hrest
      rw [← hliteral, intercalate_linePieces] at hhere
      rw [← toList_referredLine (by simp)] at hhere hbelow
      simp only [textOfLines, List.flatMap_cons, List.map_cons, List.append_assoc,
        List.cons_append, List.nil_append] at hhere hbelow ⊢
      exact hhere.trans hbelow

theorem toList_text (s : Script) : s.text.toList = textOfLines s.lines := by
  obtain ⟨lines⟩ := s
  induction lines with
  | nil => rfl
  | cons line rest ih =>
      have hcons : (Script.mk (line :: rest)).text = line ++ "\n" ++ (Script.mk rest).text := by
        simp [Script.text, String.join_cons]
      rw [hcons, String.toList_append, String.toList_append, ih]
      rfl

/-- Either a variable has a default that can be looked for, or nothing changes. -/
theorem referTo_cases (v : Variable) (s : Script) :
    (∃ default ∈ v.default, s.referTo v =
      (⟨s.lines.map (referredLine ("\"" ++ default ++ "\"") v.address)⟩,
        s.lines.countP fun line =>
          (Script.referLine ("\"" ++ default ++ "\"") v.address line).isSome)) ∨
      s.referTo v = (s, 0) := by
  unfold Script.referTo
  split
  · next default _ hdefault =>
      split_ifs
      · exact Or.inr rfl
      · refine Or.inl ⟨default, hdefault, ?_⟩
        simp only [List.map_map, List.countP_map]
        rfl
  · exact Or.inr rfl

theorem exchanges_referTo {v : Variable} {default : String} {s : Script}
    (hdefault : v.default = some default) (h : Faithful value v default s) :
    Relation.ReflTransGen (Exchange value) (lexemes s.text) (lexemes (s.referTo v).1.text) := by
  rcases referTo_cases v s with ⟨default', hdefault', hrefer⟩ | hrefer
  · rw [hdefault] at hdefault'
    cases hdefault'
    unfold lexemes
    rw [hrefer, toList_text, toList_text]
    exact exchanges_lines h.value h.name h.plain h.operands
  · rw [hrefer]

theorem referTo_of_count_eq_zero {v : Variable} {s : Script} (h : (s.referTo v).2 = 0) :
    (s.referTo v).1 = s := by
  rcases referTo_cases v s with ⟨default, -, hrefer⟩ | hrefer
  · rw [hrefer, List.countP_eq_zero] at h
    have hsame : ∀ line ∈ s.lines, referredLine ("\"" ++ default ++ "\"") v.address line = line := by
      intro line hline
      rw [referredLine, Option.not_isSome_iff_eq_none.mp (h line hline), Option.getD_none]
    rw [hrefer, List.map_congr_left hsame, List.map_id']
  · rw [hrefer]

theorem fst_referToAll (s : Script) (inputs : List Variable) :
    (s.referToAll inputs).1 = inputs.foldl (fun s v => (s.referTo v).1) s := by
  unfold Script.referToAll
  generalize 0 = count
  induction inputs generalizing s count with
  | nil => rfl
  | cons v rest ih => exact ih _ _

/-- A variable whose stack was deployed with another value than its default. -/
def stageVariable : Variable := ⟨"Env", .string, none, some "prod", some "dev", false⟩

def stageScript : Script := ⟨["stage = \"prod\"", "name = [\"production\", \"prod\"]"]⟩

end StackExport.Proofs.VariableReferences
