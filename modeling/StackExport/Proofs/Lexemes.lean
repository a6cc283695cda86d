import Mathlib
import StackExport.Proofs.TemplateReading
import StackExport.Text.Identifier
/-!
Documents as lists of lexemes: the characters of code, and quoted templates as what they stand for.
-/
namespace StackExport.Proofs.Lexemes

open StackExport
open StackExport.Proofs.TemplateReading

inductive Lexeme where
  | code (c : Char)
  | comment
  | openQuote
  /-- A character of the text that a template stands for. -/
  | char (c : Char)
  /-- The start of a live sequence in a template. -/
  | opening (sign : Char)
  | closing
  | closeQuote
deriving DecidableEq, Repr

def templateLexemes (mark : Mark) (c : Char) : List Lexeme :=
  match mark with
  | .backslash | .digits _ _ => (templateText mark c).map .char
  | .sign s => if c = '{' then [.opening s] else literalLexeme
  | _ => literalLexeme
where
  literalLexeme := (templateText mark c).map .char ++ if c = '"' then [.closeQuote] else []

def lexemesOf (levels : List Level) (c : Char) : List Lexeme :=
  match levels with
  | .code _ :: outer =>
    if c = '"' then [.openQuote]
    else if c = '}' ∧ (outer.head?.any fun level => level matches .quoted _) then [.closing]
    else [.code c]
  | .quoted mark :: _ => templateLexemes mark c
  | .comment :: _ | .block _ :: _ => [.comment]
  | _ => []

def lexFrom : List Level → List Char → List Lexeme
  | _, [] => []
  | levels, c :: cs => lexemesOf levels c ++ lexFrom (step levels c) cs

def lexemes (text : String) : List Lexeme := lexFrom [.code none] text.toList

theorem lexFrom_append (levels : List Level) (a b : List Char) :
    lexFrom levels (a ++ b) = lexFrom levels a ++ lexFrom (run levels a) b := by
  induction a generalizing levels with
  | nil => rfl
  | cons c a ih => rw [List.cons_append, lexFrom, lexFrom, ih, List.append_assoc, run_cons]

def literalLexemes (text : String) : List Lexeme :=
  .openQuote :: text.toList.map .char ++ [.closeQuote]

theorem templateLexemes_of_step {mark next : Mark} {c : Char}
    (h : stepQuoted mark [] c = [.quoted next]) :
    templateLexemes mark c = (templateText mark c).map .char := by
  have hliteral (hquote : c ≠ '"') :
      templateLexemes.literalLexeme mark c = (templateText mark c).map .char := by
    simp [templateLexemes.literalLexeme, hquote]
  cases mark with
  | backslash => rfl
  | digits left read => rfl
  | plain =>
      refine hliteral ?_
      rintro rfl
      cases h
  | sign s =>
      have hbrace : c ≠ '{' := by
        rintro rfl
        cases h
      rw [templateLexemes, if_neg hbrace]
      refine hliteral ?_
      rintro rfl
      cases h
  | signs s =>
      refine hliteral ?_
      rintro rfl
      cases h

theorem lexFrom_textOf {mark last : Mark} {cs text : List Char}
    (h : textOf mark cs = some (text, last)) (outer : List Level) :
    lexFrom (.quoted mark :: outer) cs = text.map .char := by
  induction cs generalizing mark text with
  | nil =>
      cases h
      rfl
  | cons c cs ih =>
      unfold textOf at h
      split at h
      · next next hstep =>
          obtain ⟨⟨rest, last'⟩, hrest, heq⟩ := Option.map_eq_some_iff.mp h
          cases heq
          rw [lexFrom, step, stepQuoted_eq hstep, ih hrest, lexemesOf,
            templateLexemes_of_step hstep, List.map_append]
      · cases h

theorem isLiteral_foldl {mark : Mark} (h : mark.IsLiteral) (text : List Char) :
    (text.foldl Mark.after mark).IsLiteral := by
  induction text generalizing mark with
  | nil => exact h
  | cons c rest ih => exact ih (mark.isLiteral_after c)

/-- A quoted text, at a place where code is read. -/
theorem lexFrom_quote (text : String) (begun : Option Char) (outer : List Level) :
    lexFrom (.code begun :: outer) (Text.quote text).toList = literalLexemes text ∧
      run (.code begun :: outer) (Text.quote text).toList = .code none :: outer := by
  have hquote : (Text.quote text).toList = '"' :: (Text.escapeChars text.toList ++ ['"']) := by
    simp [Text.quote, Text.escape]
  have hstart : Mark.plain.IsLiteral := trivial
  obtain ⟨read, hread, heq⟩ := textOf_escapeChars hstart text.toList fun _ => rfl
  have hheld : held .plain text.toList = [] := by simp [held, pending]
  rw [hheld, List.nil_append] at heq
  have hlast := isLiteral_foldl hstart text.toList
  generalize text.toList.foldl Mark.after .plain = last at hread heq hlast
  have hend : step (.quoted last :: .code none :: outer) '"' = .code none :: outer := by
    cases last <;> first | rfl | exact hlast.elim
  have hclose : lexemesOf (.quoted last :: .code none :: outer) '"' =
      (pending last).map .char ++ [.closeQuote] := by
    cases last <;> first | rfl | exact hlast.elim
  have hopen : step (.code begun :: outer) '"' = .quoted .plain :: .code none :: outer := rfl
  constructor
  · rw [hquote, lexFrom, hopen, lexFrom_append, lexFrom_textOf hread,
      run_textOf hread, lexFrom, lexFrom, hclose, literalLexemes, ← heq]
    simp [lexemesOf]
  · rw [hquote, run_cons, hopen, run_append, run_textOf hread, run_cons,
      hend, run_nil]

theorem isNameRest_of_isIdentifier {name : String} (h : Text.isIdentifier name = true) :
    ∀ c ∈ name.toList, Text.isNameRest c = true := by
  unfold Text.isIdentifier at h
  rw [Bool.and_eq_true] at h
  obtain ⟨-, h⟩ := h
  split at h
  · cases h
  · next first rest heq =>
      rw [Bool.and_eq_true] at h
      rw [heq]
      intro c hc
      rcases List.mem_cons.mp hc with rfl | hc
      · have hstart := h.1
        simp only [Text.isNameStart, Bool.or_eq_true] at hstart
        simp only [Text.isNameRest, Char.isAlphanum, Bool.or_eq_true]
        tauto
      · exact List.all_eq_true.mp h.2 c hc

theorem bare_of_isNameRest {c : Char} (h : Text.isNameRest c = true ∨ c = '.') : Bare c := by
  rintro hc
  rcases h with h | rfl
  · simp only [List.mem_cons, List.not_mem_nil, or_false] at hc
    rcases hc with rfl | rfl | rfl | rfl | rfl | rfl | rfl <;> revert h <;> decide
  · revert hc
    decide

/-- Code that begins nothing. -/
theorem lexFrom_bare {cs : List Char} (h : ∀ c ∈ cs, Bare c) (outer : List Level) :
    lexFrom (.code none :: outer) cs = cs.map .code ∧
      run (.code none :: outer) cs = .code none :: outer := by
  induction cs with
  | nil => exact ⟨rfl, rfl⟩
  | cons c cs ih =>
      have hbare := h c List.mem_cons_self
      obtain ⟨hlex, hrun⟩ := ih fun d hd => h d (List.mem_cons_of_mem _ hd)
      have hcode : lexemesOf (.code none :: outer) c = [.code c] := by
        simp only [Bare, List.mem_cons, List.not_mem_nil, or_false, not_or] at hbare
        simp [lexemesOf, hbare]
      constructor
      · rw [lexFrom, step_of_bare hbare, hlex, hcode]
        rfl
      · rw [run_cons, step_of_bare hbare, hrun]

end StackExport.Proofs.Lexemes
