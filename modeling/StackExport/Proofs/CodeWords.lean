import Mathlib
import StackExport.Proofs.LiteralReading
import StackExport.Proofs.TemplatePieces
/-!
The words of code: names with the attributes behind them, and numerals.

A word is a run of characters that may stand in names, and of dots. Words end where quotes, brackets,
commas and live sequences begin and end, and what a quoted text stands for has no words; so the words
of an expression that is put together from others are the words of these.
-/
namespace StackExport.Proofs.CodeWords

open StackExport
open StackExport.Proofs.TemplateReading
open StackExport.Proofs.TemplatePieces
open StackExport.Proofs.Lexemes

def isWordChar (c : Char) : Bool := Grammar.continuesName c || c == '.'

/-- The words that end among some lexemes, and the one that is under way behind them. -/
def scan (word : List Char) : List Lexeme → List (List Char) × List Char
  | [] => ([], word)
  | .code c :: rest =>
    if isWordChar c then scan (word ++ [c]) rest else (word :: (scan [] rest).1, (scan [] rest).2)
  | _ :: rest => (word :: (scan [] rest).1, (scan [] rest).2)

def words (ls : List Lexeme) : List (List Char) := (scan [] ls).1 ++ [(scan [] ls).2]

def isWordLexeme : Lexeme → Bool
  | .code c => isWordChar c
  | _ => false

theorem scan_of_not_word {l : Lexeme} (h : isWordLexeme l = false) (word : List Char)
    (rest : List Lexeme) : scan word (l :: rest) = (word :: (scan [] rest).1, (scan [] rest).2) := by
  cases l with
  | code c =>
      change isWordChar c = false at h
      rw [scan, if_neg (by simp [h])]
  | _ => rfl

theorem scan_append (word : List Char) (a b : List Lexeme) :
    scan word (a ++ b) =
      ((scan word a).1 ++ (scan (scan word a).2 b).1, (scan (scan word a).2 b).2) := by
  induction a generalizing word with
  | nil => rfl
  | cons l a ih =>
      by_cases hl : isWordLexeme l = true
      · cases l with
        | code c =>
            change isWordChar c = true at hl
            rw [List.cons_append, scan, if_pos hl, scan, if_pos hl]
            exact ih _
        | _ => cases hl
      · rw [Bool.not_eq_true] at hl
        rw [List.cons_append, scan_of_not_word hl, scan_of_not_word hl, ih]
        rfl

theorem scan_word {cs : List Char} (h : ∀ c ∈ cs, isWordChar c = true) (word : List Char) :
    scan word (cs.map .code) = ([], word ++ cs) := by
  induction cs generalizing word with
  | nil => simp [scan]
  | cons c cs ih =>
      rw [List.map_cons, scan, if_pos (h c List.mem_cons_self),
        ih fun d hd => h d (List.mem_cons_of_mem _ hd), List.append_assoc, List.singleton_append]

/-! ### Code whose words have a property -/

variable {P : List Char → Prop}

def AllWords (P : List Char → Prop) (word : List Char) (ls : List Lexeme) : Prop :=
  (∀ w ∈ (scan word ls).1, P w) ∧ P (scan word ls).2

theorem allWords_iff (ls : List Lexeme) : AllWords P [] ls ↔ ∀ w ∈ words ls, P w := by
  rw [AllWords, words]
  simp only [List.mem_append, List.mem_singleton, or_imp, forall_and, forall_eq]

/-- Code that leaves nothing open, whatever is open around it, and all of whose words have a
property. -/
structure Reads (P : List Char → Prop) (cs : List Char) : Prop where
  run_eq : ∀ outer, run (.code none :: outer) cs = .code none :: outer
  words : ∀ outer, AllWords P [] (lexFrom (.code none :: outer) cs)

theorem bare_of_isWordChar {c : Char} (h : isWordChar c = true) : Bare c := by
  intro hc
  simp only [List.mem_cons, List.not_mem_nil, or_false] at hc
  rcases hc with rfl | rfl | rfl | rfl | rfl | rfl | rfl <;> revert h <;> decide

theorem reads_word {cs : List Char} (h : ∀ c ∈ cs, isWordChar c = true) (hP : P cs) :
    Reads P cs where
  run_eq := fun outer => (lexFrom_bare (fun c hc => bare_of_isWordChar (h c hc)) outer).2
  words := fun outer => by
    rw [(lexFrom_bare (fun c hc => bare_of_isWordChar (h c hc)) outer).1, AllWords, scan_word h]
    exact ⟨nofun, hP⟩

/-- A character that ends a word and begins nothing. -/
def Separates (c : Char) : Prop := Bare c ∧ isWordChar c = false

instance (c : Char) : Decidable (Separates c) := inferInstanceAs (Decidable (_ ∧ _))

theorem lexFrom_cons {c : Char} (hc : Bare c) (outer : List Level) (rest : List Char) :
    lexFrom (.code none :: outer) (c :: rest) = .code c :: lexFrom (.code none :: outer) rest := by
  have hone := lexFrom_bare (List.forall_mem_singleton.mpr hc) outer
  have hsplit : c :: rest = [c] ++ rest := rfl
  rw [hsplit, lexFrom_append, hone.1, hone.2]
  rfl

theorem Reads.separated {a b : List Char} (ha : Reads P a) {c : Char} (hc : Separates c)
    (hb : Reads P b) : Reads P (a ++ c :: b) where
  run_eq := fun outer => by
    rw [run_append, ha.run_eq, run_cons, step_of_bare hc.1, hb.run_eq]
  words := fun outer => by
    obtain ⟨hwords, hlast⟩ := ha.words outer
    obtain ⟨hwords', hlast'⟩ := hb.words outer
    rw [lexFrom_append, ha.run_eq, lexFrom_cons hc.1, AllWords, scan_append,
      scan_of_not_word (l := .code c) hc.2]
    exact ⟨List.forall_mem_append.mpr
      ⟨hwords, List.forall_mem_cons.mpr ⟨hlast, hwords'⟩⟩, hlast'⟩

theorem reads_nil (hnil : P []) : Reads P [] := reads_word nofun hnil

/-! ### Lexemes that end all words -/

/-- Lexemes behind which no word is under way, and all of whose words have a property. -/
def Closed (P : List Char → Prop) (ls : List Lexeme) : Prop :=
  (∀ w ∈ (scan [] ls).1, P w) ∧ (scan [] ls).2 = []

theorem closed_nil : Closed P [] := ⟨nofun, rfl⟩

theorem Closed.append {a b : List Lexeme} (ha : Closed P a) (hb : Closed P b) :
    Closed P (a ++ b) := by
  rw [Closed, scan_append, ha.2]
  exact ⟨List.forall_mem_append.mpr ⟨ha.1, hb.1⟩, hb.2⟩

theorem closed_single (hnil : P []) {l : Lexeme} (hl : isWordLexeme l = false) : Closed P [l] := by
  rw [Closed, scan_of_not_word hl]
  exact ⟨List.forall_mem_singleton.mpr hnil, rfl⟩

theorem closed_chars (hnil : P []) (cs : List Char) : Closed P (cs.map .char) := by
  induction cs with
  | nil => exact closed_nil
  | cons c cs ih => exact (closed_single hnil rfl).append ih

/-- Code and a lexeme behind it that ends its last word. -/
theorem closed_of_allWords {ls : List Lexeme} (h : AllWords P [] ls) {l : Lexeme}
    (hl : isWordLexeme l = false) : Closed P (ls ++ [l]) := by
  rw [Closed, scan_append, scan_of_not_word hl]
  exact ⟨List.forall_mem_append.mpr ⟨h.1, List.forall_mem_singleton.mpr h.2⟩, rfl⟩

theorem Closed.allWords (hnil : P []) {ls : List Lexeme} (h : Closed P ls) : AllWords P [] ls :=
  ⟨h.1, by rwa [h.2]⟩

theorem reads_quote (hnil : P []) (s : String) : Reads P (Text.quote s).toList where
  run_eq := fun outer => (lexFrom_quote s none outer).2
  words := fun outer => by
    rw [(lexFrom_quote s none outer).1, literalLexemes, List.cons_append, ← List.singleton_append]
    exact ((closed_single hnil rfl).append
      ((closed_chars hnil s.toList).append (closed_single hnil rfl))).allWords hnil

/-! ### Steps behind a word -/

/-- No word is under way, or one that has the property however it goes on. -/
def Open (P : List Char → Prop) (word : List Char) : Prop := word = [] ∨ ∀ rest, P (word ++ rest)

/-- Code that may stand directly behind a word. -/
structure Extends (P : List Char → Prop) (cs : List Char) : Prop where
  run_eq : ∀ outer, run (.code none :: outer) cs = .code none :: outer
  words : ∀ outer word, Open P word →
    (∀ w ∈ (scan word (lexFrom (.code none :: outer) cs)).1, P w) ∧
      Open P (scan word (lexFrom (.code none :: outer) cs)).2

theorem Open.holds (hnil : P []) {word : List Char} (h : Open P word) : P word := by
  rcases h with rfl | h
  · exact hnil
  · simpa using h []

theorem Extends.append {a b : List Char} (ha : Extends P a) (hb : Extends P b) :
    Extends P (a ++ b) where
  run_eq := fun outer => by rw [run_append, ha.run_eq, hb.run_eq]
  words := fun outer word hword => by
    obtain ⟨hwords, hopen⟩ := ha.words outer word hword
    obtain ⟨hwords', hopen'⟩ := hb.words outer _ hopen
    rw [lexFrom_append, ha.run_eq, scan_append]
    exact ⟨List.forall_mem_append.mpr ⟨hwords, hwords'⟩, hopen'⟩

/-- A word of which all continuations have the property, with steps behind it. -/
theorem Extends.reads (hnil : P []) {word steps : List Char}
    (hword : ∀ c ∈ word, isWordChar c = true) (hP : ∀ rest, P (word ++ rest))
    (h : Extends P steps) : Reads P (word ++ steps) where
  run_eq := fun outer => by
    rw [run_append, (lexFrom_bare (fun c hc => bare_of_isWordChar (hword c hc)) outer).2, h.run_eq]
  words := fun outer => by
    have hbare := lexFrom_bare (fun c hc => bare_of_isWordChar (hword c hc)) outer
    obtain ⟨hwords, hopen⟩ := h.words outer word (.inr hP)
    rw [lexFrom_append, hbare.1, hbare.2, AllWords, scan_append, scan_word hword]
    exact ⟨hwords, hopen.holds hnil⟩

/-- A step by name. A word that begins with a dot stands behind a bracket. -/
theorem extends_name (hhanging : ∀ w, P ('.' :: w)) {name : List Char}
    (hname : ∀ c ∈ name, isWordChar c = true) : Extends P ('.' :: name) := by
  have hall : ∀ c ∈ '.' :: name, isWordChar c = true :=
    List.forall_mem_cons.mpr ⟨by decide, hname⟩
  have hbare (outer : List Level) :=
    lexFrom_bare (fun c hc => bare_of_isWordChar (hall c hc)) outer
  refine ⟨fun outer => (hbare outer).2, fun outer word hword => ?_⟩
  rw [(hbare outer).1, scan_word hall]
  refine ⟨nofun, .inr fun rest => ?_⟩
  rcases hword with rfl | hword
  · exact hhanging _
  · rw [List.append_assoc]
    exact hword _

/-- A step whose key stands in brackets. -/
theorem extends_bracketed {inner : List Char} (h : Reads P inner) (hnil : P []) :
    Extends P ('[' :: (inner ++ [']'])) where
  run_eq := fun outer => by
    rw [run_cons, step_of_bare (by decide), run_append, h.run_eq]
    rfl
  words := fun outer word hword => by
    have hclosed := closed_of_allWords (h.words outer) (l := .code ']') rfl
    rw [lexFrom_cons (by decide), lexFrom_append, h.run_eq, lexFrom_cons (by decide),
      scan_of_not_word (l := .code '[') rfl]
    exact ⟨List.forall_mem_cons.mpr ⟨hword.holds hnil, hclosed.1⟩, .inl hclosed.2⟩

/-! ### Templates -/

/-- A character of a literal, or a sign that opens a live sequence, is no word. -/
theorem templateLexemes_sign {mark : Mark} (h : mark.IsLiteral) :
    templateLexemes mark '$' = (templateText mark '$').map .char := by
  cases mark with
  | backslash | digits left read => exact h.elim
  | _ => simp [templateLexemes, templateLexemes.literalLexeme]

theorem closed_live (hnil : P []) {e : List Char} (he : Reads P e) {mark : Mark}
    {before : Option Char} (hfits : Fits mark before) (hbefore : before ≠ some '$')
    (outer : List Level) :
    run (.quoted mark :: outer) ('$' :: '{' :: (e ++ ['}'])) = .quoted .plain :: outer ∧
      Closed P (lexFrom (.quoted mark :: outer) ('$' :: '{' :: (e ++ ['}']))) := by
  have hsign : step (.quoted mark :: outer) '$' = .quoted (.sign '$') :: outer := by
    cases mark with
    | plain => rfl
    | sign s =>
        obtain ⟨rfl, rfl | rfl⟩ := hfits
        · exact absurd rfl hbefore
        · rfl
    | signs s =>
        obtain ⟨rfl, rfl | rfl⟩ := hfits
        · exact absurd rfl hbefore
        · rfl
    | _ => exact hfits.elim
  have hopen : step (.quoted (.sign '$') :: outer) '{' = .code none :: .quoted .plain :: outer := rfl
  have hclose : step (.code none :: .quoted .plain :: outer) '}' = .quoted .plain :: outer := rfl
  constructor
  · rw [run_cons, hsign, run_cons, hopen, run_append, he.run_eq, run_cons, hclose, run_nil]
  · rw [lexFrom, hsign, lexFrom, hopen, lexFrom_append, he.run_eq]
    have hfirst : lexemesOf (.quoted mark :: outer) '$' = (templateText mark '$').map .char :=
      templateLexemes_sign hfits.isLiteral
    have hcode := closed_of_allWords (he.words (.quoted .plain :: outer)) (l := .closing) rfl
    rw [hfirst]
    exact (closed_chars hnil _).append ((closed_single hnil (l := .opening '$') rfl).append hcode)

theorem closed_literal (hnil : P []) {mark : Mark} {before : Option Char} (hfits : Fits mark before)
    (text : String) (hapart : before = some '$' ∨ before = some '%' → text.toList.head? ≠ some '{')
    (outer : List Level) :
    run (.quoted mark :: outer) (Text.escape text).toList =
        .quoted (text.toList.foldl Mark.after mark) :: outer ∧
      Closed P (lexFrom (.quoted mark :: outer) (Text.escape text).toList) := by
  have hbrace : text.toList.head? = some '{' → mark.opens = false := by
    intro hhead
    have hnot : ¬(before = some '$' ∨ before = some '%') := fun hb => hapart hb hhead
    cases mark with
    | sign s => exact absurd (hfits.2.imp (· ▸ hfits.1) (· ▸ hfits.1)) hnot
    | _ => rfl
  obtain ⟨read, hread, -⟩ := textOf_escapeChars hfits.isLiteral text.toList hbrace
  have hescape : (Text.escape text).toList = Text.escapeChars text.toList := String.toList_ofList
  rw [hescape]
  refine ⟨run_textOf hread outer, ?_⟩
  rw [lexFrom_textOf hread]
  exact closed_chars hnil read

/-- Pieces that are apart have the words of their expressions. -/
theorem closed_body (hnil : P []) {ps : List Piece} (hlive : ∀ e, .live e ∈ ps → Reads P e.toList)
    {mark : Mark} {before : Option Char} (hfits : Fits mark before) (hapart : Apart before ps)
    (outer : List Level) :
    ∃ last : Mark, last.IsLiteral ∧
      run (.quoted mark :: outer) (body ps).toList = .quoted last :: outer ∧
      Closed P (lexFrom (.quoted mark :: outer) (body ps).toList) := by
  -- The mark tells how the text so far has been read, and `before` what its last character was.
  -- They fit each other behind every piece, so a brace never meets a sign that it could open.
  induction ps generalizing mark before with
  | nil => exact ⟨mark, hfits.isLiteral, rfl, closed_nil⟩
  | cons piece ps ih =>
      rw [body_cons]
      cases piece with
      | literal text =>
          obtain ⟨hrun, hclosed⟩ := closed_literal hnil hfits text hapart.1 outer
          obtain ⟨last, hlast, hrun', hclosed'⟩ :=
            ih (fun e he => hlive e (List.mem_cons_of_mem _ he)) (fits_foldl hfits _) hapart.2
          refine ⟨last, hlast, ?_, ?_⟩
          · rw [run_append, Piece.write, hrun, hrun']
          · rw [lexFrom_append, Piece.write, hrun]
            exact hclosed.append hclosed'
      | live e =>
          obtain ⟨hrun, hclosed⟩ :=
            closed_live hnil (hlive e List.mem_cons_self) hfits hapart.1 outer
          obtain ⟨last, hlast, hrun', hclosed'⟩ :=
            ih (fun e he => hlive e (List.mem_cons_of_mem _ he)) fits_plain hapart.2
          refine ⟨last, hlast, ?_, ?_⟩
          · rw [run_append, toList_write_live, hrun, hrun']
          · rw [lexFrom_append, toList_write_live, hrun]
            exact hclosed.append hclosed'

/-- A quoted template whose pieces are apart has the words of its expressions. -/
theorem reads_template (hnil : P []) {ps : List Piece}
    (hlive : ∀ e, .live e ∈ ps → Reads P e.toList) (hapart : Apart none ps) :
    Reads P ('"' :: ((body ps).toList ++ ['"'])) := by
  have hopen (outer : List Level) :
      step (.code none :: outer) '"' = .quoted .plain :: .code none :: outer := rfl
  have hend {last : Mark} (hlast : last.IsLiteral) (outer : List Level) :
      step (.quoted last :: .code none :: outer) '"' = .code none :: outer := by
    cases last <;> first | rfl | exact hlast.elim
  constructor
  · intro outer
    obtain ⟨last, hlast, hrun, -⟩ := closed_body hnil hlive fits_plain hapart (.code none :: outer)
    rw [run_cons, hopen, run_append, hrun, run_cons, hend hlast, run_nil]
  · intro outer
    obtain ⟨last, hlast, hrun, hclosed⟩ :=
      closed_body hnil hlive fits_plain hapart (.code none :: outer)
    have hquote : lexemesOf (.code none :: outer) '"' = [.openQuote] := rfl
    have hlastQuote : lexemesOf (.quoted last :: .code none :: outer) '"' =
        (pending last).map .char ++ [.closeQuote] := by
      cases last <;> first | rfl | exact hlast.elim
    rw [lexFrom, hquote, hopen, lexFrom_append, hrun, lexFrom, hlastQuote, lexFrom, List.append_nil]
    exact ((closed_single hnil rfl).append (hclosed.append
      ((closed_chars hnil _).append (closed_single hnil rfl)))).allWords hnil

end StackExport.Proofs.CodeWords
