import Mathlib
import StackExport.Proofs.TemplateReading
/-!
Templates made of pieces: literal texts, which are escaped each on its own, and expressions in live
sequences.

Escaping does not see the neighbours of a piece. A template reads as its pieces exactly when no sign at
the end of a literal meets a brace at the start of the next piece.
-/
namespace StackExport.Proofs.TemplatePieces

open StackExport
open StackExport.Proofs.TemplateReading

/-! ### Reading a template -/

inductive Token where
  /-- A character of the text that the template stands for. -/
  | char (c : Char)
  /-- The start of a live sequence. -/
  | opening (sign : Char)
  /-- A character of the code in a live sequence. -/
  | code (c : Char)
  | closing
deriving DecidableEq, Repr

/-- What a character gives in the template itself. -/
def templateTokens (mark : Mark) (c : Char) : List Token :=
  match mark with
  | .sign s => if c = '{' then [.opening s] else (templateText mark c).map .char
  | mark => (templateText mark c).map .char

def emit (levels : List Level) (c : Char) : List Token :=
  match levels with
  | [.quoted mark] => templateTokens mark c
  | levels => if step levels c = [.quoted .plain] then [.closing] else [.code c]

def tokensFrom : List Level → List Char → List Token
  | _, [] => []
  | levels, c :: cs => emit levels c ++ tokensFrom (step levels c) cs

/-- What is left to give when a template ends, if it may end there. -/
def ending : List Level → Option (List Token)
  | [.quoted .backslash] | [.quoted (.digits _ _)] => none
  | [.quoted mark] => some ((pending mark).map .char)
  | _ => none

/-- What a text gives from some levels on to its end. -/
def readFrom (levels : List Level) (cs : List Char) : Option (List Token) :=
  (ending (run levels cs)).map (tokensFrom levels cs ++ ·)

def readTemplate (body : List Char) : Option (List Token) := readFrom [.quoted .plain] body

theorem readFrom_cons (levels : List Level) (c : Char) (cs : List Char) :
    readFrom levels (c :: cs) = (readFrom (step levels c) cs).map (emit levels c ++ ·) := by
  simp [readFrom, tokensFrom, Option.map_map, Function.comp_def]

theorem readFrom_textOf {mark last : Mark} {cs text : List Char}
    (h : textOf mark cs = some (text, last)) (rest : List Char) :
    readFrom [.quoted mark] (cs ++ rest) =
      (readFrom [.quoted last] rest).map (text.map .char ++ ·) := by
  induction cs generalizing mark text with
  | nil =>
      cases h
      simp
  | cons c cs ih =>
      unfold textOf at h
      split at h
      · next next hstep =>
          obtain ⟨⟨tail, last'⟩, htail, heq⟩ := Option.map_eq_some_iff.mp h
          cases heq
          have htokens : emit [.quoted mark] c = (templateText mark c).map .char := by
            change templateTokens mark c = _
            unfold templateTokens
            split
            · next s =>
                rw [if_neg]
                rintro rfl
                simp [stepQuoted, stepLiteral, Mark.opens] at hstep
            · rfl
          have hlevels : step [.quoted mark] c = [.quoted next] := hstep
          rw [List.cons_append, readFrom_cons, hlevels, ih htail, htokens, Option.map_map]
          simp [Function.comp_def]
      · cases h

/-! ### Live sequences -/

/-- Inside a live sequence of the template, or where nothing is read any more. -/
def Deep (levels : List Level) : Prop :=
  levels = [.unread] ∨ ∃ level inner, levels = level :: inner ++ [.quoted .plain]

theorem emit_of_deep {levels : List Level} (h : Deep levels) (c : Char) :
    emit levels c = if step levels c = [.quoted .plain] then [.closing] else [.code c] := by
  unfold emit
  split
  · next mark =>
      rcases h with h | ⟨level, inner, h⟩
      · cases h
      · have := congrArg List.length h
        simp at this
  · rfl

theorem Deep.step {levels : List Level} (h : Deep levels) (c : Char) :
    TemplateReading.step levels c = [.quoted .plain] ∨ Deep (TemplateReading.step levels c) := by
  rcases h with rfl | ⟨level, inner, rfl⟩
  · exact Or.inr (Or.inl rfl)
  · have houter : inner ++ [.quoted .plain] ≠ [] := by simp
    rcases within_step houter c with hstep | ⟨new, hstep⟩
    · exact Or.inr (Or.inl hstep)
    · rw [List.cons_append, hstep]
      cases new with
      | cons top new => exact Or.inr (Or.inr ⟨top, new ++ inner, by simp⟩)
      | nil =>
          cases inner with
          | nil => exact Or.inl rfl
          | cons top inner => exact Or.inr (Or.inr ⟨top, inner, rfl⟩)

theorem readFrom_closing_iff {levels : List Level} (h : Deep levels) {c : Char} {cs : List Char}
    {tokens : List Token} :
    readFrom levels (c :: cs) = some (.closing :: tokens) ↔
      step levels c = [.quoted .plain] ∧ readFrom [.quoted .plain] cs = some tokens := by
  rw [readFrom_cons, emit_of_deep h]
  split_ifs with hstep <;> simp [hstep]

theorem readFrom_code_iff {levels : List Level} (h : Deep levels) {c : Char} {cs : List Char}
    {tokens : List Token} :
    readFrom levels (c :: cs) = some (.code c :: tokens) ↔
      Deep (step levels c) ∧ step levels c ≠ [.quoted .plain] ∧
        readFrom (step levels c) cs = some tokens := by
  rw [readFrom_cons, emit_of_deep h]
  split_ifs with hstep
  · simp [hstep]
  · simp [hstep, (h.step c).resolve_left hstep]

/-- True of an expression that ends where a brace is put behind it. -/
def Closes (levels : List Level) (e : List Char) : Prop :=
  readFrom levels (e ++ ['}']) = some (e.map .code ++ [.closing])

/-- A live sequence is read to the brace behind its expression exactly when the expression ends
there. -/
theorem readFrom_live_iff {levels : List Level} (h : Deep levels) (e rest : List Char)
    (tokens : List Token) :
    readFrom levels (e ++ '}' :: rest) = some (e.map .code ++ .closing :: tokens) ↔
      Closes levels e ∧ readFrom [.quoted .plain] rest = some tokens := by
  unfold Closes
  induction e generalizing levels with
  | nil =>
      have hend : readFrom [.quoted .plain] [] = some [] := rfl
      simp only [List.map_nil, List.nil_append, readFrom_closing_iff h, hend, and_true]
  | cons c e ih =>
      simp only [List.map_cons, List.cons_append, readFrom_code_iff h]
      constructor
      · rintro ⟨hdeep, hstep, hrest⟩
        obtain ⟨hcloses, hrest⟩ := (ih hdeep).mp hrest
        exact ⟨⟨hdeep, hstep, hcloses⟩, hrest⟩
      · rintro ⟨⟨hdeep, hstep, hcloses⟩, hrest⟩
        exact ⟨hdeep, hstep, (ih hdeep).mpr ⟨hcloses, hrest⟩⟩

/-! ### Pieces -/

inductive Piece where
  | literal (text : String)
  /-- An expression in a live sequence. -/
  | live (expression : String)
deriving DecidableEq, Repr

/-- The text of a piece inside a template. -/
def Piece.write : Piece → String
  | .literal text => Text.escape text
  | .live expression => "$\x7b" ++ expression ++ "\x7d"

/-- What a piece should read as. -/
def Piece.tokens : Piece → List Token
  | .literal text => text.toList.map .char
  | .live expression => .opening '$' :: expression.toList.map .code ++ [.closing]

def body (pieces : List Piece) : String := String.join (pieces.map Piece.write)

def tokens (pieces : List Piece) : List Token := pieces.flatMap Piece.tokens

/-- True of an expression that reads as one live sequence when it stands alone in a template. -/
def Delimited (expression : String) : Prop :=
  readTemplate (body [.live expression]).toList = some (tokens [.live expression])

/-- True of pieces of which none starts with a brace directly behind a sign. `before` is the literal
character in front of them. -/
def Apart : (before : Option Char) → List Piece → Prop
  | _, [] => True
  | before, .literal text :: rest =>
    (before = some '$' ∨ before = some '%' → text.toList.head? ≠ some '{') ∧
      Apart (text.toList.getLast?.or before) rest
  | before, .live _ :: rest => before ≠ some '$' ∧ Apart none rest

/-- A mark as the literal character in front leaves it. -/
def Fits : Mark → Option Char → Prop
  | .plain, before => before ≠ some '$' ∧ before ≠ some '%'
  | .sign c, before | .signs c, before => before = some c ∧ (c = '$' ∨ c = '%')
  | _, _ => False

theorem fits_plain : Fits .plain none := ⟨nofun, nofun⟩

theorem Fits.isLiteral {mark : Mark} {before : Option Char} (h : Fits mark before) :
    mark.IsLiteral := by
  cases mark <;> first | exact trivial | exact h.2 | exact h

theorem fits_after (mark : Mark) (c : Char) : Fits (mark.after c) (some c) := by
  unfold Mark.after
  split_ifs with hc hm
  · exact ⟨rfl, hc⟩
  · exact ⟨rfl, hc⟩
  · simpa [Fits] using hc

theorem fits_foldl {mark : Mark} {before : Option Char} (h : Fits mark before) (text : List Char) :
    Fits (text.foldl Mark.after mark) (text.getLast?.or before) := by
  induction text generalizing mark before with
  | nil => exact h
  | cons c rest ih =>
      have := ih (fits_after mark c)
      rw [List.getLast?_cons]
      cases hlast : rest.getLast? <;> simp_all

theorem body_cons (piece : Piece) (rest : List Piece) :
    (body (piece :: rest)).toList = piece.write.toList ++ (body rest).toList := by
  simp [body, String.join_cons]

theorem tokens_cons (piece : Piece) (rest : List Piece) :
    tokens (piece :: rest) = piece.tokens ++ tokens rest := rfl

/-- A literal that starts with a brace behind a sign does not read as itself. -/
theorem readFrom_clash {mark : Mark} {before : Option Char} (h : Fits mark before)
    (hbefore : before = some '$' ∨ before = some '%') {text : List Char}
    (hhead : text.head? = some '{') (rest : List Char) (tokens : List Token) :
    readFrom [.quoted mark] (Text.escapeChars text ++ rest) ≠
      some ((pending mark ++ text).map .char ++ tokens) := by
  obtain ⟨tail, rfl⟩ := List.head?_eq_some_iff.mp hhead
  have hescape : Text.escapeChars ('{' :: tail) = '{' :: Text.escapeChars tail := by
    rw [escapeChars_cons] <;> simp
  rw [hescape, List.cons_append, readFrom_cons]
  intro hread
  obtain ⟨given, -, hgiven⟩ := Option.map_eq_some_iff.mp hread
  cases mark with
  | plain =>
      obtain ⟨hdollar, hpercent⟩ := h
      exact hbefore.elim hdollar hpercent
  | sign s => simp [emit, templateTokens, pending] at hgiven
  | signs s =>
      obtain ⟨-, rfl | rfl⟩ := h <;>
        simp [emit, templateTokens, templateText, literalText, pending] at hgiven
  | _ => exact h

theorem readFrom_literal_iff {mark : Mark} {before : Option Char} (h : Fits mark before)
    {text : List Char} (hapart : before = some '$' ∨ before = some '%' → text.head? ≠ some '{')
    (rest : List Char) (tokens : List Token) :
    readFrom [.quoted mark] (Text.escapeChars text ++ rest) =
        some ((pending mark ++ text).map .char ++ tokens) ↔
      readFrom [.quoted (text.foldl Mark.after mark)] rest =
        some ((pending (text.foldl Mark.after mark)).map .char ++ tokens) := by
  have hplain : text.head? = some '{' → mark = .plain := by
    intro hhead
    have hnot : ¬ (before = some '$' ∨ before = some '%') := fun hb => hapart hb hhead
    cases mark with
    | plain => rfl
    | sign s | signs s => exact absurd (h.2.imp (· ▸ h.1) (· ▸ h.1)) hnot
    | _ => exact h.elim
  have hheld : held mark text = pending mark := by
    unfold held
    split_ifs with hhead
    · rw [hplain hhead]
      rfl
    · rfl
  obtain ⟨read, hread, heq⟩ := textOf_escapeChars h.isLiteral text fun hhead => by
    rw [hplain hhead]
    rfl
  rw [readFrom_textOf hread, ← hheld, ← heq, List.map_append, List.append_assoc]
  simp

theorem readFrom_opening_iff {mark : Mark} {before : Option Char} (h : Fits mark before)
    (cs : List Char) (tokens : List Token) :
    readFrom [.quoted mark] ('$' :: '{' :: cs) =
        some ((pending mark).map .char ++ .opening '$' :: tokens) ↔
      before ≠ some '$' ∧ readFrom [.code none, .quoted .plain] cs = some tokens := by
  have hopen : step [.quoted (.sign '$')] '{' = [.code none, .quoted .plain] := rfl
  have hdoubled : step [.quoted (.signs '$')] '{' = [.quoted .plain] := rfl
  cases mark with
  | plain =>
      have hsign : step [.quoted .plain] '$' = [.quoted (.sign '$')] := rfl
      rw [readFrom_cons, readFrom_cons, hsign, hopen]
      simp [emit, templateTokens, templateText, literalText, pending, h.1]
  | sign s =>
      obtain ⟨rfl, rfl | rfl⟩ := h
      · have hsign : step [.quoted (.sign '$')] '$' = [.quoted (.signs '$')] := rfl
        rw [readFrom_cons, readFrom_cons, hsign, hdoubled]
        simp [emit, templateTokens, templateText, literalText, pending]
      · have hsign : step [.quoted (.sign '%')] '$' = [.quoted (.sign '$')] := rfl
        rw [readFrom_cons, readFrom_cons, hsign, hopen]
        simp [emit, templateTokens, templateText, literalText, pending]
  | signs s =>
      obtain ⟨rfl, rfl | rfl⟩ := h
      · have hsign : step [.quoted (.signs '$')] '$' = [.quoted (.signs '$')] := rfl
        rw [readFrom_cons, readFrom_cons, hsign, hdoubled]
        simp [emit, templateTokens, templateText, literalText, pending]
      · have hsign : step [.quoted (.signs '%')] '$' = [.quoted (.sign '$')] := rfl
        rw [readFrom_cons, readFrom_cons, hsign, hopen]
        simp [emit, templateTokens, templateText, literalText, pending]
  | _ => exact h.elim

theorem deep_live : Deep [.code none, .quoted .plain] := Or.inr ⟨.code none, [], rfl⟩

theorem toList_write_live (e : String) :
    (Piece.live e).write.toList = '$' :: '{' :: (e.toList ++ ['}']) := by
  simp [Piece.write]

theorem delimited_iff {e : String} :
    Delimited e ↔ Closes [.code none, .quoted .plain] e.toList := by
  have hbody : (body [.live e]).toList = '$' :: '{' :: (e.toList ++ ['}']) := by
    rw [body_cons, toList_write_live]
    simp [body]
  have htokens : tokens [.live e] = .opening '$' :: (e.toList.map .code ++ [.closing]) := by
    simp [tokens, Piece.tokens]
  unfold Delimited readTemplate Closes
  rw [hbody, htokens]
  exact (readFrom_opening_iff fits_plain _ _).trans (and_iff_right nofun)

theorem readFrom_live_piece_iff {mark : Mark} {before : Option Char} (h : Fits mark before)
    (e : String) (rest : List Char) (tokens : List Token) :
    readFrom [.quoted mark] ((Piece.live e).write.toList ++ rest) =
        some ((pending mark).map .char ++ ((Piece.live e).tokens ++ tokens)) ↔
      before ≠ some '$' ∧ Delimited e ∧ readFrom [.quoted .plain] rest = some tokens := by
  have htokens : (Piece.live e).tokens ++ tokens =
      .opening '$' :: (e.toList.map .code ++ .closing :: tokens) := by
    simp [Piece.tokens]
  rw [toList_write_live, htokens, delimited_iff]
  simp only [List.cons_append, List.append_assoc, List.nil_append]
  rw [readFrom_opening_iff h, readFrom_live_iff deep_live]

/-- A template reads as its pieces exactly when they are apart and their expressions end where they
should. -/
theorem readFrom_body_iff {mark : Mark} {before : Option Char} (h : Fits mark before)
    (pieces : List Piece) :
    readFrom [.quoted mark] (body pieces).toList =
        some ((pending mark).map .char ++ tokens pieces) ↔
      (∀ e, .live e ∈ pieces → Delimited e) ∧ Apart before pieces := by
  induction pieces generalizing mark before with
  | nil =>
      have hend : ending [.quoted mark] = some ((pending mark).map .char) := by
        cases mark <;> first | rfl | exact h.elim
      simp [body, tokens, readFrom, tokensFrom, hend, Apart]
  | cons piece rest ih =>
      rw [body_cons, tokens_cons]
      cases piece with
      | literal text =>
          have hwrite : (Piece.literal text).write.toList = Text.escapeChars text.toList := by
            simp [Piece.write, Text.escape]
          have htokens : (pending mark).map Token.char ++ ((Piece.literal text).tokens ++ tokens rest) =
              (pending mark ++ text.toList).map .char ++ tokens rest := by
            simp [Piece.tokens]
          rw [hwrite, htokens]
          simp only [List.mem_cons, reduceCtorEq, false_or, Apart]
          by_cases hclash : before = some '$' ∨ before = some '%' → text.toList.head? ≠ some '{'
          · rw [readFrom_literal_iff h hclash, ih (fits_foldl h _), and_iff_right hclash]
          · obtain ⟨hbefore, hhead⟩ := Classical.not_imp.mp hclash
            have hno := readFrom_clash h hbefore (not_not.mp hhead) (body rest).toList (tokens rest)
            constructor
            · intro hread
              exact absurd hread hno
            · rintro ⟨-, hapart, -⟩
              exact absurd hapart hclash
      | live e =>
          have hrest : readFrom [.quoted .plain] (body rest).toList = some (tokens rest) ↔
              (∀ e, .live e ∈ rest → Delimited e) ∧ Apart none rest := ih fits_plain
          rw [readFrom_live_piece_iff h, hrest, Apart]
          constructor
          · rintro ⟨hbefore, hdelimited, hrest, hapart⟩
            refine ⟨fun f hf => ?_, hbefore, hapart⟩
            rcases List.mem_cons.mp hf with hf | hf
            · cases hf
              exact hdelimited
            · exact hrest f hf
          · rintro ⟨hdelimited, hbefore, hapart⟩
            exact ⟨hbefore, hdelimited e List.mem_cons_self,
              fun f hf => hdelimited f (List.mem_cons_of_mem _ hf), hapart⟩

theorem readTemplate_body_iff (pieces : List Piece) :
    readTemplate (body pieces).toList = some (tokens pieces) ↔
      (∀ e, .live e ∈ pieces → Delimited e) ∧ Apart none pieces :=
  readFrom_body_iff fits_plain pieces

end StackExport.Proofs.TemplatePieces
