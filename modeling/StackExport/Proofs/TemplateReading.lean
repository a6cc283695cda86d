import Mathlib
import StackExport.Grammar.Word
import StackExport.Text.Quoted
/-!
How the configuration language reads quoted templates and the code around and inside them.

The reader goes through a text character by character. It keeps the levels that are open: code at the
outside, a template inside its quotes, and code again inside a live sequence of the template.
-/
namespace StackExport.Proofs.TemplateReading

open StackExport

/-- What the characters just read have begun inside a quoted template. -/
inductive Mark where
  | plain
  | backslash
  /-- An escape that lacks so many digits of its code point. -/
  | digits (left : Nat) (read : List Char)
  /-- A dollar or percent sign, which a brace would make the start of a live sequence. -/
  | sign (c : Char)
  /-- Two or more of the same sign, which make a brace behind them literal. -/
  | signs (c : Char)
deriving DecidableEq, Repr

inductive Level where
  /-- Code, behind a character that may begin a comment or a text of several lines. -/
  | code (begun : Option Char)
  | quoted (mark : Mark)
  /-- A comment up to the end of the line. -/
  | comment
  /-- A comment up to a star and a slash. -/
  | block (star : Bool)
  /-- Nothing is read from here on. -/
  | unread
deriving DecidableEq, Repr

def Mark.opens : Mark → Bool
  | .sign _ => true
  | _ => false

/-! ### Levels -/

def escaped? : Char → Option Char
  | 'n' => some '\n'
  | 'r' => some '\r'
  | 't' => some '\t'
  | '"' => some '"'
  | '\\' => some '\\'
  | _ => none

def stepCode (begun : Option Char) (outer : List Level) (c : Char) : List Level :=
  match c with
  | '"' => .quoted .plain :: .code none :: outer
  | '{' => .code none :: .code none :: outer
  | '}' => if outer.isEmpty then [.code none] else outer
  | '#' => .comment :: .code none :: outer
  | '/' => if begun = some '/' then .comment :: .code none :: outer else .code (some '/') :: outer
  | '*' => if begun = some '/' then .block false :: .code none :: outer else .code none :: outer
  | '<' => if begun = some '<' then [.unread] else .code (some '<') :: outer
  -- A tilde would strip the blanks around a live sequence.
  | '~' => [.unread]
  | _ => .code none :: outer

/-- The digit that a code point lacked last. -/
def stepDigit (left : Nat) (read : List Char) (outer : List Level) (c : Char) : List Level :=
  if !Grammar.isHexDigit c then [.unread]
  else if 1 < left then .quoted (.digits (left - 1) (read ++ [c])) :: outer
  else
    match Grammar.codePoint? (read.length + 1) (read ++ [c]) with
    | some _ => .quoted .plain :: outer
    | none => [.unread]

def stepLiteral (mark : Mark) (outer : List Level) (c : Char) : List Level :=
  if c = '"' then outer
  else if c = '\\' then .quoted .backslash :: outer
  else if c = '\n' ∨ c = '\r' then [.unread]
  else if c = '$' ∨ c = '%' then
    if mark = .sign c ∨ mark = .signs c then .quoted (.signs c) :: outer
    else .quoted (.sign c) :: outer
  else if c = '{' ∧ mark.opens = true then .code none :: .quoted .plain :: outer
  else .quoted .plain :: outer

def stepQuoted (mark : Mark) (outer : List Level) (c : Char) : List Level :=
  match mark with
  | .backslash =>
    if c = 'u' then .quoted (.digits 4 []) :: outer
    else if c = 'U' then .quoted (.digits 8 []) :: outer
    else if (escaped? c).isSome then .quoted .plain :: outer
    else [.unread]
  | .digits left read => stepDigit left read outer c
  | mark => stepLiteral mark outer c

def step (levels : List Level) (c : Char) : List Level :=
  match levels with
  | [] => []
  | .code begun :: outer => stepCode begun outer c
  | .quoted mark :: outer => stepQuoted mark outer c
  | .comment :: outer => if c = '\n' then outer else levels
  | .block star :: outer =>
    if star = true ∧ c = '/' then outer else .block (c = '*') :: outer
  | .unread :: _ => levels

def run (levels : List Level) (cs : List Char) : List Level := cs.foldl step levels

@[simp] theorem run_nil (levels : List Level) : run levels [] = levels := rfl

@[simp] theorem run_cons (levels : List Level) (c : Char) (cs : List Char) :
    run levels (c :: cs) = run (step levels c) cs := rfl

theorem run_append (levels : List Level) (a b : List Char) :
    run levels (a ++ b) = run (run levels a) b :=
  List.foldl_append

/-- What is left of a level, or that nothing is read any more. -/
def Within (outer levels : List Level) : Prop :=
  levels = [.unread] ∨ ∃ inner, levels = inner ++ outer

theorem within_unread (outer : List Level) : Within outer [.unread] := Or.inl rfl

theorem within_append (inner outer : List Level) : Within outer (inner ++ outer) :=
  Or.inr ⟨inner, rfl⟩

theorem within_stepCode (begun : Option Char) {outer : List Level} (houter : outer ≠ []) (c : Char) :
    Within outer (stepCode begun outer c) := by
  unfold stepCode
  split
  · exact within_append [_, _] outer
  · exact within_append [_, _] outer
  · rw [if_neg (by simpa using houter)]
    exact within_append [] outer
  · exact within_append [_, _] outer
  · split_ifs
    · exact within_append [_, _] outer
    · exact within_append [_] outer
  · split_ifs
    · exact within_append [_, _] outer
    · exact within_append [_] outer
  · split_ifs
    · exact within_unread outer
    · exact within_append [_] outer
  · exact within_unread outer
  · exact within_append [_] outer

theorem within_stepLiteral (mark : Mark) (outer : List Level) (c : Char) :
    Within outer (stepLiteral mark outer c) := by
  unfold stepLiteral
  split_ifs
  · exact within_append [] outer
  · exact within_append [_] outer
  · exact within_unread outer
  · exact within_append [_] outer
  · exact within_append [_] outer
  · exact within_append [_, _] outer
  · exact within_append [_] outer

theorem within_stepDigit (left : Nat) (read : List Char) (outer : List Level) (c : Char) :
    Within outer (stepDigit left read outer c) := by
  unfold stepDigit
  split_ifs
  · exact within_unread outer
  · exact within_append [_] outer
  · split
    · exact within_append [_] outer
    · exact within_unread outer

theorem within_stepQuoted (mark : Mark) (outer : List Level) (c : Char) :
    Within outer (stepQuoted mark outer c) := by
  cases mark with
  | backslash =>
      rw [stepQuoted]
      split_ifs
      · exact within_append [_] outer
      · exact within_append [_] outer
      · exact within_append [_] outer
      · exact within_unread outer
  | digits left read => exact within_stepDigit left read outer c
  | plain => exact within_stepLiteral _ outer c
  | sign s => exact within_stepLiteral _ outer c
  | signs s => exact within_stepLiteral _ outer c

/-- A step changes only the innermost level, unless nothing is read any more. -/
theorem within_step {level : Level} {outer : List Level} (houter : outer ≠ []) (c : Char) :
    Within outer (step (level :: outer) c) := by
  cases level with
  | code begun => exact within_stepCode begun houter c
  | quoted mark => exact within_stepQuoted mark outer c
  | comment =>
      rw [step]
      split_ifs
      · exact within_append [] outer
      · exact within_append [_] outer
  | block star =>
      rw [step]
      split_ifs
      · exact within_append [] outer
      · exact within_append [_] outer
  | unread => exact within_append [_] outer

/-- True of a character that ends no code and begins nothing in it. -/
abbrev Bare (c : Char) : Prop := c ∉ ['"', '{', '}', '#', '/', '<', '~']

theorem step_of_bare {c : Char} (h : Bare c) (outer : List Level) :
    step (.code none :: outer) c = .code none :: outer := by
  simp only [Bare, List.mem_cons, List.not_mem_nil, or_false, not_or] at h
  obtain ⟨h1, h2, h3, h4, h5, h6, h7⟩ := h
  simp only [step]
  unfold stepCode
  split <;> first | contradiction | rfl

/-! ### Literal text -/

/-- The signs that are read but may still turn out to belong to a brace. -/
def pending : Mark → List Char
  | .sign c => [c]
  | .signs c => [c, c]
  | _ => []

/-- What a character behind no backslash adds to the literal text. -/
def literalText (mark : Mark) (c : Char) : List Char :=
  if c = '"' ∨ c = '\\' then pending mark
  else if c = '$' ∨ c = '%' then
    if mark = .sign c then []
    else if mark = .signs c then [c]
    else pending mark
  else if c = '{' then
    match mark with
    | .sign _ => []
    | .signs s => [s, '{']
    | _ => ['{']
  else pending mark ++ [c]

/-- What a character adds to the literal text of a template. -/
def templateText (mark : Mark) (c : Char) : List Char :=
  match mark with
  | .backslash => (escaped? c).toList
  | .digits left read =>
    if 1 < left then []
    else ((Grammar.codePoint? (read.length + 1) (read ++ [c])).map (·.1)).toList
  | mark => literalText mark c

/-- What literal text stands for, and the mark that it leaves. Text that leaves its template or
opens a live sequence is not literal. -/
def textOf : Mark → List Char → Option (List Char × Mark)
  | mark, [] => some ([], mark)
  | mark, c :: cs =>
    match stepQuoted mark [] c with
    | [.quoted next] =>
      (textOf next cs).map fun (text, last) => (templateText mark c ++ text, last)
    | _ => none

theorem stepQuoted_eq {mark next : Mark} {c : Char} (h : stepQuoted mark [] c = [.quoted next])
    (outer : List Level) : stepQuoted mark outer c = .quoted next :: outer := by
  have hliteral : stepLiteral mark [] c = [.quoted next] →
      stepLiteral mark outer c = .quoted next :: outer := by
    unfold stepLiteral
    split_ifs <;> simp
  cases mark with
  | backslash =>
      simp only [stepQuoted] at h ⊢
      split_ifs at h ⊢ <;> simp_all
  | digits left read =>
      simp only [stepQuoted, stepDigit] at h ⊢
      split_ifs at h ⊢
      · cases h
      · simp_all
      · split at h <;> simp_all
  | plain => exact hliteral h
  | sign s => exact hliteral h
  | signs s => exact hliteral h

theorem textOf_cons {mark next : Mark} {c : Char} (h : stepQuoted mark [] c = [.quoted next])
    (cs : List Char) :
    textOf mark (c :: cs) =
      (textOf next cs).map fun (text, last) => (templateText mark c ++ text, last) := by
  simp only [textOf, h]

theorem run_textOf {mark last : Mark} {cs text : List Char} (h : textOf mark cs = some (text, last))
    (outer : List Level) : run (.quoted mark :: outer) cs = .quoted last :: outer := by
  induction cs generalizing mark text with
  | nil =>
      cases h
      rfl
  | cons c cs ih =>
      unfold textOf at h
      split at h
      · next next hstep =>
          obtain ⟨⟨rest, last'⟩, hrest, heq⟩ := Option.map_eq_some_iff.mp h
          cases heq
          rw [run_cons, step, stepQuoted_eq hstep]
          exact ih hrest
      · cases h

/-! ### Escaped text -/

/-- True of a mark behind a literal character, or at the start of a template. -/
def Mark.IsLiteral : Mark → Prop
  | .plain => True
  | .sign c | .signs c => c = '$' ∨ c = '%'
  | _ => False

def Mark.after (mark : Mark) (c : Char) : Mark :=
  if c = '$' ∨ c = '%' then
    if mark = .sign c ∨ mark = .signs c then .signs c else .sign c
  else .plain

theorem Mark.isLiteral_after (mark : Mark) (c : Char) : (mark.after c).IsLiteral := by
  unfold Mark.after
  split_ifs with hc hm
  · exact hc
  · exact hc
  · trivial

/-- The signs that still count before a literal text: a brace takes one away. -/
def held (mark : Mark) (text : List Char) : List Char :=
  if text.head? = some '{' then (pending mark).tail else pending mark

theorem textOf_backslash {mark : Mark} (hmark : mark.IsLiteral) {c d : Char}
    (hd : escaped? d = some c) (hu : d ≠ 'u' ∧ d ≠ 'U') (cs : List Char) :
    textOf mark ('\\' :: d :: cs) =
      (textOf .plain cs).map fun (text, last) => (pending mark ++ c :: text, last) := by
  have hfirst : stepQuoted mark [] '\\' = [.quoted .backslash] := by
    cases mark <;> first | rfl | exact hmark.elim
  have hpending : templateText mark '\\' = pending mark := by
    cases mark <;> first | rfl | exact hmark.elim
  have hsecond : stepQuoted .backslash [] d = [.quoted .plain] := by
    simp [stepQuoted, hu, hd]
  have htext : templateText .backslash d = [c] := by
    simp [templateText, hd]
  rw [textOf_cons hfirst, textOf_cons hsecond, hpending, htext, Option.map_map]
  rfl

theorem stepQuoted_literal {mark : Mark} (hmark : mark.IsLiteral) {c : Char} (hquote : c ≠ '"')
    (hback : c ≠ '\\') (hend : c ≠ '\n' ∧ c ≠ '\r') (hbrace : c = '{' → mark.opens = false) :
    stepQuoted mark [] c = [.quoted (mark.after c)] := by
  have hliteral : stepLiteral mark [] c = [.quoted (mark.after c)] := by
    unfold stepLiteral Mark.after
    split_ifs <;> simp_all
  cases mark <;> first | exact hliteral | exact hmark.elim

theorem templateText_append_pending {mark : Mark} (hmark : mark.IsLiteral) {c : Char}
    (hquote : c ≠ '"') (hback : c ≠ '\\') (hbrace : c = '{' → mark.opens = false) :
    templateText mark c ++ pending (mark.after c) =
      (if c = '{' then (pending mark).tail else pending mark) ++ [c] := by
  have hsign : ∀ s : Char, s = '$' ∨ s = '%' → s ≠ '{' := by
    rintro s (rfl | rfl) <;> decide
  cases mark with
  | plain =>
      by_cases hc : c = '$' ∨ c = '%'
      · simp [templateText, literalText, Mark.after, pending, hquote, hback, hc, hsign c hc]
      · by_cases hb : c = '{' <;>
          simp [templateText, literalText, Mark.after, pending, hquote, hback, hc, hb]
  | sign s =>
      by_cases hc : c = '$' ∨ c = '%'
      · by_cases hs : s = c <;>
          simp [templateText, literalText, Mark.after, pending, hquote, hback, hc, hsign c hc, hs]
      · by_cases hb : c = '{'
        · cases hbrace hb
        · simp [templateText, literalText, Mark.after, pending, hquote, hback, hc, hb]
  | signs s =>
      by_cases hc : c = '$' ∨ c = '%'
      · by_cases hs : s = c <;>
          simp [templateText, literalText, Mark.after, pending, hquote, hback, hc, hsign c hc, hs]
      · by_cases hb : c = '{' <;>
          simp [templateText, literalText, Mark.after, pending, hquote, hback, hc, hb]
  | _ => exact hmark.elim

theorem escapeChars_cons {c : Char} (hquote : c ≠ '"') (hback : c ≠ '\\')
    (hend : c ≠ '\n' ∧ c ≠ '\r') (htab : c ≠ '\t') (rest : List Char) :
    Text.escapeChars (c :: rest) =
      if (c = '$' ∨ c = '%') ∧ rest.head? = some '{' then c :: c :: Text.escapeChars rest
      else c :: Text.escapeChars rest := by
  rw [Text.escapeChars]
  · simp
  all_goals simp_all

/-- Escaped text stands for the text that was escaped, up to the signs that wait before and behind
it. -/
def Escapes (mark : Mark) (text : List Char) : Prop :=
  ∃ read, textOf mark (Text.escapeChars text) = some (read, text.foldl Mark.after mark) ∧
    read ++ pending (text.foldl Mark.after mark) = held mark text ++ text

theorem escapes_backslash {mark : Mark} (hmark : mark.IsLiteral) {c d : Char} {rest : List Char}
    (hd : escaped? d = some c) (hu : d ≠ 'u' ∧ d ≠ 'U') (hc : mark.after c = .plain) (hb : c ≠ '{')
    (hescape : Text.escapeChars (c :: rest) = '\\' :: d :: Text.escapeChars rest)
    (hrest : Escapes .plain rest) : Escapes mark (c :: rest) := by
  obtain ⟨read, hread, heq⟩ := hrest
  have hheld : held .plain rest = [] := by simp [held, pending]
  rw [Escapes, hescape, textOf_backslash hmark hd hu, List.foldl_cons, hc, hread]
  refine ⟨_, rfl, ?_⟩
  rw [hheld] at heq
  simp [heq, held, hb]

/-- A sign in front of a brace is doubled, and both signs wait for the brace. -/
theorem escapes_sign {mark : Mark} (hmark : mark.IsLiteral) {c : Char} {rest : List Char}
    (hc : c = '$' ∨ c = '%') (hhead : rest.head? = some '{') (hrest : Escapes (.signs c) rest) :
    Escapes mark (c :: rest) := by
  have hb : c ≠ '{' := by rcases hc with rfl | rfl <;> decide
  have hquote : c ≠ '"' := by rcases hc with rfl | rfl <;> decide
  have hback : c ≠ '\\' := by rcases hc with rfl | rfl <;> decide
  have hend : c ≠ '\n' ∧ c ≠ '\r' := by rcases hc with rfl | rfl <;> decide
  have htab : c ≠ '\t' := by rcases hc with rfl | rfl <;> decide
  have hafter : (mark.after c).after c = .signs c := by
    unfold Mark.after
    split_ifs <;> simp_all
  have hstep := stepQuoted_literal hmark hquote hback hend (absurd · hb)
  have htext := templateText_append_pending hmark hquote hback (absurd · hb)
  have hstep' := stepQuoted_literal (mark.isLiteral_after c) hquote hback hend (absurd · hb)
  have htext' := templateText_append_pending (mark.isLiteral_after c) hquote hback (absurd · hb)
  have hfold : rest.foldl Mark.after (mark.after c) = rest.foldl Mark.after (.signs c) := by
    obtain ⟨tail, rfl⟩ := List.head?_eq_some_iff.mp hhead
    rfl
  have hsigns : templateText mark c ++ templateText (mark.after c) c = pending mark := by
    rw [if_neg hb] at htext htext'
    rw [hafter] at htext'
    have hpair : pending (.signs c) = [c] ++ [c] := rfl
    rw [hpair, ← List.append_assoc, List.append_cancel_right_eq] at htext'
    rw [← htext', ← List.append_assoc, List.append_cancel_right_eq] at htext
    exact htext
  obtain ⟨read, hread, heq⟩ := hrest
  rw [hafter] at hstep'
  rw [Escapes, escapeChars_cons hquote hback hend htab, if_pos ⟨hc, hhead⟩, textOf_cons hstep,
    textOf_cons hstep', hread, List.foldl_cons, hfold]
  refine ⟨_, rfl, ?_⟩
  have hheld : held (.signs c) rest = [c] := by simp [held, hhead, pending]
  rw [hheld] at heq
  rw [← List.append_assoc, hsigns, List.append_assoc, heq]
  simp [held, hb]

theorem escapes_plain {mark : Mark} (hmark : mark.IsLiteral) {c : Char} {rest : List Char}
    (hquote : c ≠ '"') (hback : c ≠ '\\') (hend : c ≠ '\n' ∧ c ≠ '\r') (htab : c ≠ '\t')
    (hbrace : c = '{' → mark.opens = false)
    (hsingle : ¬((c = '$' ∨ c = '%') ∧ rest.head? = some '{'))
    (hrest : Escapes (mark.after c) rest) : Escapes mark (c :: rest) := by
  have hstep := stepQuoted_literal hmark hquote hback hend hbrace
  have htext := templateText_append_pending hmark hquote hback hbrace
  have hheld : held (mark.after c) rest = pending (mark.after c) := by
    unfold held
    split_ifs with hhead
    · have hc : ¬ (c = '$' ∨ c = '%') := fun hc => hsingle ⟨hc, hhead⟩
      simp [Mark.after, hc, pending]
    · rfl
  obtain ⟨read, hread, heq⟩ := hrest
  rw [Escapes, escapeChars_cons hquote hback hend htab, if_neg hsingle, textOf_cons hstep, hread,
    List.foldl_cons]
  refine ⟨_, rfl, ?_⟩
  rw [List.append_assoc, heq, hheld, ← List.append_assoc, htext]
  simp [held]

theorem textOf_escapeChars {mark : Mark} (hmark : mark.IsLiteral) (text : List Char)
    (hbrace : text.head? = some '{' → mark.opens = false) : Escapes mark text := by
  induction text generalizing mark with
  | nil => exact ⟨[], rfl, by simp [held]⟩
  | cons c rest ih =>
      have hplain : Mark.plain.IsLiteral := trivial
      have hrest := ih hplain fun _ => rfl
      by_cases h1 : c = '\\'
      · subst h1
        exact escapes_backslash hmark (d := '\\') rfl (by decide) rfl (by decide) rfl hrest
      by_cases h2 : c = '"'
      · subst h2
        exact escapes_backslash hmark (d := '"') rfl (by decide) rfl (by decide) rfl hrest
      by_cases h3 : c = '\n'
      · subst h3
        exact escapes_backslash hmark (d := 'n') rfl (by decide) rfl (by decide) rfl hrest
      by_cases h4 : c = '\t'
      · subst h4
        exact escapes_backslash hmark (d := 't') rfl (by decide) rfl (by decide) rfl hrest
      by_cases h5 : c = '\r'
      · subst h5
        exact escapes_backslash hmark (d := 'r') rfl (by decide) rfl (by decide) rfl hrest
      by_cases hdouble : (c = '$' ∨ c = '%') ∧ rest.head? = some '{'
      · have hsigns : (Mark.signs c).IsLiteral := hdouble.1
        exact escapes_sign hmark hdouble.1 hdouble.2 (ih hsigns fun _ => rfl)
      · refine escapes_plain hmark h2 h1 ⟨h3, h5⟩ h4 (fun hb => hbrace (by simp [hb])) hdouble ?_
        refine ih (mark.isLiteral_after c) fun hhead => ?_
        unfold Mark.after
        split_ifs with hc
        all_goals simp_all [Mark.opens]

end StackExport.Proofs.TemplateReading
