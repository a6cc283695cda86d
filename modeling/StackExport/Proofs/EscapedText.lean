import StackExport.Proofs.TemplateReading
import StackExport.Text.Identifier
/-!
Escaped text and what a scan from left to right finds in it.

The scan knows escapes behind a backslash, and takes a doubled dollar or percent sign in front of a
brace for the sign itself. Any other such sign in front of a brace starts a live sequence.
-/
namespace StackExport.Proofs.EscapedText

open StackExport
open StackExport.Proofs.TemplateReading

/-! ### The scan -/

inductive Symbol where
  | char (c : Char)
  /-- The start of a live sequence. -/
  | live (sign : Char)
  /-- A quote, a line break, or a backslash that begins no escape. -/
  | stray (c : Char)
deriving DecidableEq, Repr

/-- The characters that no template holds by themselves. -/
def breakers : List Char := ['\\', '"', '\n', '\r']

def single (c : Char) : Symbol := if c ∈ breakers then .stray c else .char c

def scan : List Char → List Symbol
  | [] => []
  | [c] => [single c]
  | c :: d :: rest =>
    if c = '\\' then
      match escaped? d with
      | some e => .char e :: scan rest
      | none => .stray c :: scan (d :: rest)
    else if c = '$' ∨ c = '%' then
      if d = '{' then .live c :: scan rest
      -- The second sign is skipped, and the brace behind it is a character like any other.
      else if d = c ∧ rest.head? = some '{' then .char c :: scan rest
      else .char c :: scan (d :: rest)
    else single c :: scan (d :: rest)

variable {c d : Char} {cs rest : List Char}

theorem scan_escape (h : escaped? d = some c) (cs : List Char) :
    scan ('\\' :: d :: cs) = .char c :: scan cs := by
  simp [scan, h]

theorem scan_doubled (hc : c = '$' ∨ c = '%') (hcs : cs.head? = some '{') :
    scan (c :: c :: cs) = .char c :: scan cs := by
  have hback : c ≠ '\\' := by rcases hc with rfl | rfl <;> decide
  have hbrace : c ≠ '{' := by rcases hc with rfl | rfl <;> decide
  rw [scan, if_neg hback, if_pos hc]
  simp only [if_neg hbrace, hcs, and_self, if_true]

theorem scan_char (hc : c ∉ breakers)
    (hsign : c = '$' ∨ c = '%' → cs.head? ≠ some '{' ∧ ¬[c, '{'] <+: cs) :
    scan (c :: cs) = .char c :: scan cs := by
  have hsingle : single c = .char c := if_neg hc
  have hback : c ≠ '\\' := by
    rintro rfl
    exact hc (by decide)
  cases cs with
  | nil => exact congrArg (· :: []) hsingle
  | cons d cs =>
      rw [scan, if_neg hback]
      split_ifs with hmark hbrace hdouble
      · exact absurd (congrArg some hbrace) (hsign hmark).1
      · obtain ⟨rfl, hhead⟩ := hdouble
        obtain ⟨tail, rfl⟩ := List.head?_eq_some_iff.mp hhead
        exact absurd ⟨tail, rfl⟩ (hsign hmark).2
      · rfl
      · rw [hsingle]

/-! ### What a character is written as -/

theorem escapeChars_cases (c : Char) (rest : List Char) :
    (∃ d, escaped? d = some c ∧
      Text.escapeChars (c :: rest) = '\\' :: d :: Text.escapeChars rest) ∨
    ((c = '$' ∨ c = '%') ∧ rest.head? = some '{' ∧
      Text.escapeChars (c :: rest) = c :: c :: Text.escapeChars rest) ∨
    (c ∉ breakers ∧ (c = '$' ∨ c = '%' → rest.head? ≠ some '{') ∧
      Text.escapeChars (c :: rest) = c :: Text.escapeChars rest) := by
  by_cases hback : c = '\\'
  · subst hback
    exact .inl ⟨'\\', rfl, rfl⟩
  by_cases hquote : c = '"'
  · subst hquote
    exact .inl ⟨'"', rfl, rfl⟩
  by_cases hline : c = '\n'
  · subst hline
    exact .inl ⟨'n', rfl, rfl⟩
  by_cases htab : c = '\t'
  · subst htab
    exact .inl ⟨'t', rfl, rfl⟩
  by_cases hreturn : c = '\r'
  · subst hreturn
    exact .inl ⟨'r', rfl, rfl⟩
  have hcons := escapeChars_cons hquote hback ⟨hline, hreturn⟩ htab rest
  by_cases hdouble : (c = '$' ∨ c = '%') ∧ rest.head? = some '{'
  · rw [if_pos hdouble] at hcons
    exact .inr (.inl ⟨hdouble.1, hdouble.2, hcons⟩)
  · rw [if_neg hdouble] at hcons
    refine .inr (.inr ⟨by simp [breakers, *], fun hc hhead => hdouble ⟨hc, hhead⟩, hcons⟩)

theorem ne_brace_of_escaped (h : escaped? d = some c) : c ≠ '{' := by
  rintro rfl
  unfold escaped? at h
  split at h <;> cases h

theorem head?_escapeChars_iff :
    (Text.escapeChars cs).head? = some '{' ↔ cs.head? = some '{' := by
  cases cs with
  | nil => rfl
  | cons c rest =>
      rcases escapeChars_cases c rest with ⟨d, hd, h⟩ | ⟨-, -, h⟩ | ⟨-, -, h⟩
      · simp [h, ne_brace_of_escaped hd]
      · simp [h]
      · simp [h]

/-- No sign and brace are left that were not written as two signs and a brace. -/
theorem not_prefix_escapeChars (hc : c = '$' ∨ c = '%') (cs : List Char) :
    ¬[c, '{'] <+: Text.escapeChars cs := by
  have hback : c ≠ '\\' := by rcases hc with rfl | rfl <;> decide
  have hbrace : c ≠ '{' := by rcases hc with rfl | rfl <;> decide
  cases cs with
  | nil => simp [Text.escapeChars]
  | cons e rest =>
      rcases escapeChars_cases e rest with ⟨d, -, h⟩ | ⟨-, -, h⟩ | ⟨-, hhead, h⟩
      · simp [h, hback]
      · rw [h, List.cons_prefix_cons, List.cons_prefix_cons]
        rintro ⟨rfl, heq, -⟩
        exact hbrace heq.symm
      · rw [h, List.cons_prefix_cons]
        rintro ⟨rfl, tail, htail⟩
        exact hhead hc (head?_escapeChars_iff.mp (by rw [← htail]; rfl))

theorem scan_escapeChars (cs : List Char) : scan (Text.escapeChars cs) = cs.map .char := by
  induction cs with
  | nil => rfl
  | cons c rest ih =>
      rcases escapeChars_cases c rest with ⟨d, hd, h⟩ | ⟨hc, hhead, h⟩ | ⟨hc, hhead, h⟩
      · rw [h, scan_escape hd, ih, List.map_cons]
      · rw [h, scan_doubled hc (head?_escapeChars_iff.mpr hhead), ih, List.map_cons]
      · rw [h, scan_char hc, ih, List.map_cons]
        exact fun hsign =>
          ⟨mt head?_escapeChars_iff.mp (hhead hsign), not_prefix_escapeChars hsign rest⟩

/-! ### Quotes and line breaks -/

theorem ne_break_of_escaped (h : escaped? d = some c) : d ≠ '\n' ∧ d ≠ '\r' := by
  constructor <;> rintro rfl <;> cases h

theorem break_not_mem_escapeChars (cs : List Char) :
    '\n' ∉ Text.escapeChars cs ∧ '\r' ∉ Text.escapeChars cs := by
  induction cs with
  | nil => simp [Text.escapeChars]
  | cons c rest ih =>
      rcases escapeChars_cases c rest with ⟨d, hd, h⟩ | ⟨hc, -, h⟩ | ⟨hc, -, h⟩
      · have hbreak := ne_break_of_escaped hd
        simp [h, ih, hbreak.1.symm, hbreak.2.symm]
      · rcases hc with rfl | rfl <;> simp [h, ih]
      · simp only [breakers, List.mem_cons, List.not_mem_nil, or_false, not_or] at hc
        simp [h, ih, Ne.symm hc.2.2.1, Ne.symm hc.2.2.2]

def backslashes (cs : List Char) : Nat := (cs.reverse.takeWhile (· == '\\')).length

/-- Each quote stands behind a backslash that is not escaped itself. -/
def QuotesEscaped (cs : List Char) : Prop :=
  ∀ front rest, cs = front ++ '"' :: rest → backslashes front % 2 = 1

theorem backslashes_append {front : List Char} (h : backslashes front % 2 = 0) (cs : List Char) :
    backslashes (front ++ cs) % 2 = backslashes cs % 2 := by
  unfold backslashes at h ⊢
  rw [List.reverse_append, List.takeWhile_append]
  split_ifs with hall
  · rw [List.length_append, hall]
    omega
  · rfl

/-- A piece that ends with no backslash of its own hides none in front of a quote. -/
theorem QuotesEscaped.append {unit cs : List Char} (hunit : QuotesEscaped unit)
    (heven : backslashes unit % 2 = 0) (h : QuotesEscaped cs) : QuotesEscaped (unit ++ cs) := by
  intro front rest heq
  rcases List.append_eq_append_iff.mp heq with ⟨a, rfl, hcs⟩ | ⟨b, hb, hrest⟩
  · rw [backslashes_append heven]
    exact h a rest hcs
  · cases b with
    | nil =>
        obtain rfl : unit = front := by rw [hb, List.append_nil]
        have hself := h [] rest hrest.symm
        cases hself
    | cons c b =>
        obtain ⟨rfl, -⟩ := List.cons.inj hrest
        exact hunit front b hb

theorem quotesEscaped_escape (d : Char) : QuotesEscaped ['\\', d] := by
  intro front rest h
  rcases front with _ | ⟨a, _ | ⟨b, front⟩⟩
  · cases h
  · obtain ⟨rfl, -⟩ := List.cons.inj h
    rfl
  · have hlength := congrArg List.length h
    simp at hlength

theorem quotesEscaped_singleton (hc : c ≠ '"') : QuotesEscaped [c] := by
  rintro front rest h
  have hmem : '"' ∈ [c] := by simp [h]
  exact absurd (List.mem_singleton.mp hmem).symm hc

theorem backslashes_escape (d : Char) : backslashes ['\\', d] % 2 = 0 := by
  by_cases hd : d = '\\'
  · subst hd
    rfl
  · simp [backslashes, hd]

theorem backslashes_singleton (hc : c ≠ '\\') : backslashes [c] % 2 = 0 := by
  simp [backslashes, hc]

theorem quotesEscaped_escapeChars (cs : List Char) : QuotesEscaped (Text.escapeChars cs) := by
  induction cs with
  | nil => simp [QuotesEscaped, Text.escapeChars]
  | cons c rest ih =>
      have hself (hc : c ∉ breakers) : QuotesEscaped ([c] ++ Text.escapeChars rest) := by
        simp only [breakers, List.mem_cons, List.not_mem_nil, or_false, not_or] at hc
        exact (quotesEscaped_singleton hc.2.1).append (backslashes_singleton hc.1) ih
      rcases escapeChars_cases c rest with ⟨d, -, h⟩ | ⟨hc, -, h⟩ | ⟨hc, -, h⟩
      · rw [h]
        exact (quotesEscaped_escape d).append (backslashes_escape d) ih
      · have hplain : c ∉ breakers := by rcases hc with rfl | rfl <;> decide
        have hquote : c ≠ '"' := by rcases hc with rfl | rfl <;> decide
        have hback : c ≠ '\\' := by rcases hc with rfl | rfl <;> decide
        rw [h]
        exact (quotesEscaped_singleton hquote).append (backslashes_singleton hback) (hself hplain)
      · rw [h]
        exact hself hc

/-! ### Texts and keys -/

theorem toList_escape (s : String) : (Text.escape s).toList = Text.escapeChars s.toList :=
  String.toList_ofList

theorem escape_injective : Function.Injective Text.escape := by
  intro s t h
  have hchar : Function.Injective Symbol.char := fun a b h => Symbol.char.inj h
  have hscan := congrArg (fun text => scan text.toList) h
  simp only [toList_escape, scan_escapeChars] at hscan
  exact String.toList_injective (List.map_injective_iff.mpr hchar hscan)

theorem quote_inj {s t : String} (h : Text.quote s = Text.quote t) : s = t := by
  refine escape_injective (String.toList_injective ?_)
  have hchars := congrArg String.toList h
  simp only [Text.quote, String.toList_append] at hchars
  exact List.append_cancel_left (List.append_cancel_right hchars)

theorem isIdentifier_quote (s : String) : Text.isIdentifier (Text.quote s) = false := by
  have hquote : (Text.quote s).toList = '"' :: ((Text.escape s).toList ++ ['"']) := by
    simp [Text.quote]
  have hstart : Text.isNameStart '"' = false := by decide
  unfold Text.isIdentifier
  rw [hquote]
  dsimp only
  rw [hstart, Bool.false_and, Bool.and_false]

theorem objectKey_inj {s t : String} (h : Text.objectKey s = Text.objectKey t) : s = t := by
  unfold Text.objectKey at h
  split_ifs at h with hs ht ht
  · exact h
  · rw [h, isIdentifier_quote] at hs
    cases hs
  · rw [← h, isIdentifier_quote] at ht
    cases ht
  · exact quote_inj h

/-- Escaped text holds no line break and no quote that could end its template, and a scan of it finds
no live sequence and just the characters of the text. So no two texts are quoted alike, and no two
keys are written alike. -/
theorem escape_reversible :
    (∀ s : String, ('\n' ∉ (Text.escape s).toList ∧ '\r' ∉ (Text.escape s).toList) ∧
      QuotesEscaped (Text.escape s).toList ∧
      (∀ sign, Symbol.live sign ∉ scan (Text.escape s).toList) ∧
      scan (Text.escape s).toList = s.toList.map .char) ∧
    Function.Injective Text.quote ∧ Function.Injective Text.objectKey := by
  refine ⟨fun s => ?_, fun _ _ => quote_inj, fun _ _ => objectKey_inj⟩
  rw [toList_escape]
  have hscan := scan_escapeChars s.toList
  refine ⟨break_not_mem_escapeChars _, quotesEscaped_escapeChars _, fun sign hlive => ?_, hscan⟩
  rw [hscan] at hlive
  obtain ⟨c, -, hc⟩ := List.mem_map.mp hlive
  cases hc

example : scan "a$$$\x7bb\x7d %\x7b $\\u".toList =
    [.char 'a', .char '$', .char '$', .char '{', .char 'b', .char '}', .char ' ', .live '%',
      .char ' ', .char '$', .stray '\\', .char 'u'] := by decide

end StackExport.Proofs.EscapedText
