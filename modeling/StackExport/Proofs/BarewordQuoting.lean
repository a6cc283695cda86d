import StackExport.Proofs.RepairEdits
/-!
Putting a token in quotes, and what a second report about the same line does.

A token ends with a character that is no quote and begins with one, but either may be a blank. So the
search for a token gives blanks of the indentation back until one of them can stand for the first
character, and it finds a token also where a quote follows the indentation.
-/
namespace StackExport.Proofs.BarewordQuoting

open StackExport
open StackExport.Proofs.RepairEdits

variable {s : Script} {p q : Problem} {line : String} {b : Bareword}

def indentation (line : String) : List Char := line.toList.takeWhile Text.isBlank

def content (line : String) : List Char := line.toList.dropWhile Text.isBlank

def StartsQuoted (line : String) : Prop := (content line).head? = some '"'

/-- Nothing but quotes stands behind the first character of a line that is not blank. -/
def HoldsNoToken (line : String) : Prop := ∀ c ∈ (content line).tail, c = '"'

theorem indentation_append_content (line : String) :
    indentation line ++ content line = line.toList :=
  List.takeWhile_append_dropWhile

theorem isBlank_of_mem_indentation {c : Char} (h : c ∈ indentation line) : Text.isBlank c = true :=
  List.mem_takeWhile_imp h

theorem not_isBlank_of_content {c : Char} {rest : List Char} (h : content line = c :: rest) :
    Text.isBlank c = false := by
  have hne : content line ≠ [] := by simp [h]
  have hhead := List.head_dropWhile_not Text.isBlank hne
  change Text.isBlank ((content line).head hne) = false at hhead
  simpa only [h, List.head_cons] using hhead

/-! ### Tokens -/

/-- A token between an indentation and the rest of a line: two characters that are no quotes around
at least one that is not blank. -/
structure Split (cs indent : List Char) (first : Char) (inner : List Char) (last : Char)
    (rest : List Char) : Prop where
  text : cs = indent ++ first :: (inner ++ last :: rest)
  indent_blank : ∀ c ∈ indent, Text.isBlank c = true
  first_ne : first ≠ '"'
  inner_ne : inner ≠ []
  inner_solid : ∀ c ∈ inner, Text.isBlank c = false
  last_ne : last ≠ '"'

def HasToken (line : String) : Prop :=
  ∃ indent first inner last rest, Split line.toList indent first inner last rest

theorem ofLength_isSome_iff {cs : List Char} {n : Nat} :
    (Bareword.ofLength cs (n + 3)).isSome ↔
      ∃ first last, cs.head? = some first ∧ cs[n + 2]? = some last ∧ first ≠ '"' ∧ last ≠ '"' := by
  have hlast : n + 3 - 1 = n + 2 := rfl
  unfold Bareword.ofLength
  rw [hlast]
  cases cs.head? with
  | none => simp
  | some first =>
      cases cs[n + 2]? with
      | none => simp
      | some last =>
          by_cases h : first ≠ '"' ∧ last ≠ '"'
          · simp [h]
          · simp only [not_and_or, not_not] at h
            rcases h with rfl | rfl <;> simp

theorem withIndent_isSome_iff {cs : List Char} {width : Nat} :
    (Bareword.withIndent cs width).isSome ↔
      ∃ first inner last rest, cs.drop width = first :: (inner ++ last :: rest) ∧
        first ≠ '"' ∧ inner ≠ [] ∧ (∀ c ∈ inner, Text.isBlank c = false) ∧ last ≠ '"' := by
  unfold Bareword.withIndent
  simp only [Option.isSome_map, List.findSome?_isSome_iff, List.mem_reverse, List.mem_range,
    ofLength_isSome_iff]
  generalize cs.drop width = cs
  constructor
  · rintro ⟨n, hn, first, last, hfirst, hlast, hfirstne, hlastne⟩
    obtain ⟨tail, rfl⟩ := List.head?_eq_some_iff.mp hfirst
    change n < (tail.takeWhile fun c => !Text.isBlank c).length at hn
    have hlast : tail[n + 1]? = some last := hlast
    obtain ⟨hlt, hget⟩ := List.getElem?_eq_some_iff.mp hlast
    have hsplit : tail = tail.take (n + 1) ++ last :: tail.drop (n + 2) := by
      rw [← hget, List.getElem_cons_drop, List.take_append_drop]
    refine ⟨first, tail.take (n + 1), last, tail.drop (n + 2), congrArg _ hsplit, hfirstne, ?_, ?_,
      hlastne⟩
    · exact List.ne_nil_of_length_pos (by rw [List.length_take]; omega)
    · intro c hc
      have hrun : tail.take (n + 1) =
          (tail.takeWhile fun c => !Text.isBlank c).take (n + 1) := by
        conv_lhs => rw [← List.takeWhile_append_dropWhile (p := fun c => !Text.isBlank c) (l := tail)]
        exact List.take_append_of_le_length (by omega)
      rw [hrun] at hc
      simpa using List.mem_takeWhile_imp (List.mem_of_mem_take hc)
  · rintro ⟨first, inner, last, rest, rfl, hfirst, hne, hsolid, hlast⟩
    obtain ⟨n, hn⟩ : ∃ n, inner.length = n + 1 :=
      Nat.exists_eq_succ_of_ne_zero (mt List.length_eq_zero_iff.mp hne)
    have hall : ∀ c ∈ inner, (!Text.isBlank c) = true := fun c hc => by rw [hsolid c hc]; rfl
    refine ⟨n, ?_, first, last, rfl, ?_, hfirst, hlast⟩
    · change n < ((inner ++ last :: rest).takeWhile fun c => !Text.isBlank c).length
      rw [List.takeWhile_append_of_pos hall, List.length_append]
      omega
    · change (inner ++ last :: rest)[n + 1]? = some last
      rw [← hn, List.getElem?_append_right (Nat.le_refl _), Nat.sub_self]
      rfl

theorem ofLine_isSome_iff : (Bareword.ofLine line).isSome ↔ HasToken line := by
  unfold Bareword.ofLine
  simp only [List.findSome?_isSome_iff, List.mem_reverse, List.mem_range, withIndent_isSome_iff]
  constructor
  · rintro ⟨width, hwidth, first, inner, last, rest, hdrop, hfirst, hne, hsolid, hlast⟩
    refine ⟨line.toList.take width, first, inner, last, rest, ?_, ?_, hfirst, hne, hsolid, hlast⟩
    · rw [← hdrop, List.take_append_drop]
    · intro c hc
      have hrun : line.toList.take width = (indentation line).take width := by
        rw [← indentation_append_content line]
        exact List.take_append_of_le_length (Nat.le_of_lt_succ hwidth)
      exact isBlank_of_mem_indentation (List.mem_of_mem_take (hrun ▸ hc))
  · rintro ⟨indent, first, inner, last, rest, h⟩
    refine ⟨indent.length, ?_, first, inner, last, rest, ?_, h.first_ne, h.inner_ne, h.inner_solid,
      h.last_ne⟩
    · rw [h.text, List.takeWhile_append_of_pos h.indent_blank, List.length_append]
      omega
    · rw [h.text, List.drop_left]

theorem prefix_of_ofLine (h : Bareword.ofLine line = some b) : b.indent <+: indentation line := by
  obtain ⟨width, hwidth, h⟩ := List.exists_of_findSome?_eq_some h
  obtain ⟨found, -, rfl⟩ := Option.map_eq_some_iff.mp h
  rw [List.mem_reverse, List.mem_range] at hwidth
  have hrun : line.toList.take width = (indentation line).take width := by
    rw [← indentation_append_content line]
    exact List.take_append_of_le_length (Nat.le_of_lt_succ hwidth)
  exact hrun ▸ List.take_prefix _ _

/-! ### Lines with and without tokens -/

theorem Split.last_mem_tail {indent inner rest : List Char} {first last : Char}
    (h : Split line.toList indent first inner last rest) : last ∈ (content line).tail := by
  obtain ⟨c, inner', hinner⟩ := List.exists_cons_of_ne_nil h.inner_ne
  have hsolid : Text.isBlank c = false := h.inner_solid c (hinner ▸ List.mem_cons_self)
  have hcontent : content line = (first :: (inner ++ last :: rest)).dropWhile Text.isBlank := by
    rw [content, h.text, List.dropWhile_append_of_pos h.indent_blank]
  -- a first character that is blank belongs to the indentation, and any other opens the content
  cases hfirst : Text.isBlank first with
  | true =>
      rw [hcontent, List.dropWhile_cons_of_pos hfirst, hinner, List.cons_append,
        List.dropWhile_cons_of_neg (by simp [hsolid])]
      simp
  | false =>
      rw [hcontent, List.dropWhile_cons_of_neg (by simp [hfirst])]
      simp

theorem not_hasToken_of_holdsNoToken (h : HoldsNoToken line) : ¬HasToken line := by
  rintro ⟨indent, first, inner, last, rest, hsplit⟩
  exact hsplit.last_ne (h last hsplit.last_mem_tail)

/-- The last blank of an indentation serves as the first character of a token. -/
theorem hasToken_of_indented (hindent : indentation line ≠ []) (h : ¬HoldsNoToken line) :
    HasToken line := by
  obtain ⟨other, hother, hne⟩ : ∃ c ∈ (content line).tail, c ≠ '"' := by
    simpa [HoldsNoToken] using h
  obtain ⟨c, tail, hcontent⟩ := List.exists_cons_of_ne_nil
    (show content line ≠ [] by rintro hnil; simp [hnil] at hother)
  rw [hcontent, List.tail_cons] at hother
  have hquotes : tail.dropWhile (· == '"') ≠ [] := by
    rw [Ne, List.dropWhile_eq_nil_iff]
    exact fun hall => hne (by simpa using hall other hother)
  obtain ⟨last, rest, hrest⟩ := List.exists_cons_of_ne_nil hquotes
  have hlast : last ≠ '"' := by
    have hhead := List.head_dropWhile_not (· == '"') hquotes
    simpa [hrest] using hhead
  have htail : tail = tail.takeWhile (· == '"') ++ last :: rest := by
    rw [← hrest, List.takeWhile_append_dropWhile]
  have hfront := List.dropLast_append_getLast hindent
  have hblank : Text.isBlank ((indentation line).getLast hindent) = true :=
    isBlank_of_mem_indentation (List.getLast_mem hindent)
  refine ⟨(indentation line).dropLast, (indentation line).getLast hindent,
    c :: tail.takeWhile (· == '"'), last, rest, ?_, ?_, ?_, by simp, ?_, hlast⟩
  · rw [List.cons_append, ← htail, ← hcontent, List.append_cons, hfront, indentation_append_content]
  · exact fun d hd => isBlank_of_mem_indentation (List.mem_of_mem_dropLast hd)
  · intro heq
    rw [heq] at hblank
    exact absurd hblank (by decide)
  · refine List.forall_mem_cons.mpr ⟨not_isBlank_of_content hcontent, fun d hd => ?_⟩
    obtain rfl : d = '"' := by simpa using List.mem_takeWhile_imp hd
    rfl

theorem not_hasToken_of_unindented (hindent : indentation line = []) (h : StartsQuoted line) :
    ¬HasToken line := by
  rintro ⟨indent, first, inner, last, rest, hsplit⟩
  have hline : line.toList = content line := by
    rw [← indentation_append_content line, hindent, List.nil_append]
  have hhead : line.toList.head? = some '"' := by rw [hline]; exact h
  rw [hsplit.text] at hhead
  cases indent with
  | nil => exact hsplit.first_ne (Option.some.inj hhead)
  | cons c indent =>
      obtain rfl : c = '"' := Option.some.inj hhead
      exact absurd (hsplit.indent_blank _ List.mem_cons_self) (by decide)

/-! ### The line with its token in quotes -/

theorem toList_quoted (b : Bareword) :
    b.quoted.toList =
      b.indent ++ '"' :: ((Text.trim (String.ofList b.token)).toList ++ '"' :: ' ' :: b.rest) := by
  simp [Bareword.quoted]

theorem quoted_parts (h : Bareword.ofLine line = some b) :
    indentation b.quoted = b.indent ∧
      content b.quoted =
        '"' :: ((Text.trim (String.ofList b.token)).toList ++ '"' :: ' ' :: b.rest) := by
  have hblank : ∀ c ∈ b.indent, Text.isBlank c = true := fun c hc =>
    isBlank_of_mem_indentation ((prefix_of_ofLine h).subset hc)
  have hquote : Text.isBlank '"' = false := by decide
  unfold indentation content
  rw [toList_quoted, List.takeWhile_append_of_pos hblank, List.dropWhile_append_of_pos hblank,
    List.takeWhile_cons_of_neg (by simp [hquote]), List.dropWhile_cons_of_neg (by simp [hquote]),
    List.append_nil]
  exact ⟨rfl, rfl⟩

theorem quoted_ne (h : Bareword.ofLine line = some b) : b.quoted ≠ line := by
  intro heq
  have hquotes := quotes_quoted h
  rw [heq] at hquotes
  omega

/-- Once the indentation has a blank to give, a line whose token is in quotes has a token again. -/
theorem hasToken_quoted_iff (h : Bareword.ofLine line = some b) :
    HasToken b.quoted ↔ b.indent ≠ [] := by
  obtain ⟨hindent, hcontent⟩ := quoted_parts h
  constructor
  · rintro htoken hnil
    refine not_hasToken_of_unindented (hindent.trans hnil) ?_ htoken
    rw [StartsQuoted, hcontent]
    rfl
  · intro hne
    refine hasToken_of_indented (hindent ▸ hne) fun hnone => ?_
    have hspace : ' ' ∈ (content b.quoted).tail := by simp [hcontent]
    exact absurd (hnone ' ' hspace) (by decide)

/-! ### Reports about a line -/

def fixed (p : Problem) (s : Script) : Script := (p.fix? s).getD s

/-- The line that a report of a missing separator is about, if the script has it and it holds a
token. -/
def IsDue (p : Problem) (s : Script) (i : Nat) (line : String) : Prop :=
  p.line = some (i + 1) ∧ s.lines[i]? = some line ∧ HasToken line

theorem get_toOption (s : Script) (i : Nat) : (s.get (i + 1)).toOption = s.lines[i]? := by
  by_cases hi : i < s.lines.length
  · have hcheck : s.checkLine (i + 1) = .ok () := if_neg (by simp only [Script.size]; omega)
    rw [Script.get, hcheck, List.getElem?_eq_getElem hi]
    change some (s.lines.getD i "") = _
    rw [List.getD_eq_getElem?_getD, List.getElem?_eq_getElem hi, Option.getD_some]
  · have hcheck : s.checkLine (i + 1) = .error (.lineOutOfRange (i + 1) s.size) :=
      if_pos (by simp only [Script.size]; omega)
    rw [Script.get, hcheck, List.getElem?_eq_none (by omega)]
    rfl

theorem fixed_of_ofLine (hkind : p.kind = .missingAttributeSeparator) {i : Nat}
    (hline : p.line = some (i + 1)) (hi : s.lines[i]? = some line)
    (hb : Bareword.ofLine line = some b) : fixed p s = ⟨s.lines.set i b.quoted⟩ := by
  have hlt : i < s.lines.length := (List.getElem?_eq_some_iff.mp hi).1
  have hcheck : s.checkLine (i + 1) = .ok () := if_neg (by simp only [Script.size]; omega)
  have hset : (s.set (i + 1) b.quoted).toOption = some ⟨s.lines.set i b.quoted⟩ := by
    rw [Script.set, hcheck]
    rfl
  have hfix : p.fix? s = p.quoteToken s := by simp only [Problem.fix?, hkind]
  have htoken : p.quoteToken s = (s.set (i + 1) b.quoted).toOption := by
    simp [Problem.quoteToken, hline, get_toOption, hi, hb]
  rw [fixed, hfix, htoken, hset, Option.getD_some]

theorem fixed_of_not_due (hkind : p.kind = .missingAttributeSeparator)
    (h : ∀ i line, ¬IsDue p s i line) : fixed p s = s := by
  have hfix : p.fix? s = p.quoteToken s := by simp only [Problem.fix?, hkind]
  rw [fixed, hfix]
  cases htoken : p.quoteToken s with
  | none => rfl
  | some t =>
      obtain ⟨line, hline, h'⟩ := Option.bind_eq_some_iff.mp htoken
      obtain ⟨text, htext, h'⟩ := Option.bind_eq_some_iff.mp h'
      obtain ⟨b, hb, -⟩ := Option.bind_eq_some_iff.mp h'
      obtain ⟨hpos, hi⟩ := get_eq_some htext
      obtain ⟨i, rfl⟩ := Nat.exists_eq_succ_of_ne_zero (Nat.one_le_iff_ne_zero.mp hpos)
      exact absurd ⟨hline, hi, ofLine_isSome_iff.mp (by simp [hb])⟩ (h i text)

/-- What quoting a token once means: lines that start with a quote stay, every line keeps its
indentation, and another report about the same line changes nothing. -/
structure QuotesOnce (p : Problem) (s : Script) : Prop where
  quoted_stays : ∀ (i : Nat) (line : String), s.lines[i]? = some line → StartsQuoted line →
    (fixed p s).lines[i]? = some line
  indentation_stays : ∀ (i : Nat) (line line' : String), s.lines[i]? = some line →
    (fixed p s).lines[i]? = some line' → indentation line' = indentation line
  once : ∀ q : Problem, q.kind = .missingAttributeSeparator → q.line = p.line →
    fixed q (fixed p s) = fixed p s

theorem quotesOnce_of_not_due (hkind : p.kind = .missingAttributeSeparator)
    (h : ∀ i line, ¬IsDue p s i line) : QuotesOnce p s := by
  have hsame := fixed_of_not_due hkind h
  constructor
  · intro i line hi _
    rw [hsame, hi]
  · intro i line line' hi hi'
    rw [hsame, hi] at hi'
    rw [Option.some.inj hi']
  · intro q hq hline
    rw [hsame]
    refine fixed_of_not_due hq fun i line hdue => h i line ?_
    rw [IsDue, ← hline]
    exact hdue

theorem quotesOnce_of_unindented (hkind : p.kind = .missingAttributeSeparator) {i : Nat}
    (hdue : IsDue p s i line) (hindent : indentation line = []) : QuotesOnce p s := by
  obtain ⟨hline, hi, htoken⟩ := hdue
  obtain ⟨b, hb⟩ := Option.isSome_iff_exists.mp (ofLine_isSome_iff.mpr htoken)
  have hlt : i < s.lines.length := (List.getElem?_eq_some_iff.mp hi).1
  have hfixed := fixed_of_ofLine hkind hline hi hb
  have hnil : b.indent = [] := List.prefix_nil.mp (hindent ▸ prefix_of_ofLine hb)
  have hnone : ¬HasToken b.quoted := fun h => (hasToken_quoted_iff hb).mp h hnil
  have hother {j : Nat} (hj : j ≠ i) : (fixed p s).lines[j]? = s.lines[j]? := by
    rw [hfixed]
    exact List.getElem?_set_ne hj.symm
  have hself : (fixed p s).lines[i]? = some b.quoted := by
    rw [hfixed]
    exact List.getElem?_set_self hlt
  constructor
  · intro j text hj hquoted
    by_cases hji : j = i
    · subst hji
      obtain rfl : line = text := Option.some.inj (hi.symm.trans hj)
      exact absurd htoken (not_hasToken_of_unindented hindent hquoted)
    · rw [hother hji, hj]
  · intro j text text' hj hj'
    by_cases hji : j = i
    · subst hji
      obtain rfl : line = text := Option.some.inj (hi.symm.trans hj)
      obtain rfl : b.quoted = text' := Option.some.inj (hself.symm.trans hj')
      rw [(quoted_parts hb).1, hnil, hindent]
    · rw [hother hji, hj] at hj'
      rw [Option.some.inj hj']
  · intro q hq hqline
    refine fixed_of_not_due hq fun j text hdue => ?_
    obtain ⟨hj, htext, hhas⟩ := hdue
    rw [hqline, hline] at hj
    obtain rfl : i = j := by simpa using hj
    obtain rfl : b.quoted = text := Option.some.inj (hself.symm.trans htext)
    exact hnone hhas

theorem not_quotesOnce_of_indented (hkind : p.kind = .missingAttributeSeparator) {i : Nat}
    (hdue : IsDue p s i line) (hindent : indentation line ≠ []) : ¬QuotesOnce p s := by
  intro h
  -- the indentation that the first report keeps is what the second one takes a blank from
  obtain ⟨hline, hi, htoken⟩ := hdue
  obtain ⟨b, hb⟩ := Option.isSome_iff_exists.mp (ofLine_isSome_iff.mpr htoken)
  have hlt : i < s.lines.length := (List.getElem?_eq_some_iff.mp hi).1
  have hself : (fixed p s).lines[i]? = some b.quoted := by
    rw [fixed_of_ofLine hkind hline hi hb]
    exact List.getElem?_set_self hlt
  have hkept := h.indentation_stays i line b.quoted hi hself
  rw [(quoted_parts hb).1] at hkept
  have hagain := (hasToken_quoted_iff hb).mpr (hkept ▸ hindent)
  obtain ⟨b', hb'⟩ := Option.isSome_iff_exists.mp (ofLine_isSome_iff.mpr hagain)
  have hlt' : i < (fixed p s).lines.length := (List.getElem?_eq_some_iff.mp hself).1
  have honce := h.once p hkind rfl
  rw [fixed_of_ofLine hkind hline hself hb'] at honce
  have htext := congrArg (fun t => t.lines[i]?) honce
  rw [hself] at htext
  change ((fixed p s).lines.set i b'.quoted)[i]? = _ at htext
  rw [List.getElem?_set_self hlt'] at htext
  exact quoted_ne hb' (Option.some.inj htext)

/-- A report of a missing separator puts a token in quotes just once exactly when the line that it is
about is not indented, or holds nothing but quotes behind its first character that is not blank. -/
theorem quotesOnce_iff (hkind : p.kind = .missingAttributeSeparator) (s : Script) :
    QuotesOnce p s ↔ ∀ i line, p.line = some (i + 1) → s.lines[i]? = some line →
      indentation line = [] ∨ HoldsNoToken line := by
  constructor
  · intro h i line hline hi
    by_contra hneither
    obtain ⟨hindent, htoken⟩ := not_or.mp hneither
    exact not_quotesOnce_of_indented hkind ⟨hline, hi, hasToken_of_indented hindent htoken⟩ hindent h
  · intro h
    by_cases hdue : ∃ i line, IsDue p s i line
    · obtain ⟨i, line, hdue⟩ := hdue
      rcases h i line hdue.1 hdue.2.1 with hindent | hnone
      · exact quotesOnce_of_unindented hkind hdue hindent
      · exact absurd hdue.2.2 (not_hasToken_of_holdsNoToken hnone)
    · exact quotesOnce_of_not_due hkind fun i line hline => hdue ⟨i, line, hline⟩

def lacksSeparator : Problem :=
  (Problem.error "Missing attribute separator" "").inLines "main.tf" 1 1

theorem quotesOnce_policy :
    lacksSeparator.kind = .missingAttributeSeparator ∧
      QuotesOnce lacksSeparator ⟨["arn:aws:iam::123:root = 1"]⟩ ∧
      fixed lacksSeparator ⟨["arn:aws:iam::123:root = 1"]⟩ =
        ⟨["\"arn:aws:iam::123:root\" = 1"]⟩ := by
  have hkind : lacksSeparator.kind = .missingAttributeSeparator := by decide
  refine ⟨hkind, (quotesOnce_iff hkind _).mpr fun i line hline hi => .inl ?_, by decide⟩
  obtain rfl : i = 0 := by
    have hone : some 1 = some (i + 1) := hline
    simpa using hone.symm
  obtain rfl : "arn:aws:iam::123:root = 1" = line := Option.some.inj hi
  decide

/-- A line whose key is in quotes already gets two more, an indentation is cut short in front of a
single character, and the second report about a line puts quotes around the first ones. -/
theorem indented_token_quoted_again :
    ¬QuotesOnce lacksSeparator ⟨["  ab = 1"]⟩ ∧
      fixed lacksSeparator ⟨["  \"a\" = 1"]⟩ = ⟨[" \"\"a\"\" = 1"]⟩ ∧
      fixed lacksSeparator ⟨["  a = 1"]⟩ = ⟨[" \"a\" = 1"]⟩ ∧
      fixed lacksSeparator ⟨["  ab = 1"]⟩ = ⟨["  \"ab\" = 1"]⟩ ∧
      fixed lacksSeparator ⟨["  \"ab\" = 1"]⟩ = ⟨[" \"\"ab\"\" = 1"]⟩ := by
  have hfirst : fixed lacksSeparator ⟨["  ab = 1"]⟩ = ⟨["  \"ab\" = 1"]⟩ := by decide
  have hsecond : fixed lacksSeparator ⟨["  \"ab\" = 1"]⟩ = ⟨[" \"\"ab\"\" = 1"]⟩ := by decide
  refine ⟨fun h => ?_, by decide, by decide, hfirst, hsecond⟩
  have honce := h.once lacksSeparator (by decide) rfl
  rw [hfirst, hsecond] at honce
  exact absurd honce (by decide)

end StackExport.Proofs.BarewordQuoting
