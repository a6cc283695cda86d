import StackExport.Path
import Mathlib.Data.List.Forall2
/-!
The texts that a pattern matches.

A search goes back to the last star only. That is enough: between two stars a pattern is a literal
text, and whatever an earlier star could cover to let a later one be passed further on, the later
star can cover as well.
-/
namespace StackExport.Proofs.PatternLanguage

open StackExport
open StackExport.Path

variable {c d : Char} {pattern text matched rest : List Char} {s : Search}

/-! ### Instances of a pattern -/

/-- A text that splits into one piece for each character of a pattern: any piece for a star, the
character itself for every other. -/
def IsInstance (pattern text : List Char) : Prop :=
  ∃ pieces : List (List Char), List.Forall₂ (fun c piece => c = '*' ∨ piece = [c]) pattern pieces ∧
    pieces.flatten = text

theorem isInstance_nil_iff : IsInstance [] text ↔ text = [] := by
  simp [IsInstance, eq_comm]

theorem isInstance_cons_iff (hc : c ≠ '*') :
    IsInstance (c :: pattern) text ↔ ∃ rest, text = c :: rest ∧ IsInstance pattern rest := by
  constructor
  · rintro ⟨_, hpieces, rfl⟩
    obtain ⟨piece, pieces, hpiece, hrest, rfl⟩ := List.forall₂_cons_left_iff.1 hpieces
    obtain rfl := hpiece.resolve_left hc
    exact ⟨pieces.flatten, rfl, pieces, hrest, rfl⟩
  · rintro ⟨_, rfl, pieces, hpieces, rfl⟩
    exact ⟨[c] :: pieces, .cons (.inr rfl) hpieces, rfl⟩

theorem isInstance_star_iff :
    IsInstance ('*' :: pattern) text ↔
      ∃ run rest, text = run ++ rest ∧ IsInstance pattern rest := by
  constructor
  · rintro ⟨_, hpieces, rfl⟩
    obtain ⟨run, pieces, -, hrest, rfl⟩ := List.forall₂_cons_left_iff.1 hpieces
    exact ⟨run, pieces.flatten, rfl, pieces, hrest, rfl⟩
  · rintro ⟨run, _, rfl, pieces, hpieces, rfl⟩
    exact ⟨run :: pieces, .cons (.inl rfl) hpieces, rfl⟩

theorem IsInstance.star (h : IsInstance pattern text) : IsInstance ('*' :: pattern) text :=
  isInstance_star_iff.2 ⟨[], text, rfl, h⟩

theorem IsInstance.star_append (h : IsInstance ('*' :: pattern) text) (run : List Char) :
    IsInstance ('*' :: pattern) (run ++ text) := by
  obtain ⟨front, rest, rfl, hrest⟩ := isInstance_star_iff.1 h
  exact isInstance_star_iff.2 ⟨run ++ front, rest, by rw [List.append_assoc], hrest⟩

theorem isInstance_star_cons_iff :
    IsInstance ('*' :: pattern) (d :: text) ↔
      IsInstance pattern (d :: text) ∨ IsInstance ('*' :: pattern) text := by
  constructor
  · intro h
    obtain ⟨run, rest, htext, hrest⟩ := isInstance_star_iff.1 h
    cases run with
    | nil =>
        obtain rfl : d :: text = rest := htext
        exact .inl hrest
    | cons _ run =>
        obtain rfl := (List.cons.inj htext).2
        exact .inr (isInstance_star_iff.2 ⟨run, rest, rfl, hrest⟩)
  · rintro (h | h)
    · exact h.star
    · exact h.star_append [d]

theorem isInstance_nil_right_iff : IsInstance pattern [] ↔ pattern.all (· == '*') = true := by
  induction pattern with
  | nil => simp [isInstance_nil_iff]
  | cons c pattern ih =>
      by_cases hc : c = '*'
      · subst hc
        rw [List.all_cons, beq_self_eq_true, Bool.true_and, ← ih, isInstance_star_iff]
        constructor
        · rintro ⟨run, rest, htext, hrest⟩
          obtain ⟨-, rfl⟩ := List.append_eq_nil_iff.1 htext.symm
          exact hrest
        · intro h
          exact ⟨[], [], rfl, h⟩
      · simp [isInstance_cons_iff hc, hc]

/-- A literal beginning of a pattern matches itself only. -/
theorem isInstance_literal_append_iff (hstar : '*' ∉ matched) :
    IsInstance (matched ++ pattern) text ↔
      ∃ rest, text = matched ++ rest ∧ IsInstance pattern rest := by
  induction matched generalizing text with
  | nil => simp
  | cons c matched ih =>
      obtain ⟨hc, hmatched⟩ := not_or.1 (mt List.mem_cons.2 hstar)
      rw [List.cons_append, isInstance_cons_iff (Ne.symm hc)]
      constructor
      · rintro ⟨_, rfl, hmatch⟩
        obtain ⟨rest, rfl, hrest⟩ := (ih hmatched).1 hmatch
        exact ⟨rest, rfl, hrest⟩
      · rintro ⟨rest, rfl, hrest⟩
        exact ⟨matched ++ rest, rfl, (ih hmatched).2 ⟨rest, rfl, hrest⟩⟩

theorem isInstance_literal_append_append_iff (hstar : '*' ∉ matched) :
    IsInstance (matched ++ pattern) (matched ++ text) ↔ IsInstance pattern text := by
  rw [isInstance_literal_append_iff hstar]
  constructor
  · rintro ⟨rest, hrest, h⟩
    rwa [List.append_cancel_left hrest]
  · intro h
    exact ⟨text, rfl, h⟩

/-! ### One turn of the search -/

/-- What a search has passed since its last star is one literal text, in pattern and text. -/
inductive Linked : Search → Prop where
  | start (pattern text : List Char) : Linked ⟨pattern, text, none⟩
  | star {matched : List Char} (hmatched : '*' ∉ matched) (pattern text : List Char) :
      Linked ⟨pattern, text, some (matched ++ pattern, matched ++ text)⟩

/-- There is a match that the search can still find: one of what is left, or, behind a star, one in
which that star covers as much as it does so far or more. -/
def CanMatch (s : Search) : Prop :=
  match s.star with
  | some (behind, left) => IsInstance ('*' :: behind) left
  | none => IsInstance s.pattern s.text

/-- The search goes on from `s` as `t`, with the same prospects and fewer turns left. -/
structure GoesOn (s t : Search) : Prop where
  linked : Linked t
  canMatch_iff : CanMatch t ↔ CanMatch s
  turnsLeft_lt : t.turnsLeft < s.turnsLeft

/-- The end of a turn is an answer that is right, or a search that goes on. -/
def IsSound (s : Search) : Bool ⊕ Search → Prop
  | .inl answer => answer = true ↔ CanMatch s
  | .inr t => GoesOn s t

theorem linked_star (pattern text : List Char) : Linked ⟨pattern, text, some (pattern, text)⟩ :=
  .star List.not_mem_nil pattern text

theorem isSound_end {star : Option (List Char × List Char)} (h : Linked ⟨pattern, [], star⟩) :
    IsSound ⟨pattern, [], star⟩ (.inl (pattern.all (· == '*'))) := by
  change _ ↔ _
  rw [← isInstance_nil_right_iff]
  cases h with
  | start => exact Iff.rfl
  | @star matched hmatched =>
    change _ ↔ IsInstance ('*' :: (matched ++ pattern)) (matched ++ [])
    constructor
    · intro hend
      exact ((isInstance_literal_append_append_iff hmatched).2 hend).star
    · intro hmatch
      obtain ⟨run, _, htext, hrest⟩ := isInstance_star_iff.1 hmatch
      obtain ⟨rest, rfl, hend⟩ := (isInstance_literal_append_iff hmatched).1 hrest
      have hlength := congrArg List.length htext
      simp only [List.length_append, List.length_nil] at hlength
      obtain rfl : rest = [] := List.length_eq_zero_iff.1 (by omega)
      exact hend

/-- Whatever an earlier star makes possible, the star passed now makes possible. -/
theorem goesOn_star {star : Option (List Char × List Char)}
    (h : Linked ⟨'*' :: pattern, text, star⟩) :
    GoesOn ⟨'*' :: pattern, text, star⟩ ⟨pattern, text, some (pattern, text)⟩ := by
  cases h with
  | start =>
    refine ⟨linked_star pattern text, Iff.rfl, ?_⟩
    have hle : text.length * (pattern.length + 1) ≤ text.length * (pattern.length + 1 + 1) :=
      Nat.mul_le_mul_left _ (Nat.le_succ _)
    simp only [Search.turnsLeft, List.length_cons]
    omega
  | @star matched hmatched =>
    refine ⟨linked_star pattern text, ?_, ?_⟩
    · change IsInstance ('*' :: pattern) text ↔
        IsInstance ('*' :: (matched ++ '*' :: pattern)) (matched ++ text)
      constructor
      · intro hmatch
        exact ((isInstance_literal_append_append_iff hmatched).2 hmatch).star
      · intro hmatch
        obtain ⟨run, _, htext, hrest⟩ := isInstance_star_iff.1 hmatch
        obtain ⟨rest, rfl, hlater⟩ := (isInstance_literal_append_iff hmatched).1 hrest
        -- the later star is not passed further in front than it is now
        have hsuffix : rest <:+ text := by
          have hin : rest <:+ matched ++ text :=
            ⟨run ++ matched, by rw [List.append_assoc, htext]⟩
          have hlength := congrArg List.length htext
          simp only [List.length_append] at hlength
          exact List.suffix_of_suffix_length_le hin ⟨matched, rfl⟩ (by omega)
        obtain ⟨front, rfl⟩ := hsuffix
        exact hlater.star_append front
    · have hle : text.length * (pattern.length + 1) ≤
          (matched ++ text).length * ((matched ++ '*' :: pattern).length + 1) := by
        apply Nat.mul_le_mul
        · simp
        · simp only [List.length_append, List.length_cons]
          omega
      simp only [Search.turnsLeft, List.length_cons]
      omega

theorem goesOn_literal {star : Option (List Char × List Char)} (hc : c ≠ '*')
    (h : Linked ⟨c :: pattern, c :: text, star⟩) :
    GoesOn ⟨c :: pattern, c :: text, star⟩ ⟨pattern, text, star⟩ := by
  cases h with
  | start =>
    refine ⟨.start pattern text, ?_, ?_⟩
    · change IsInstance pattern text ↔ IsInstance (c :: pattern) (c :: text)
      rw [isInstance_cons_iff hc]
      simp
    · have hle : text.length * (pattern.length + 1) ≤
          (text.length + 1) * (pattern.length + 1 + 1) :=
        Nat.mul_le_mul (Nat.le_succ _) (Nat.le_succ _)
      simp only [Search.turnsLeft, List.length_cons]
      omega
  | @star matched hmatched =>
    refine ⟨?_, Iff.rfl, ?_⟩
    · have hmore : '*' ∉ matched ++ [c] := by simp [hmatched, Ne.symm hc]
      simpa using Linked.star hmore pattern text
    · simp only [Search.turnsLeft, List.length_cons]
      omega

/-- Where what is left does not match, the last star has to cover more. -/
theorem isSound_retreat (h : Linked s) (htext : s.text ≠ [])
    (hno : ¬ IsInstance s.pattern s.text) : IsSound s s.retreat := by
  cases h with
  | start pattern text =>
    change false = true ↔ IsInstance pattern text
    simpa using hno
  | @star matched hmatched pattern text =>
    obtain ⟨d, left, hleft⟩ :=
      List.exists_cons_of_ne_nil (List.append_ne_nil_of_right_ne_nil matched htext)
    change IsSound ⟨pattern, text, some (matched ++ pattern, matched ++ text)⟩
      (.inr ⟨matched ++ pattern, (matched ++ text).tail,
        some (matched ++ pattern, (matched ++ text).tail)⟩)
    have hstay : ¬ IsInstance (matched ++ pattern) (d :: left) := by
      rw [← hleft, isInstance_literal_append_append_iff hmatched]
      exact hno
    rw [hleft, List.tail_cons]
    refine ⟨linked_star _ left, ?_, ?_⟩
    · change IsInstance ('*' :: (matched ++ pattern)) left ↔
        IsInstance ('*' :: (matched ++ pattern)) (d :: left)
      rw [isInstance_star_cons_iff]
      exact (or_iff_right hstay).symm
    · simp only [Search.turnsLeft, List.length_cons, Nat.succ_mul]
      omega

theorem isSound_turn (h : Linked s) : IsSound s s.turn := by
  obtain ⟨pattern, text, star⟩ := s
  cases text with
  | nil =>
      have hturn : Search.turn ⟨pattern, [], star⟩ = .inl (pattern.all (· == '*')) := by
        cases pattern <;> rfl
      rw [hturn]
      exact isSound_end h
  | cons d text =>
      cases pattern with
      | nil =>
          refine isSound_retreat h (List.cons_ne_nil d text) fun hmatch => ?_
          exact List.cons_ne_nil d text (isInstance_nil_iff.1 hmatch)
      | cons c pattern =>
          by_cases hc : c = '*'
          · subst hc
            exact goesOn_star h
          · have hturn : Search.turn ⟨c :: pattern, d :: text, star⟩ =
                if c = d then .inr ⟨pattern, text, star⟩
                else Search.retreat ⟨c :: pattern, d :: text, star⟩ := by
              simp [Search.turn]
            rw [hturn]
            split
            · rename_i hcd
              subst hcd
              exact goesOn_literal hc h
            · rename_i hcd
              refine isSound_retreat h (List.cons_ne_nil d text) fun hmatch => hcd ?_
              obtain ⟨rest, htext, -⟩ := (isInstance_cons_iff hc).1 hmatch
              exact (List.cons.inj htext).1.symm

/-! ### Whole searches -/

/-- The search ends with an answer, whatever number of turns that takes. -/
inductive Ends : Search → Bool → Prop where
  | now {s : Search} {answer : Bool} (h : s.turn = .inl answer) : Ends s answer
  | later {s t : Search} {answer : Bool} (h : s.turn = .inr t) (hrest : Ends t answer) :
      Ends s answer

theorem Ends.unique {a b : Bool} (ha : Ends s a) (hb : Ends s b) : a = b := by
  induction ha with
  | now h =>
      cases hb with
      | now h' => exact Sum.inl.inj (h.symm.trans h')
      | later h' _ => cases h.symm.trans h'
  | later h _ ih =>
      cases hb with
      | now h' => cases h.symm.trans h'
      | later h' hrest =>
          obtain rfl := Sum.inr.inj (h.symm.trans h')
          exact ih hrest

theorem exists_answer {turns : Nat} (h : Linked s) (hturns : s.turnsLeft < turns) :
    ∃ answer, s.answer? turns = some answer ∧ Ends s answer ∧ (answer = true ↔ CanMatch s) := by
  induction turns generalizing s with
  | zero => omega
  | succ turns ih =>
      have hsound := isSound_turn h
      cases hturn : s.turn with
      | inl answer =>
          rw [hturn] at hsound
          exact ⟨answer, by simp only [Search.answer?, hturn], .now hturn, hsound⟩
      | inr t =>
          rw [hturn] at hsound
          obtain ⟨hlinked, hcan, hlt⟩ := hsound
          obtain ⟨answer, hanswer, hends, hiff⟩ := ih hlinked (by omega)
          exact ⟨answer, by simp only [Search.answer?, hturn, hanswer], .later hturn hends,
            hiff.trans hcan⟩

theorem exists_globMatch_eq (pattern text : List Char) :
    ∃ answer, globMatch pattern text = answer ∧ Ends ⟨pattern, text, none⟩ answer ∧
      (answer = true ↔ IsInstance pattern text) := by
  obtain ⟨answer, hanswer, hends, hiff⟩ :=
    exists_answer (.start pattern text) (Nat.lt_succ_self _)
  exact ⟨answer, by rw [globMatch, hanswer, Option.getD_some], hends, hiff⟩

theorem ends_iff {answer : Bool} :
    Ends ⟨pattern, text, none⟩ answer ↔ globMatch pattern text = answer := by
  obtain ⟨found, rfl, hends, -⟩ := exists_globMatch_eq pattern text
  constructor
  · intro h
    exact hends.unique h
  · rintro rfl
    exact hends

theorem globMatch_eq_true_iff : globMatch pattern text = true ↔ IsInstance pattern text := by
  obtain ⟨found, rfl, -, hiff⟩ := exists_globMatch_eq pattern text
  exact hiff

theorem isLike_iff {path : Path} {written : String} :
    path.isLike written = true ↔
      (parse written).segments.length = path.segments.length ∧
        ∀ pair ∈ (parse written).segments.zip path.segments,
          IsInstance pair.1.toList pair.2.toList := by
  rw [isLike, isLikeSegments, Bool.and_eq_true, beq_iff_eq, List.all_eq_true]
  simp only [globMatch_eq_true_iff]

/-- Every search ends, and with one answer; it is true exactly when the text splits into one piece
for each character of the pattern, any run of characters for a star and the character itself for
every other. A path is like a written pattern exactly when that has as many segments and each is
such an instance, so no star covers more than a part of one segment. -/
theorem pattern_language :
    (∀ pattern text : List Char,
      (∀ answer, Ends ⟨pattern, text, none⟩ answer ↔ globMatch pattern text = answer) ∧
      (globMatch pattern text = true ↔ IsInstance pattern text)) ∧
    ∀ (path : Path) (written : String),
      path.isLike written = true ↔
        (parse written).segments.length = path.segments.length ∧
          ∀ pair ∈ (parse written).segments.zip path.segments,
            IsInstance pair.1.toList pair.2.toList := by
  constructor
  · intro pattern text
    constructor
    · intro answer
      exact ends_iff
    · exact globMatch_eq_true_iff
  · intro path written
    exact isLike_iff

end StackExport.Proofs.PatternLanguage
