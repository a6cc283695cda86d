import Mathlib
import StackExport.Proofs.RepairSchedule
import StackExport.Repair.Loop
/-!
One round of fixes changes only what was reported.

The fixes run from the bottom up, so a number in a report still names its line when its fix is due:
every line above what is already removed is still in its place.
-/
namespace StackExport.Proofs.RepairRound

open StackExport
open StackExport.Proofs.RepairSchedule

/-! ### The lines that are left -/

/-- True for the number of a line that no span holds. -/
def isOutside (spans : List Span) (number : Nat) : Bool := !spans.any (·.contains number)

def outside (spans : List Span) (lines : List String) : List (String × Nat) :=
  (lines.zipIdx 1).filter fun line => isOutside spans line.2

theorem isOutside_iff {spans : List Span} {number : Nat} :
    isOutside spans number = true ↔ ∀ s ∈ spans, number < s.first ∨ s.last < number := by
  simp [isOutside, Span.contains, imp_iff_not_or]

theorem outside_nil (lines : List String) : outside [] lines = lines.zipIdx 1 := by
  simp [outside, isOutside]

theorem outside_congr {a b : List Span} (h : ∀ s, s ∈ a ↔ s ∈ b) (lines : List String) :
    outside a lines = outside b lines := by
  unfold outside
  congr 1
  funext line
  rw [Bool.eq_iff_iff, isOutside_iff, isOutside_iff]
  simp only [h]

theorem number_le_of_mem_take {lines : List String} {m : Nat} {line : String × Nat}
    (h : line ∈ (lines.zipIdx 1).take m) : 1 ≤ line.2 ∧ line.2 ≤ m := by
  obtain ⟨i, hi, rfl⟩ := List.mem_iff_getElem.mp h
  have hi : i < m := by simp at hi; omega
  rw [List.getElem_take, List.getElem_zipIdx]
  simp
  omega

theorem lt_number_of_mem_drop {lines : List String} {m : Nat} {line : String × Nat}
    (h : line ∈ (lines.zipIdx 1).drop m) : m < line.2 := by
  obtain ⟨i, hi, rfl⟩ := List.mem_iff_getElem.mp h
  rw [List.getElem_drop, List.getElem_zipIdx]
  simp
  omega

theorem length_outside_le (spans : List Span) (lines : List String) :
    (outside spans lines).length ≤ lines.length := by
  unfold outside
  simpa using List.length_filter_le (fun line => isOutside spans line.2) (lines.zipIdx 1)

theorem outside_eq_append {spans : List Span} {m : Nat} (h : ∀ s ∈ spans, m < s.first)
    (lines : List String) :
    outside spans lines =
      (lines.zipIdx 1).take m ++
        ((lines.zipIdx 1).drop m).filter fun line => isOutside spans line.2 := by
  have htake : ((lines.zipIdx 1).take m).filter (fun line => isOutside spans line.2) =
      (lines.zipIdx 1).take m := by
    refine List.filter_eq_self.mpr fun line hline => isOutside_iff.mpr fun s hs => Or.inl ?_
    have := number_le_of_mem_take hline
    have := h s hs
    omega
  unfold outside
  conv_lhs => rw [← List.take_append_drop m (lines.zipIdx 1)]
  rw [List.filter_append, htake]

theorem number_of_getElem?_outside {spans : List Span} {m : Nat} (h : ∀ s ∈ spans, m < s.first)
    {lines : List String} (hm : 1 ≤ m) {line : String × Nat}
    (hline : (outside spans lines)[m - 1]? = some line) : line.2 = m := by
  by_cases hsize : m ≤ lines.length
  · rw [outside_eq_append h, List.getElem?_append_left (by simp; omega),
      List.getElem?_take_of_lt (by omega), List.getElem?_zipIdx] at hline
    obtain ⟨text, -, rfl⟩ := Option.map_eq_some_iff.mp hline
    omega
  · have hlength := length_outside_le spans lines
    rw [List.getElem?_eq_none (by omega)] at hline
    cases hline

theorem filter_take_eq {s : Span} (hfirst : 1 ≤ s.first) (hle : s.first ≤ s.last)
    (lines : List String) :
    ((lines.zipIdx 1).take s.last).filter (fun line => isOutside [s] line.2) =
      (lines.zipIdx 1).take (s.first - 1) := by
  have habove : ((lines.zipIdx 1).take (s.first - 1)).filter (fun line => isOutside [s] line.2) =
      (lines.zipIdx 1).take (s.first - 1) := by
    refine List.filter_eq_self.mpr fun line hline => isOutside_iff.mpr fun t ht => ?_
    have := number_le_of_mem_take hline
    rw [List.mem_singleton.mp ht]
    omega
  have hinside : (((lines.zipIdx 1).take s.last).drop (s.first - 1)).filter
      (fun line => isOutside [s] line.2) = [] := by
    refine List.filter_eq_nil_iff.mpr fun line hline hout => ?_
    have hupper := number_le_of_mem_take (List.mem_of_mem_drop hline)
    rw [List.drop_take] at hline
    have hlower := lt_number_of_mem_drop (List.mem_of_mem_take hline)
    have := isOutside_iff.mp hout s List.mem_cons_self
    omega
  rw [← List.take_append_drop (s.first - 1) ((lines.zipIdx 1).take s.last), List.filter_append,
    hinside, List.take_take, Nat.min_eq_left (by omega), habove, List.append_nil]

/-- Cutting a span that lies above all others takes away exactly its lines. -/
theorem outside_cons {spans : List Span} {s : Span} {lines : List String} (hfirst : 1 ≤ s.first)
    (hle : s.first ≤ s.last) (hlast : s.last ≤ lines.length) (h : ∀ t ∈ spans, s.last < t.first) :
    outside (s :: spans) lines =
      (outside spans lines).take (s.first - 1) ++ (outside spans lines).drop s.last := by
  have hsplit : outside (s :: spans) lines =
      (outside spans lines).filter fun line => isOutside [s] line.2 := by
    simp [outside, isOutside, List.filter_filter]
  have hbelow : (((lines.zipIdx 1).drop s.last).filter fun line => isOutside spans line.2).filter
      (fun line => isOutside [s] line.2) =
        ((lines.zipIdx 1).drop s.last).filter fun line => isOutside spans line.2 := by
    refine List.filter_eq_self.mpr fun line hline => isOutside_iff.mpr fun t ht => ?_
    have := lt_number_of_mem_drop (List.mem_of_mem_filter hline)
    rw [List.mem_singleton.mp ht]
    exact Or.inr this
  have hsize : ((lines.zipIdx 1).take s.last).length = s.last := by simp; omega
  rw [hsplit, outside_eq_append h, List.filter_append, filter_take_eq hfirst hle, hbelow,
    List.drop_left' hsize, List.take_append_of_le_length (by omega), List.take_take,
    Nat.min_eq_left (by omega)]

theorem le_length_outside {spans : List Span} {m : Nat} (h : ∀ s ∈ spans, m < s.first)
    {lines : List String} (hm : m ≤ lines.length) : m ≤ (outside spans lines).length := by
  rw [outside_eq_append h, List.length_append]
  simp
  omega

/-! ### The fixes -/

/-- True when a report says that the line with a number lacks a separator. -/
def LacksSeparator (problems : List Problem) (number : Nat) : Prop :=
  ∃ p ∈ problems, p.kind = .missingAttributeSeparator ∧ p.line = some number

/-- What a line may become in a round. -/
def Follows (problems : List Problem) (original : String × Nat) (line : String) : Prop :=
  line = original.1 ∨ LacksSeparator problems original.2

theorem forall₂_set {α β : Type} {R : α → β → Prop} {l : List α} {m : List β} {i : Nat} {b : β}
    (h : List.Forall₂ R l m) (hb : ∀ a, l[i]? = some a → R a b) : List.Forall₂ R l (m.set i b) := by
  induction h generalizing i with
  | nil => exact List.Forall₂.nil
  | cons hab hrest ih =>
      cases i with
      | zero => exact List.Forall₂.cons (hb _ rfl) hrest
      | succ i => exact List.Forall₂.cons hab (ih hb)

theorem set_ok {s t : Script} {line : Nat} {text : String} (h : s.set line text = .ok t) :
    1 ≤ line ∧ t.lines = s.lines.set (line - 1) text := by
  by_cases hline : line = 0 ∨ s.size < line
  · have hcheck : s.checkLine line = .error (.lineOutOfRange line s.size) := if_pos hline
    rw [Script.set, hcheck] at h
    cases h
  · have hcheck : s.checkLine line = .ok () := if_neg hline
    rw [Script.set, hcheck] at h
    cases h
    exact ⟨by omega, rfl⟩

theorem removeLines_ok {s : Script} {first last : Nat} (hfirst : 1 ≤ first) (hle : first ≤ last)
    (hlast : last ≤ s.size) :
    s.removeLines first last = .ok ⟨s.lines.take (first - 1) ++ s.lines.drop last⟩ := by
  have hf : s.checkLine first = .ok () := if_neg (by omega)
  have hl : s.checkLine last = .ok () := if_neg (by omega)
  simp only [Script.removeLines, if_neg (Nat.not_lt.mpr hle), hf, hl]
  rfl

theorem removeLines_reversed {s : Script} {first last : Nat} (h : last < first) :
    s.removeLines first last = .error (.invalidRange first last) := by
  simp only [Script.removeLines, if_pos h]
  rfl

theorem removal?_of_kind {p : Problem}
    (hkind : p.kind = .unconfigurableAttribute ∨ p.kind = .invalidOrUnknownKey) :
    p.removal? = p.range.bind fun r =>
      if r.first.line ≤ r.last.line then some ⟨r.first.line, r.last.line⟩ else none := by
  unfold Problem.removal?
  rcases hkind with hkind | hkind <;> rw [hkind] <;> cases p.range <;> rfl

theorem kind_of_removal? {p : Problem} {s : Span} (h : p.removal? = some s) :
    p.kind = .unconfigurableAttribute ∨ p.kind = .invalidOrUnknownKey := by
  unfold Problem.removal? at h
  split at h
  · next hkind => exact Or.inl hkind
  · next hkind => exact Or.inr hkind
  · cases h

theorem fix?_of_removal? {p : Problem} {k : Span} {t : Script} (hk : p.removal? = some k)
    (hfirst : 1 ≤ k.first) (hlast : k.last ≤ t.size) :
    p.fix? t = some ⟨t.lines.take (k.first - 1) ++ t.lines.drop k.last⟩ := by
  have hle := first_le_last hk
  have hfix : p.fix? t = p.removeReported t := by
    unfold Problem.fix?
    rcases kind_of_removal? hk with hkind | hkind <;> rw [hkind]
  rw [removal?_of_kind (kind_of_removal? hk)] at hk
  obtain ⟨r, hr, hspan⟩ := Option.bind_eq_some_iff.mp hk
  split_ifs at hspan
  cases hspan
  rw [hfix, Problem.removeReported, hr]
  change (t.removeLines r.first.line r.last.line).toOption = _
  rw [removeLines_ok hfirst hle hlast]
  rfl

theorem removeReported_of_no_removal {p : Problem} {t : Script} (hnone : p.removal? = none)
    (hkind : p.kind = .unconfigurableAttribute ∨ p.kind = .invalidOrUnknownKey) :
    p.removeReported t = none := by
  rw [removal?_of_kind hkind] at hnone
  unfold Problem.removeReported
  rcases hr : p.range with _ | r
  · rfl
  · rw [hr] at hnone
    have hrev : r.last.line < r.first.line := by
      by_contra hle
      rw [Option.bind_some, if_pos (by omega)] at hnone
      cases hnone
    change (t.removeLines r.first.line r.last.line).toOption = none
    rw [removeLines_reversed hrev]
    rfl

theorem quoteToken_eq_some {p : Problem} {t t' : Script} (h : p.quoteToken t = some t') :
    ∃ line text, p.line = some line ∧ 1 ≤ line ∧ t'.lines = t.lines.set (line - 1) text := by
  unfold Problem.quoteToken at h
  obtain ⟨line, hline, h⟩ := Option.bind_eq_some_iff.mp h
  obtain ⟨text, -, h⟩ := Option.bind_eq_some_iff.mp h
  obtain ⟨bareword, -, h⟩ := Option.bind_eq_some_iff.mp h
  rcases hset : t.set line bareword.quoted with e | t''
  · rw [hset] at h
    cases h
  · rw [hset] at h
    cases h
    obtain ⟨hpos, hlines⟩ := set_ok hset
    exact ⟨line, bareword.quoted, hline, hpos, hlines⟩

/-- Any other report changes at most the line that it is about, and only for a separator. -/
theorem fix?_of_no_removal {p : Problem} {t t' : Script} (hnone : p.removal? = none)
    (hkind : p.kind ≠ .missingRequiredArgument) (h : p.fix? t = some t') :
    p.kind = .missingAttributeSeparator ∧
      ∃ line text, p.line = some line ∧ 1 ≤ line ∧ t'.lines = t.lines.set (line - 1) text := by
  unfold Problem.fix? at h
  split at h
  · next hsep => exact ⟨hsep, quoteToken_eq_some h⟩
  · next hun =>
      rw [removeReported_of_no_removal hnone (Or.inl hun)] at h
      cases h
  · next hinv =>
      rw [removeReported_of_no_removal hnone (Or.inr hinv)] at h
      cases h
  · next hreq => exact absurd hreq hkind
  · cases h

/-! ### The round -/

/-- What holds of a document in the middle of a round, when some spans are removed. -/
abbrev Midway (problems : List Problem) (s : Script) (removed : List Span) (t : Script) : Prop :=
  List.Forall₂ (Follows problems) (outside removed s.lines) t.lines

theorem forall₂_follows_zipIdx (problems : List Problem) (lines : List String) (n : Nat) :
    List.Forall₂ (Follows problems) (lines.zipIdx n) lines := by
  induction lines generalizing n with
  | nil => exact List.Forall₂.nil
  | cons line rest ih => exact List.Forall₂.cons (Or.inl rfl) (ih (n + 1))

theorem midway_removal {problems : List Problem} {s t : Script} {removed : List Span} {p : Problem}
    {k : Span} (ht : Midway problems s removed t) (hk : p.removal? = some k)
    (hfirst : 1 ≤ k.first) (hlast : k.last ≤ s.size) (hbelow : ∀ r ∈ removed, k.last < r.first) :
    ∃ t', p.fix? t = some t' ∧ Midway problems s (k :: removed) t' := by
  have hle := first_le_last hk
  have hsize : k.last ≤ t.size := by
    have := ht.length_eq
    have : k.last ≤ (outside removed s.lines).length := le_length_outside hbelow hlast
    unfold Script.size
    omega
  refine ⟨_, fix?_of_removal? hk hfirst hsize, ?_⟩
  unfold Midway
  rw [outside_cons hfirst hle hlast hbelow]
  exact List.rel_append (List.forall₂_take _ ht) (List.forall₂_drop _ ht)

theorem midway_other {problems : List Problem} {s t t' : Script} {removed : List Span} {p : Problem}
    (ht : Midway problems s removed t) (hp : p ∈ problems) (hnone : p.removal? = none)
    (hkind : p.kind ≠ .missingRequiredArgument)
    (hbelow : ∀ r ∈ removed, ∀ n ∈ p.line, n < r.first) (h : p.fix? t = some t') :
    Midway problems s removed t' := by
  obtain ⟨hsep, line, text, hline, hpos, hlines⟩ := fix?_of_no_removal hnone hkind h
  unfold Midway
  rw [hlines]
  refine forall₂_set ht fun original horiginal => Or.inr ⟨p, hp, hsep, ?_⟩
  rw [number_of_getElem?_outside (fun r hr => hbelow r hr line hline) hpos horiginal]
  exact hline

/-- The invariant of a run of fixes whose removals lie one above the other. -/
theorem midway_fixEach {problems todo : List Problem} {s t : Script} {removed : List Span}
    (ht : Midway problems s removed t) (htodo : ∀ p ∈ todo, p ∈ problems)
    (hkinds : ∀ p ∈ problems, p.kind ≠ .missingRequiredArgument)
    (hranges : ∀ p ∈ problems, ∀ k ∈ p.removal?, 1 ≤ k.first ∧ k.last ≤ s.size)
    (hbelow : ∀ r ∈ removed, ∀ p ∈ todo, ∀ n ∈ lastLine? p, n < r.first)
    (hpairwise : todo.Pairwise fun a b => ∀ r ∈ a.removal?, ∀ n ∈ lastLine? b, n < r.first) :
    Midway problems s (removals todo ++ removed) (Repair.fixEach t todo).1 := by
  induction todo generalizing t removed with
  | nil => exact ht
  | cons p rest ih =>
      have hrest : ∀ q ∈ rest, q ∈ problems := fun q hq => htodo q (List.mem_cons_of_mem _ hq)
      have hp := htodo p List.mem_cons_self
      obtain ⟨hfirst, hpairwise⟩ := List.pairwise_cons.mp hpairwise
      have hbelowRest : ∀ r ∈ removed, ∀ q ∈ rest, ∀ n ∈ lastLine? q, n < r.first :=
        fun r hr q hq => hbelow r hr q (List.mem_cons_of_mem _ hq)
      rcases hk : p.removal? with _ | k
      · have hremovals : removals (p :: rest) = removals rest := by simp [removals, hk]
        rw [hremovals]
        rcases hfix : p.fix? t with _ | t'
        · simp only [Repair.fixEach, hfix]
          exact ih ht hrest hbelowRest hpairwise
        · simp only [Repair.fixEach, hfix]
          refine ih (midway_other ht hp hk (hkinds p hp) (fun r hr n hn => ?_) hfix) hrest
            hbelowRest hpairwise
          exact hbelow r hr p List.mem_cons_self n (by simpa [lastLine?, hk] using hn)
      · have hremovals : removals (p :: rest) = k :: removals rest := by simp [removals, hk]
        obtain ⟨hone, hsize⟩ := hranges p hp k hk
        obtain ⟨t', hfix, ht'⟩ := midway_removal ht hk hone hsize fun r hr =>
          hbelow r hr p List.mem_cons_self k.last (by simp [lastLine?, hk])
        simp only [Repair.fixEach, hfix]
        have hstep := ih ht' hrest (fun r hr q hq n hn => ?_) hpairwise
        · unfold Midway at hstep ⊢
          rwa [hremovals, outside_congr (b := removals rest ++ k :: removed)]
          intro r
          simp [or_left_comm]
        · rcases List.mem_cons.mp hr with rfl | hr
          · exact hfirst q hq r hk n hn
          · exact hbelowRest r hr q hq n hn

/-- What a round of fixes does to a document. -/
structure EditsOnlyReported (s : Script) (problems : List Problem) : Prop where
  /-- The removals that are kept do not meet. -/
  separate : (keptOf problems).Pairwise fun a b => a.last < b.first
  reported : ∀ k ∈ keptOf problems, ∃ p ∈ problems, p.removal? = some k
  /-- Every report is treated, in its place, in one way. -/
  all : (treatments (keptOf problems) [] problems).map Prod.fst = problems
  treated : ∀ pt ∈ treatments (keptOf problems) [] problems, Treated (keptOf problems) pt.1 pt.2
  scheduled :
    (schedule problems).1.Perm (chosen (treatments (keptOf problems) [] problems))
  absorbed :
    (schedule problems).2 =
      (treatments (keptOf problems) [] problems).countP fun pt => pt.2 == .absorbed
  /-- Each kept removal is made once. -/
  once : ∀ k ∈ keptOf problems, (removals (schedule problems).1).count k = 1
  lines :
    List.Forall₂ (Follows problems) (outside (keptOf problems) s.lines)
      (Repair.fixEach s (schedule problems).1).1.lines

theorem count_removals_schedule {problems : List Problem} {k : Span} (hk : k ∈ keptOf problems) :
    (removals (schedule problems).1).count k = 1 := by
  obtain ⟨p, hp, hpk⟩ := exists_removal_of_mem_keptOf hk
  have hmem : k ∈ removals problems := List.mem_filterMap.mpr ⟨p, hp, hpk⟩
  have hperm : (removals (schedule problems).1).Perm _ := (schedule_perm problems).filterMap _
  rw [hperm.count_eq]
  exact (count_removals_chosen _ _ _ _).trans (if_pos ⟨hk, by simp, hmem⟩)

theorem mem_removals_schedule {problems : List Problem} {k : Span} :
    k ∈ removals (schedule problems).1 ↔ k ∈ keptOf problems := by
  constructor
  · intro hk
    obtain ⟨p, hp, hpk⟩ := List.mem_filterMap.mp hk
    exact kept_of_mem_schedule hp hpk
  · intro hk
    have := count_removals_schedule hk
    exact List.count_pos_iff.mp (by omega)

theorem editsOnlyReported (s : Script) (problems : List Problem)
    (hkinds : ∀ p ∈ problems, p.kind ≠ .missingRequiredArgument)
    (hranges : ∀ p ∈ problems, ∀ k ∈ p.removal?, 1 ≤ k.first ∧ k.last ≤ s.size) :
    EditsOnlyReported s problems where
  separate := pairwise_keptOf problems
  reported := fun _ hk => exists_removal_of_mem_keptOf hk
  all := map_fst_treatments _ _ _
  treated := treated_treatments [] fun _ hp _ hs => exists_around hp hs
  scheduled := schedule_perm problems
  absorbed := rfl
  once := fun _ hk => count_removals_schedule hk
  lines := by
    have hstart : Midway problems s [] s := by
      unfold Midway
      rw [outside_nil]
      exact forall₂_follows_zipIdx problems s.lines 1
    have hrun := midway_fixEach hstart (fun p hp => mem_of_mem_schedule hp) hkinds hranges nofun
      (pairwise_schedule problems)
    unfold Midway at hrun
    rwa [outside_congr (b := keptOf problems)] at hrun
    intro k
    simp [mem_removals_schedule]

/-- A removal in the middle, a separator below it, and an error that nothing can be done about. -/
theorem editsOnlyReported_removal_above_separator :
    EditsOnlyReported ⟨["a \x7b", "x = 1", "b \x7b", "\x7d", "c d", "\x7d"]⟩
      [(Problem.error "Invalid or unknown key" "").inLines "main.tf" 3 4,
        (Problem.error "Missing attribute separator" "").inLines "main.tf" 5 5,
        Problem.error "Unsupported block type" ""] :=
  editsOnlyReported _ _ (by decide) (by decide)

/-- A removal and, starting inside it, an error of another kind that reaches beyond it. -/
def crossing : List Problem :=
  [(Problem.error "Invalid or unknown key" "").inLines "main.tf" 3 5,
    (Problem.error "Unsupported block type" "").inLines "main.tf" 4 9]

theorem keptOf_crossing : keptOf crossing = [⟨3, 5⟩] := by
  have hremovals : removals crossing = [⟨3, 5⟩] := by decide
  rw [keptOf, hremovals, Span.keep, List.mergeSort_singleton]
  rfl

/-- A report that asks for no removal is done with a removal around its first line, whether or not
that removal holds all of it. -/
theorem absorbed_beyond_removal :
    ∃ pt ∈ treatments (keptOf crossing) [] crossing,
      pt.2 = .absorbed ∧
        ∀ k ∈ keptOf crossing, ∀ r ∈ pt.1.range,
          ¬ (k.first ≤ r.first.line ∧ r.last.line ≤ k.last) := by
  rw [keptOf_crossing]
  refine ⟨_, List.mem_cons_of_mem _ List.mem_cons_self, by decide, ?_⟩
  intro k hk
  rw [List.mem_singleton.mp hk]
  decide

end StackExport.Proofs.RepairRound
