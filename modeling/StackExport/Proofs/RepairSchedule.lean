import Mathlib
import StackExport.Repair.Schedule
/-!
What becomes of the reports of one round.

The removals that are kept do not meet, every removal starts inside a kept one, and of the reports
that ask for a kept removal exactly one is scheduled.
-/
namespace StackExport.Proofs.RepairSchedule

open StackExport

theorem first_le_last {p : Problem} {span : Span} (h : p.removal? = some span) :
    span.first ≤ span.last := by
  unfold Problem.removal? at h
  split at h
  any_goals cases h
  all_goals
    split at h
    · split_ifs at h with hle
      cases h
      exact hle
    · cases h

theorem line_of_removal? {p : Problem} {span : Span} (h : p.removal? = some span) :
    p.line = some span.first := by
  unfold Problem.removal? at h
  split at h
  any_goals cases h
  all_goals
    split at h
    · next r hr =>
        split_ifs at h
        cases h
        simp [Problem.line, hr]
    · cases h

theorem contains_iff {s : Span} {line : Nat} :
    s.contains line = true ↔ s.first ≤ line ∧ line ≤ s.last := by
  simp [Span.contains]

/-! ### Kept spans -/

def removals (reports : List Problem) : List Span := reports.filterMap Problem.removal?

def keptOf (problems : List Problem) : List Span := Span.keep (removals problems)

theorem keepFrom_cons (last : Option Span) (s : Span) (rest : List Span) :
    Span.keepFrom last (s :: rest) =
      if ∃ k ∈ last, s.first ≤ k.last then Span.keepFrom last rest
      else s :: Span.keepFrom (some s) rest := by
  cases last <;> simp [Span.keepFrom]

theorem mem_of_mem_keepFrom {last : Option Span} {spans : List Span} {k : Span}
    (h : k ∈ Span.keepFrom last spans) : k ∈ spans := by
  induction spans generalizing last with
  | nil => cases h
  | cons s rest ih =>
      rw [keepFrom_cons] at h
      split_ifs at h
      · exact List.mem_cons_of_mem _ (ih h)
      · rcases List.mem_cons.mp h with rfl | h
        · exact List.mem_cons_self
        · exact List.mem_cons_of_mem _ (ih h)

theorem last_lt_of_mem_keepFrom {last : Option Span} {spans : List Span}
    (hspans : ∀ s ∈ spans, s.first ≤ s.last) {kept k : Span} (hkept : kept ∈ last)
    (h : k ∈ Span.keepFrom last spans) : kept.last < k.first := by
  induction spans generalizing last kept with
  | nil => cases h
  | cons s rest ih =>
      have hrest : ∀ s ∈ rest, s.first ≤ s.last := fun s hs => hspans s (List.mem_cons_of_mem _ hs)
      rw [keepFrom_cons] at h
      split_ifs at h with hmeets
      · exact ih hrest hkept h
      · have hs := hspans s List.mem_cons_self
        have hafter : kept.last < s.first := by
          by_contra hle
          exact hmeets ⟨kept, hkept, by omega⟩
        rcases List.mem_cons.mp h with rfl | h
        · exact hafter
        · have := ih hrest rfl h
          omega

theorem pairwise_keepFrom (last : Option Span) {spans : List Span}
    (hspans : ∀ s ∈ spans, s.first ≤ s.last) :
    (Span.keepFrom last spans).Pairwise fun a b => a.last < b.first := by
  induction spans generalizing last with
  | nil => exact List.Pairwise.nil
  | cons s rest ih =>
      have hrest : ∀ s ∈ rest, s.first ≤ s.last := fun s hs => hspans s (List.mem_cons_of_mem _ hs)
      rw [keepFrom_cons]
      split_ifs
      · exact ih last hrest
      · refine List.pairwise_cons.mpr ⟨fun k hk => ?_, ih _ hrest⟩
        exact last_lt_of_mem_keepFrom hrest rfl hk

/-- Of spans in the order of their first lines each starts inside one that is kept. -/
theorem exists_around_keepFrom (last : Option Span) {spans : List Span}
    (hspans : ∀ s ∈ spans, s.first ≤ s.last)
    (hsorted : spans.Pairwise fun a b => a.first ≤ b.first)
    (hlast : ∀ k ∈ last, ∀ s ∈ spans, k.first ≤ s.first) {s : Span} (hs : s ∈ spans) :
    ∃ k, (k ∈ last ∨ k ∈ Span.keepFrom last spans) ∧ k.contains s.first = true := by
  induction spans generalizing last with
  | nil => cases hs
  | cons t rest ih =>
      obtain ⟨hbefore, hsorted⟩ := List.pairwise_cons.mp hsorted
      have hrest : ∀ s ∈ rest, s.first ≤ s.last := fun s hs => hspans s (List.mem_cons_of_mem _ hs)
      rw [keepFrom_cons]
      split_ifs with hmeets
      · rcases List.mem_cons.mp hs with rfl | hs
        · obtain ⟨k, hk, hle⟩ := hmeets
          exact ⟨k, Or.inl hk, contains_iff.mpr ⟨hlast k hk s List.mem_cons_self, hle⟩⟩
        · exact ih last hrest hsorted (fun k hk s hs => hlast k hk s (List.mem_cons_of_mem _ hs)) hs
      · rcases List.mem_cons.mp hs with rfl | hs
        · exact ⟨s, Or.inr List.mem_cons_self,
            contains_iff.mpr ⟨le_rfl, hspans s List.mem_cons_self⟩⟩
        · obtain ⟨k, hk, hin⟩ := ih (some t) hrest hsorted
            (fun k hk s hs => by cases hk; exact hbefore s hs) hs
          refine ⟨k, Or.inr ?_, hin⟩
          rcases hk with hk | hk
          · cases hk
            exact List.mem_cons_self
          · exact List.mem_cons_of_mem _ hk

theorem before_iff {a b : Span} :
    a.before b = true ↔ a.first < b.first ∨ a.first = b.first ∧ b.last ≤ a.last := by
  simp [Span.before]

theorem before_trans (a b c : Span) (hab : a.before b = true) (hbc : b.before c = true) :
    a.before c = true := by
  rw [before_iff] at *
  omega

theorem before_total (a b : Span) : (a.before b || b.before a) = true := by
  rw [Bool.or_eq_true, before_iff, before_iff]
  omega

theorem pairwise_mergeSort_before (spans : List Span) :
    (spans.mergeSort Span.before).Pairwise fun a b => a.first ≤ b.first := by
  refine (List.pairwise_mergeSort before_trans before_total spans).imp fun {a b} h => ?_
  rw [before_iff] at h
  omega

theorem first_le_last_of_mem_sorted {problems : List Problem} {s : Span}
    (h : s ∈ (removals problems).mergeSort Span.before) : s.first ≤ s.last := by
  obtain ⟨p, -, hp⟩ := List.mem_filterMap.mp (List.mem_mergeSort.mp h)
  exact first_le_last hp

theorem exists_removal_of_mem_keptOf {problems : List Problem} {k : Span}
    (h : k ∈ keptOf problems) : ∃ p ∈ problems, p.removal? = some k :=
  List.mem_filterMap.mp (List.mem_mergeSort.mp (mem_of_mem_keepFrom h))

theorem pairwise_keptOf (problems : List Problem) :
    (keptOf problems).Pairwise fun a b => a.last < b.first :=
  pairwise_keepFrom none fun _ hs => first_le_last_of_mem_sorted hs

theorem eq_of_meets {problems : List Problem} {j k : Span} (hj : j ∈ keptOf problems)
    (hk : k ∈ keptOf problems) (hjk : j.first ≤ k.last) (hkj : k.first ≤ j.last) : j = k := by
  by_contra hne
  have hpairwise : (keptOf problems).Pairwise fun a b => a.last < b.first ∨ b.last < a.first :=
    (pairwise_keptOf problems).imp fun h => Or.inl h
  have : Std.Symm fun a b : Span => a.last < b.first ∨ b.last < a.first := ⟨fun _ _ h => h.symm⟩
  have := hpairwise.forall hj hk hne
  omega

theorem exists_around {problems : List Problem} {p : Problem} {s : Span} (hp : p ∈ problems)
    (hs : p.removal? = some s) : ∃ k ∈ keptOf problems, k.contains s.first = true := by
  obtain ⟨k, hk | hk, hin⟩ := exists_around_keepFrom none
    (fun _ hs => first_le_last_of_mem_sorted hs) (pairwise_mergeSort_before _) nofun
    (List.mem_mergeSort.mpr (List.mem_filterMap.mpr ⟨p, hp, hs⟩))
  · cases hk
  · exact ⟨k, hk, hin⟩

/-! ### What becomes of a report -/

/-- What a treatment says about a report when some spans are kept. A report that asks for no removal
is judged by its first line alone. -/
def Treated (kept : List Span) (p : Problem) : Treatment → Prop
  | .scheduled =>
    (∃ k ∈ kept, p.removal? = some k) ∨
      p.removal? = none ∧ ∀ line ∈ p.line, ∀ k ∈ kept, k.contains line = false
  | .absorbed =>
    ∃ k ∈ kept, ∃ line ∈ p.line, k.contains line = true ∧ ∀ s ∈ p.removal?, s.last ≤ k.last
  | .deferred => ∃ s ∈ p.removal?, ∃ k ∈ kept, k.contains s.first = true ∧ k.last < s.last

theorem around?_eq_some {kept : List Span} {line : Nat} {k : Span}
    (h : Span.around? kept line = some k) : k ∈ kept ∧ k.contains line = true := by
  unfold Span.around? at h
  exact ⟨List.mem_of_find?_eq_some h, by simpa using List.find?_some h⟩

theorem around?_eq_none {kept : List Span} {line : Nat} (h : Span.around? kept line = none) :
    ∀ k ∈ kept, k.contains line = false := by
  intro k hk
  simpa using List.find?_eq_none.mp h k hk

theorem treated_treatment {kept : List Span} {p : Problem} (claimed : List Span)
    (haround : ∀ s ∈ p.removal?, ∃ k ∈ kept, k.contains s.first = true) :
    Treated kept p (p.treatment kept claimed) := by
  rcases hp : p.removal? with _ | s
  · rcases hline : p.line.bind (Span.around? kept) with _ | k
    · have ht : p.treatment kept claimed = .scheduled := by simp only [Problem.treatment, hp, hline]
      rw [ht]
      refine Or.inr ⟨hp, fun line hmem => ?_⟩
      rw [Option.mem_def.mp hmem] at hline
      exact around?_eq_none hline
    · have ht : p.treatment kept claimed = .absorbed := by simp only [Problem.treatment, hp, hline]
      rw [ht]
      obtain ⟨line, hmem, hk⟩ := Option.bind_eq_some_iff.mp hline
      obtain ⟨hkept, hin⟩ := around?_eq_some hk
      exact ⟨k, hkept, line, hmem, hin, by simp [hp]⟩
  · by_cases hclaim : (kept.contains s && !claimed.contains s) = true
    · have ht : p.treatment kept claimed = .scheduled := by
        simp only [Problem.treatment, hp, if_pos hclaim]
      rw [ht]
      have hs : s ∈ kept := by simpa using And.left (by simpa using hclaim)
      exact Or.inl ⟨s, hs, hp⟩
    · rcases hk : Span.around? kept s.first with _ | k
      · obtain ⟨k, hkept, hin⟩ := haround s hp
        rw [around?_eq_none hk k hkept] at hin
        cases hin
      · obtain ⟨hkept, hin⟩ := around?_eq_some hk
        by_cases hle : s.last ≤ k.last
        · have ht : p.treatment kept claimed = .absorbed := by
            simp only [Problem.treatment, hp, if_neg hclaim, hk, if_pos hle]
          rw [ht]
          refine ⟨k, hkept, s.first, line_of_removal? hp, hin, ?_⟩
          simpa [hp] using hle
        · have ht : p.treatment kept claimed = .deferred := by
            simp only [Problem.treatment, hp, if_neg hclaim, hk, if_neg hle]
          rw [ht]
          exact ⟨s, hp, k, hkept, hin, Nat.lt_of_not_le hle⟩

/-! ### The reports of a round -/

def chosen (treated : List (Problem × Treatment)) : List Problem :=
  (treated.filter (·.2 == .scheduled)).map (·.1)

def claimedAfter (p : Problem) (kept claimed : List Span) : List Span :=
  match p.treatment kept claimed, p.removal? with
  | .scheduled, some span => span :: claimed
  | _, _ => claimed

theorem treatments_cons (kept claimed : List Span) (p : Problem) (rest : List Problem) :
    treatments kept claimed (p :: rest) =
      (p, p.treatment kept claimed) :: treatments kept (claimedAfter p kept claimed) rest := by
  rfl

theorem map_fst_treatments (kept claimed : List Span) (problems : List Problem) :
    (treatments kept claimed problems).map Prod.fst = problems := by
  induction problems generalizing claimed with
  | nil => rfl
  | cons p rest ih => rw [treatments_cons, List.map_cons, ih]

theorem treated_treatments {kept : List Span} {problems : List Problem} (claimed : List Span)
    (haround : ∀ p ∈ problems, ∀ s ∈ p.removal?, ∃ k ∈ kept, k.contains s.first = true) :
    ∀ pt ∈ treatments kept claimed problems, Treated kept pt.1 pt.2 := by
  induction problems generalizing claimed with
  | nil => nofun
  | cons p rest ih =>
      rw [treatments_cons]
      intro pt hpt
      rcases List.mem_cons.mp hpt with rfl | hpt
      · exact treated_treatment claimed (haround p List.mem_cons_self)
      · exact ih _ (fun q hq => haround q (List.mem_cons_of_mem _ hq)) pt hpt

theorem treatment_eq_scheduled_iff {kept claimed : List Span} {p : Problem} {s : Span}
    (hp : p.removal? = some s) :
    p.treatment kept claimed = .scheduled ↔ s ∈ kept ∧ s ∉ claimed := by
  by_cases hclaim : (kept.contains s && !claimed.contains s) = true
  · have ht : p.treatment kept claimed = .scheduled := by
      simp only [Problem.treatment, hp, if_pos hclaim]
    simpa [ht] using hclaim
  · have ht : p.treatment kept claimed ≠ .scheduled := by
      simp only [Problem.treatment, hp, if_neg hclaim]
      split
      · split <;> simp
      · simp
    simpa [ht] using hclaim

theorem claimedAfter_of_scheduled {kept claimed : List Span} {p : Problem} {s : Span}
    (hp : p.removal? = some s) (ht : p.treatment kept claimed = .scheduled) :
    claimedAfter p kept claimed = s :: claimed := by
  simp only [claimedAfter, ht, hp]

theorem claimedAfter_of_not_scheduled {kept claimed : List Span} {p : Problem}
    (ht : p.treatment kept claimed ≠ .scheduled) : claimedAfter p kept claimed = claimed := by
  unfold claimedAfter
  split
  · next h _ => exact absurd h ht
  · rfl

theorem claimedAfter_of_none {kept claimed : List Span} {p : Problem} (hp : p.removal? = none) :
    claimedAfter p kept claimed = claimed := by
  unfold claimedAfter
  rw [hp]
  cases p.treatment kept claimed <;> rfl

theorem chosen_cons (p : Problem) (t : Treatment) (rest : List (Problem × Treatment)) :
    chosen ((p, t) :: rest) = if t = .scheduled then p :: chosen rest else chosen rest := by
  cases t <;> rfl

theorem count_removals_chosen (kept claimed : List Span) (problems : List Problem) (k : Span) :
    (removals (chosen (treatments kept claimed problems))).count k =
      if k ∈ kept ∧ k ∉ claimed ∧ k ∈ removals problems then 1 else 0 := by
  induction problems generalizing claimed with
  | nil => simp [treatments, chosen, removals]
  | cons p rest ih =>
      rw [treatments_cons, chosen_cons]
      rcases hp : p.removal? with _ | s
      · have hchosen (ps : List Problem) : removals (p :: ps) = removals ps := by
          simp [removals, hp]
        rw [claimedAfter_of_none hp, hchosen rest, ← ih claimed]
        by_cases ht : p.treatment kept claimed = .scheduled
        · rw [if_pos ht, hchosen]
        · rw [if_neg ht]
      · have hcons (ps : List Problem) : removals (p :: ps) = s :: removals ps := by
          simp [removals, hp]
        rw [hcons rest]
        by_cases ht : p.treatment kept claimed = .scheduled
        · obtain ⟨hkept, hclaim⟩ := (treatment_eq_scheduled_iff hp).mp ht
          rw [if_pos ht, claimedAfter_of_scheduled hp ht, hcons, List.count_cons, ih]
          by_cases hsk : s = k
          · subst hsk
            simp [hkept, hclaim]
          · simp [hsk, Ne.symm hsk]
        · rw [if_neg ht, claimedAfter_of_not_scheduled ht, ih]
          rw [treatment_eq_scheduled_iff hp] at ht
          by_cases hsk : k = s
          · subst hsk
            simp only [← and_assoc, ht, false_and]
          · simp [hsk]

/-! ### The order of the fixes -/

/-- The last line that a report is about: of a removal its end. -/
def lastLine? (p : Problem) : Option Nat := (p.removal?.map Span.last).or p.line

theorem notAbove_iff {a b : Problem} :
    a.notAbove b = true ↔ ∀ n ∈ b.line, ∃ m ∈ a.line, n ≤ m := by
  unfold Problem.notAbove
  split <;> simp_all

theorem notAbove_trans (a b c : Problem) (hab : a.notAbove b = true) (hbc : b.notAbove c = true) :
    a.notAbove c = true := by
  rw [notAbove_iff] at *
  intro n hn
  obtain ⟨m, hm, hnm⟩ := hbc n hn
  obtain ⟨l, hl, hml⟩ := hab m hm
  exact ⟨l, hl, hnm.trans hml⟩

theorem notAbove_total (a b : Problem) : (a.notAbove b || b.notAbove a) = true := by
  unfold Problem.notAbove
  rcases a.line with _ | m <;> rcases b.line with _ | n <;> simp
  omega

theorem pairwise_mergeSort_notAbove (problems : List Problem) :
    (problems.mergeSort Problem.notAbove).Pairwise fun a b => a.notAbove b = true :=
  List.pairwise_mergeSort notAbove_trans notAbove_total problems

theorem nodup_removals_chosen (problems : List Problem) :
    (removals (chosen (treatments (keptOf problems) [] problems))).Nodup := by
  rw [List.nodup_iff_count_le_one]
  intro k
  rw [count_removals_chosen]
  split_ifs <;> omega

theorem schedule_perm (problems : List Problem) :
    (schedule problems).1.Perm (chosen (treatments (keptOf problems) [] problems)) :=
  List.mergeSort_perm _ _

theorem treated_of_mem_schedule {problems : List Problem} {p : Problem}
    (h : p ∈ (schedule problems).1) : Treated (keptOf problems) p .scheduled := by
  have hchosen := (schedule_perm problems).mem_iff.mp h
  obtain ⟨⟨q, t⟩, hmem, rfl⟩ := List.mem_map.mp hchosen
  obtain ⟨hmem, ht⟩ := List.mem_filter.mp hmem
  have ht : t = .scheduled := by simpa using ht
  subst ht
  exact treated_treatments [] (fun p hp s hs => exists_around hp hs) _ hmem

theorem mem_of_mem_schedule {problems : List Problem} {p : Problem}
    (h : p ∈ (schedule problems).1) : p ∈ problems := by
  have hchosen := (schedule_perm problems).mem_iff.mp h
  obtain ⟨pt, hmem, rfl⟩ := List.mem_map.mp hchosen
  rw [← map_fst_treatments (keptOf problems) [] problems]
  exact List.mem_map_of_mem (List.mem_of_mem_filter hmem)

theorem kept_of_mem_schedule {problems : List Problem} {p : Problem} {s : Span}
    (h : p ∈ (schedule problems).1) (hs : p.removal? = some s) : s ∈ keptOf problems := by
  rcases treated_of_mem_schedule h with ⟨k, hk, hpk⟩ | ⟨hnone, -⟩
  · rw [hs] at hpk
    cases hpk
    exact hk
  · rw [hs] at hnone
    cases hnone

theorem outside_of_mem_schedule {problems : List Problem} {p : Problem} {k : Span} {n : Nat}
    (h : p ∈ (schedule problems).1) (hp : p.removal? = none) (hn : p.line = some n)
    (hk : k ∈ keptOf problems) : n < k.first ∨ k.last < n := by
  rcases treated_of_mem_schedule h with ⟨j, -, hpj⟩ | ⟨-, hout⟩
  · rw [hp] at hpj
    cases hpj
  · have hout := hout n hn k hk
    by_contra hin
    have hin : k.contains n = true := contains_iff.mpr (by omega)
    rw [hin] at hout
    cases hout

/-- What is removed lies below all that is fixed after it. -/
theorem pairwise_schedule (problems : List Problem) :
    (schedule problems).1.Pairwise fun a b => ∀ s ∈ a.removal?, ∀ n ∈ lastLine? b, n < s.first := by
  have hnodup : (removals (schedule problems).1).Nodup :=
    ((schedule_perm problems).filterMap _).nodup_iff.mpr (nodup_removals_chosen problems)
  have hdistinct := List.pairwise_filterMap.mp hnodup
  have hsorted : (schedule problems).1.Pairwise fun a b => a.notAbove b = true :=
    pairwise_mergeSort_notAbove _
  refine (hdistinct.and hsorted).imp_of_mem fun {a b} ha hb ⟨hne, hab⟩ s hs n hn => ?_
  have hs : a.removal? = some s := hs
  have hskept := kept_of_mem_schedule ha hs
  have hsle := first_le_last hs
  rw [notAbove_iff, line_of_removal? hs] at hab
  rcases hr : b.removal? with _ | r
  · have hline : b.line = some n := by simpa [lastLine?, hr] using hn
    obtain ⟨m, hm, hnm⟩ := hab n hline
    cases hm
    have := outside_of_mem_schedule hb hr hline hskept
    omega
  · have hlast : r.last = n := by simpa [lastLine?, hr] using hn
    obtain ⟨m, hm, hnm⟩ := hab r.first (line_of_removal? hr)
    cases hm
    by_contra hle
    have hmeet : s.first ≤ r.last := by omega
    have heq : s = r := eq_of_meets hskept (kept_of_mem_schedule hb hr) hmeet (by omega)
    exact hne s hs r hr heq

end StackExport.Proofs.RepairSchedule
