import StackExport.Proofs.RepairIndependence
import Mathlib.Data.List.Perm.Subperm
/-!
Removing several ranges of lines.

Ranges are cut from the bottom up, each out of what the ranges before it have left, and each is
checked when its turn comes. So the numbers of a range mean its own lines only as long as no range
cut before it reaches into it, and a fault that is found late finds lines gone already.
-/
namespace StackExport.Proofs.RangeRemoval

open StackExport
open StackExport.Proofs.RepairRound
open StackExport.Proofs.RepairIndependence

variable {s t : Script} {ranges todo : List (Nat × Nat)} {r : Nat × Nat}

/-- The range holds lines of the script, and no others. -/
def IsWithin (s : Script) (r : Nat × Nat) : Prop := 1 ≤ r.1 ∧ r.1 ≤ r.2 ∧ r.2 ≤ s.size

/-- Two ranges without a line in common. -/
def Apart (a b : Nat × Nat) : Prop := a.2 < b.1 ∨ b.2 < a.1

/-- The order in which ranges are cut. -/
def bottomUp (ranges : List (Nat × Nat)) : List (Nat × Nat) :=
  ranges.mergeSort fun a b => b.1 ≤ a.1

def spans (ranges : List (Nat × Nat)) : List Span := ranges.map fun r => ⟨r.1, r.2⟩

/-- The script with the lines that lie in none of the ranges. -/
def remaining (s : Script) (ranges : List (Nat × Nat)) : Script :=
  ⟨(outside (spans ranges) s.lines).map Prod.fst⟩

/-- Either the script is left as it is, with a fault, or just the lines of the ranges are gone. -/
def ExactOrNothing (s : Script) (ranges : List (Nat × Nat)) : Prop :=
  (∃ e, s.removeRanges ranges = (.error e, s)) ∨
    s.removeRanges ranges = (.ok (), remaining s ranges)

/-! ### The order -/

theorem bottomUp_perm (ranges : List (Nat × Nat)) : (bottomUp ranges).Perm ranges :=
  List.mergeSort_perm ranges _

theorem mem_bottomUp : r ∈ bottomUp ranges ↔ r ∈ ranges :=
  (bottomUp_perm ranges).mem_iff

theorem pairwise_bottomUp (ranges : List (Nat × Nat)) :
    (bottomUp ranges).Pairwise fun a b => b.1 ≤ a.1 := by
  have hsorted : (bottomUp ranges).Pairwise fun a b => decide (b.1 ≤ a.1) = true :=
    List.pairwise_mergeSort
      (fun a b c hab hbc => by simp only [decide_eq_true_eq] at *; omega)
      (fun a b => by simp only [Bool.or_eq_true, decide_eq_true_eq]; omega) ranges
  exact hsorted.imp of_decide_eq_true

theorem pairwise_apart_bottomUp :
    (bottomUp ranges).Pairwise Apart ↔ ranges.Pairwise Apart :=
  (bottomUp_perm ranges).pairwise_iff fun h => h.symm

/-! ### One range after the other -/

theorem removeEach_of_not_within (h : ¬ IsWithin s r) (rest : List (Nat × Nat)) :
    ∃ e, s.removeEach (r :: rest) = (.error e, s) := by
  cases hr : s.removeLines r.1 r.2 with
  | ok t =>
      obtain ⟨hfirst, hle, hlast, -⟩ := removeLines_eq_ok hr
      exact absurd ⟨hfirst, hle, hlast⟩ h
  | error e =>
      refine ⟨e, ?_⟩
      simp only [Script.removeEach, hr]

theorem removeEach_of_within (h : IsWithin s r) (rest : List (Nat × Nat)) :
    s.removeEach (r :: rest) =
      Script.removeEach ⟨s.lines.take (r.1 - 1) ++ s.lines.drop r.2⟩ rest := by
  simp only [Script.removeEach, removeLines_ok h.1 h.2.1 h.2.2]

def width (r : Nat × Nat) : Nat := r.2 + 1 - r.1

theorem size_cut (h : IsWithin s r) :
    (⟨s.lines.take (r.1 - 1) ++ s.lines.drop r.2⟩ : Script).size + width r = s.size := by
  obtain ⟨hfirst, hle, hlast⟩ := h
  simp only [Script.size, List.length_append, List.length_take, List.length_drop, width] at *
  omega

theorem size_removeEach_le (s : Script) (ranges : List (Nat × Nat)) :
    (s.removeEach ranges).2.size ≤ s.size := by
  induction ranges generalizing s with
  | nil => exact Nat.le_refl _
  | cons r rest ih =>
      by_cases h : IsWithin s r
      · rw [removeEach_of_within h]
        have hcut := size_cut h
        have hrest := ih ⟨s.lines.take (r.1 - 1) ++ s.lines.drop r.2⟩
        omega
      · obtain ⟨e, he⟩ := removeEach_of_not_within h rest
        rw [he]

theorem size_of_removeEach_ok (h : s.removeEach ranges = (.ok (), t)) :
    (∀ r ∈ ranges, IsWithin s r) ∧ t.size + (ranges.map width).sum = s.size := by
  induction ranges generalizing s with
  | nil =>
      obtain rfl := congrArg Prod.snd h
      exact ⟨fun r hr => (List.not_mem_nil hr).elim, rfl⟩
  | cons r rest ih =>
      by_cases hr : IsWithin s r
      · rw [removeEach_of_within hr] at h
        obtain ⟨hrest, hsize⟩ := ih h
        have hcut := size_cut hr
        constructor
        · intro p hp
          rcases List.mem_cons.1 hp with rfl | hp
          · exact hr
          · obtain ⟨hfirst, hle, hlast⟩ := hrest p hp
            exact ⟨hfirst, hle, by omega⟩
        · rw [List.map_cons, List.sum_cons]
          omega
      · obtain ⟨e, he⟩ := removeEach_of_not_within hr rest
        rw [he] at h
        cases congrArg Prod.fst h

/-! ### Counting lines -/

theorem mem_spans {p : Span} : p ∈ spans ranges ↔ (p.first, p.last) ∈ ranges := by
  simp only [spans, List.mem_map]
  constructor
  · rintro ⟨r, hr, rfl⟩
    exact hr
  · intro h
    exact ⟨_, h, rfl⟩

theorem length_le_width {numbers : List Nat} (hnodup : numbers.Nodup)
    (h : ∀ n ∈ numbers, r.1 ≤ n ∧ n ≤ r.2) : numbers.length ≤ width r := by
  have hsubset : numbers ⊆ List.range' r.1 (width r) := by
    intro n hn
    have := h n hn
    rw [List.mem_range'_1, width]
    omega
  simpa using (List.subperm_of_subset hnodup hsubset).length_le

/-- The numbers of the lines of a range that other ranges leave. -/
def hits (s : Script) (r : Nat × Nat) (rest : List (Nat × Nat)) : List Nat :=
  ((outside (spans rest) s.lines).filter fun line => decide (r.1 ≤ line.2 ∧ line.2 ≤ r.2)).map
    Prod.snd

theorem nodup_hits (s : Script) (r : Nat × Nat) (rest : List (Nat × Nat)) :
    (hits s r rest).Nodup := by
  have hsub : (hits s r rest).Sublist ((s.lines.zipIdx 1).map Prod.snd) :=
    (List.filter_sublist.trans List.filter_sublist).map Prod.snd
  rw [List.zipIdx_map_snd] at hsub
  exact List.Nodup.sublist hsub List.nodup_range'

theorem mem_hits {rest : List (Nat × Nat)} {n : Nat} (h : n ∈ hits s r rest) :
    (r.1 ≤ n ∧ n ≤ r.2) ∧ ∀ p ∈ rest, n < p.1 ∨ p.2 < n := by
  obtain ⟨line, hline, rfl⟩ := List.mem_map.1 h
  obtain ⟨hout, hin⟩ := List.mem_filter.1 hline
  refine ⟨of_decide_eq_true hin, ?_⟩
  intro p hp
  exact isOutside_iff.1 (List.mem_filter.1 hout).2 ⟨p.1, p.2⟩ (mem_spans.2 hp)

theorem length_outside_cons (s : Script) (r : Nat × Nat) (rest : List (Nat × Nat)) :
    (outside (spans rest) s.lines).length =
      (outside (spans (r :: rest)) s.lines).length + (hits s r rest).length := by
  have hcons : outside (spans (r :: rest)) s.lines =
      (outside (spans rest) s.lines).filter fun line =>
        !decide (r.1 ≤ line.2 ∧ line.2 ≤ r.2) := by
    simp [outside, isOutside, spans, Span.contains, List.filter_filter]
  rw [hcons, hits, List.length_map, Nat.add_comm]
  exact List.length_eq_length_filter_add _

/-- Ranges take away no more lines than they hold, and as many only if no line lies in two. -/
theorem size_le_outside (hwithin : ∀ r ∈ ranges, IsWithin s r) :
    s.size ≤ (outside (spans ranges) s.lines).length + (ranges.map width).sum ∧
      (s.size = (outside (spans ranges) s.lines).length + (ranges.map width).sum →
        ranges.Pairwise Apart) := by
  induction ranges with
  | nil => simp [spans, outside_nil, Script.size]
  | cons r rest ih =>
      obtain ⟨hle, heq⟩ := ih fun p hp => hwithin p (List.mem_cons_of_mem _ hp)
      have hsplit := length_outside_cons s r rest
      have hhits : (hits s r rest).length ≤ width r :=
        length_le_width (nodup_hits s r rest) fun n hn => (mem_hits hn).1
      rw [List.map_cons, List.sum_cons]
      refine ⟨by omega, fun hall => ?_⟩
      have hfull : (hits s r rest).length = width r := by omega
      refine List.pairwise_cons.2 ⟨fun p hp => ?_, heq (by omega)⟩
      by_contra hmeet
      obtain ⟨hpfirst, hple, -⟩ := hwithin p (List.mem_cons_of_mem _ hp)
      obtain ⟨hrfirst, hrle, -⟩ := hwithin r List.mem_cons_self
      obtain ⟨hrp, hpr⟩ := not_or.1 hmeet
      -- a line in both is none that the other ranges leave
      have hshared : max r.1 p.1 ∉ hits s r rest := by
        intro h
        have := (mem_hits h).2 p hp
        omega
      have hmore : (max r.1 p.1 :: hits s r rest).length ≤ width r := by
        refine length_le_width (List.nodup_cons.2 ⟨hshared, nodup_hits s r rest⟩) ?_
        intro n hn
        rcases List.mem_cons.1 hn with rfl | hn
        · omega
        · exact (mem_hits hn).1
      rw [List.length_cons] at hmore
      omega

/-! ### Ranges without common lines -/

theorem removeEach_of_below {removed : List Span}
    (ht : t = ⟨(outside removed s.lines).map Prod.fst⟩) (hwithin : ∀ r ∈ todo, IsWithin s r)
    (hremoved : ∀ k ∈ removed, ∀ r ∈ todo, r.2 < k.first)
    (htodo : todo.Pairwise fun a b => b.2 < a.1) :
    t.removeEach todo =
      (.ok (), ⟨(outside (spans todo ++ removed) s.lines).map Prod.fst⟩) := by
  induction todo generalizing t removed with
  | nil => rw [ht]; rfl
  | cons r rest ih =>
      obtain ⟨hbelow, hrest⟩ := List.pairwise_cons.1 htodo
      obtain ⟨hfirst, hle, hlast⟩ := hwithin r List.mem_cons_self
      have habove (k : Span) (hk : k ∈ removed) : r.2 < k.first :=
        hremoved k hk r List.mem_cons_self
      have hlines := outside_cons (s := ⟨r.1, r.2⟩) hfirst hle hlast habove
      have hin : IsWithin t r := by
        refine ⟨hfirst, hle, ?_⟩
        rw [ht, Script.size, List.length_map]
        exact le_length_outside habove hlast
      have hnext : (⟨t.lines.take (r.1 - 1) ++ t.lines.drop r.2⟩ : Script) =
          ⟨(outside (⟨r.1, r.2⟩ :: removed) s.lines).map Prod.fst⟩ := by
        rw [ht, hlines, List.map_append, List.map_take, List.map_drop]
      have hgone : ∀ k ∈ (⟨r.1, r.2⟩ :: removed : List Span), ∀ p ∈ rest, p.2 < k.first := by
        intro k hk p hp
        rcases List.mem_cons.1 hk with rfl | hk
        · exact hbelow p hp
        · exact hremoved k hk p (List.mem_cons_of_mem _ hp)
      rw [removeEach_of_within hin,
        ih hnext (fun p hp => hwithin p (List.mem_cons_of_mem _ hp)) hgone hrest, outside_congr]
      intro k
      simp [spans, or_left_comm]

theorem removeRanges_of_apart (hwithin : ∀ r ∈ ranges, IsWithin s r)
    (hapart : ranges.Pairwise Apart) :
    s.removeRanges ranges = (.ok (), remaining s ranges) := by
  have hsorted : ∀ r ∈ bottomUp ranges, IsWithin s r := fun r hr => hwithin r (mem_bottomUp.1 hr)
  have hbelow : (bottomUp ranges).Pairwise fun a b => b.2 < a.1 := by
    have hboth := (pairwise_bottomUp ranges).and (pairwise_apart_bottomUp.2 hapart)
    refine hboth.imp_of_mem ?_
    rintro a b ha - ⟨hle, hab⟩
    obtain ⟨-, hale, -⟩ := hsorted a ha
    rcases hab with hab | hab
    · omega
    · exact hab
  have hstart : s = ⟨(outside [] s.lines).map Prod.fst⟩ := by
    rw [outside_nil, List.zipIdx_map_fst]
  have hrun := removeEach_of_below hstart hsorted (fun k hk => (List.not_mem_nil hk).elim) hbelow
  rw [List.append_nil, outside_congr (b := spans ranges)] at hrun
  · exact hrun
  · intro k
    rw [mem_spans, mem_spans, mem_bottomUp]

theorem apart_of_removeRanges (h : s.removeRanges ranges = (.ok (), remaining s ranges)) :
    (∀ r ∈ ranges, IsWithin s r) ∧ ranges.Pairwise Apart := by
  change s.removeEach (bottomUp ranges) = _ at h
  obtain ⟨hsorted, hsize⟩ := size_of_removeEach_ok h
  have hwithin : ∀ r ∈ ranges, IsWithin s r := fun r hr => hsorted r (mem_bottomUp.2 hr)
  refine ⟨hwithin, (size_le_outside hwithin).2 ?_⟩
  rw [← ((bottomUp_perm ranges).map width).sum_eq, ← hsize, remaining, Script.size, List.length_map]

/-- A script is left as it is, or loses just the lines of the ranges, exactly when the range that is
cut first is refused, or every range holds lines of the script and no line lies in two of them. -/
theorem exactOrNothing_iff (s : Script) (ranges : List (Nat × Nat)) :
    ExactOrNothing s ranges ↔
      (∃ r rest, bottomUp ranges = r :: rest ∧ ¬ IsWithin s r) ∨
        ((∀ r ∈ ranges, IsWithin s r) ∧ ranges.Pairwise Apart) := by
  constructor
  · rintro (⟨e, h⟩ | h)
    · refine .inl ?_
      change s.removeEach (bottomUp ranges) = _ at h
      cases hsorted : bottomUp ranges with
      | nil =>
          rw [hsorted] at h
          cases congrArg Prod.fst h
      | cons r rest =>
          refine ⟨r, rest, rfl, fun hr => ?_⟩
          -- the first cut leaves fewer lines than there were, and no later one adds any
          rw [hsorted, removeEach_of_within hr] at h
          have hless := size_removeEach_le ⟨s.lines.take (r.1 - 1) ++ s.lines.drop r.2⟩ rest
          rw [h] at hless
          change s.size ≤ _ at hless
          have hcut := size_cut hr
          obtain ⟨-, hle, -⟩ := hr
          simp only [width] at hcut
          omega
    · exact .inr (apart_of_removeRanges h)
  · rintro (⟨r, rest, hsorted, hr⟩ | ⟨hwithin, hapart⟩)
    · obtain ⟨e, he⟩ := removeEach_of_not_within hr rest
      refine .inl ⟨e, ?_⟩
      rw [Script.removeRanges, ← he, ← hsorted]
      rfl
    · exact .inr (removeRanges_of_apart hwithin hapart)

/-- Of two nested ranges the inner one is cut first, and the outer one then takes a line that lies
in neither; and a range that is no range of lines is found when another one is gone. -/
theorem nested_or_late_fault_inexact :
    ¬ ExactOrNothing ⟨["a", "b", "c", "d", "e"]⟩ [(1, 3), (2, 2)] ∧
      ¬ ExactOrNothing ⟨["a", "b", "c", "d", "e"]⟩ [(2, 2), (0, 0)] := by
  have hnested : Script.removeRanges ⟨["a", "b", "c", "d", "e"]⟩ [(1, 3), (2, 2)] =
      (.ok (), ⟨["e"]⟩) := by cbv
  have hlate : Script.removeRanges ⟨["a", "b", "c", "d", "e"]⟩ [(2, 2), (0, 0)] =
      (.error (.lineOutOfRange 0 4), ⟨["a", "c", "d", "e"]⟩) := by cbv
  constructor
  · rintro (⟨e, h⟩ | h)
    · rw [hnested] at h
      cases congrArg Prod.fst h
    · rw [hnested] at h
      exact absurd (congrArg Prod.snd h) (by decide)
  · rintro (⟨e, h⟩ | h)
    · rw [hlate] at h
      have hlines := congrArg (fun x => x.2.lines.length) h
      cases hlines
    · rw [hlate] at h
      cases congrArg Prod.fst h

end StackExport.Proofs.RangeRemoval
