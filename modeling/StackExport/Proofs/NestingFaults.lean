import StackExport.Proofs.StreamNesting
import Mathlib.Order.Bounds.Basic
/-!
What the balance check accepts, and where it stops.

It accepts the runs of the grammar and nothing else. A stream that it refuses can be completed to a
well-nested one as far as the number in the report, and no further.
-/
namespace StackExport.Proofs.NestingFaults

open StackExport
open StackExport.Proofs.StreamNesting

variable {opened outer : List Group} {events run rest : List Event} {e : Event} {g : Group}

/-! ### Accepted streams -/

/-- A stream that closes the given levels, the innermost first, each behind a well-nested run. -/
def Closes : List Group → List Event → Prop
  | [], events => WellNested events
  | g :: outer, events =>
    ∃ body rest, events = body ++ .stop g :: rest ∧ WellNested body ∧ Closes outer rest

theorem Closes.append_left (hrun : WellNested run) (h : Closes opened rest) :
    Closes opened (run ++ rest) := by
  cases opened with
  | nil => exact hrun.append h
  | cons g outer =>
      obtain ⟨body, tail, rfl, hbody, htail⟩ := h
      exact ⟨run ++ body, tail, by rw [List.append_assoc], hrun.append hbody, htail⟩

theorem closes_of_balanced (h : Balanced opened events) : Closes opened events := by
  induction events generalizing opened with
  | nil =>
      obtain rfl := balanced_nil_iff.1 h
      exact WellNested.nil
  | cons e rest ih =>
      have hneutral (he : e.nesting = 0) : Closes opened (e :: rest) := by
        have hrest := ih ((balanced_neutral_iff he).1 h)
        exact hrest.append_left (.neutral he .nil)
      cases e with
      | comment text => exact hneutral rfl
      | key key => exact hneutral rfl
      | scalar s => exact hneutral rfl
      | start o =>
          obtain ⟨body, tail, rfl, hbody, htail⟩ := ih (balanced_start_iff.1 h)
          have hgroup : WellNested (.start o :: (body ++ [.stop o.group])) :=
            .group o hbody .nil
          simpa using htail.append_left hgroup
      | stop g =>
          obtain ⟨outer, rfl, hrest⟩ := balanced_stop_iff.1 h
          exact ⟨[], rest, rfl, .nil, ih hrest⟩

theorem balanced_iff_wellNested : Balanced [] events ↔ WellNested events := by
  constructor
  · intro h
    exact closes_of_balanced h
  · intro h
    exact h.balanced

/-! ### Runs that can be completed -/

/-- A run that some events complete to a stream closing the given levels. -/
def IsCompletable (opened : List Group) (run : List Event) : Prop :=
  ∃ rest, Balanced opened (run ++ rest)

theorem isCompletable_nil (opened : List Group) : IsCompletable opened [] := by
  refine ⟨opened.map .stop, ?_⟩
  induction opened with
  | nil => exact balanced_nil_iff.2 rfl
  | cons g outer ih => exact balanced_cons_stop_iff.2 ih

theorem isCompletable_neutral_iff (he : e.nesting = 0) :
    IsCompletable opened (e :: run) ↔ IsCompletable opened run :=
  exists_congr fun _ => balanced_neutral_iff he

theorem isCompletable_start_iff {o : Opening} :
    IsCompletable opened (.start o :: run) ↔ IsCompletable (o.group :: opened) run :=
  exists_congr fun _ => balanced_start_iff

theorem isCompletable_stop_iff :
    IsCompletable opened (.stop g :: run) ↔
      ∃ outer, opened = g :: outer ∧ IsCompletable outer run := by
  constructor
  · rintro ⟨rest, h⟩
    obtain ⟨outer, rfl, hrest⟩ := balanced_stop_iff.1 h
    exact ⟨outer, rfl, rest, hrest⟩
  · rintro ⟨outer, rfl, rest, h⟩
    exact ⟨rest, balanced_cons_stop_iff.2 h⟩

def IsLongestCompletable (opened : List Group) (events : List Event) (n : Nat) : Prop :=
  IsGreatest {n | n ≤ events.length ∧ IsCompletable opened (events.take n)} n

theorem isLongestCompletable_zero (h : ∀ run, ¬ IsCompletable opened (e :: run)) :
    IsLongestCompletable opened (e :: rest) 0 := by
  constructor
  · exact ⟨Nat.zero_le _, isCompletable_nil opened⟩
  · rintro (_ | n) ⟨-, hn⟩
    · exact Nat.le_refl 0
    · exact absurd hn (h (rest.take n))

theorem IsLongestCompletable.succ {inner : List Group} {n : Nat}
    (h : IsLongestCompletable inner rest n)
    (hstep : ∀ run, IsCompletable opened (e :: run) ↔ IsCompletable inner run) :
    IsLongestCompletable opened (e :: rest) (n + 1) := by
  obtain ⟨⟨hle, hn⟩, hmax⟩ := h
  constructor
  · exact ⟨Nat.succ_le_succ hle, (hstep _).2 hn⟩
  · rintro (_ | m) ⟨hm, hrun⟩
    · exact Nat.zero_le _
    · exact Nat.succ_le_succ (hmax ⟨Nat.le_of_succ_le_succ hm, (hstep _).1 hrun⟩)

theorem exists_longest_of_checkFrom {i : Nat} {fault : BalanceError}
    (h : checkFrom i opened events = .error fault) :
    ∃ n, fault.index = i + n ∧ IsLongestCompletable opened events n := by
  induction events generalizing opened i with
  | nil =>
      cases opened with
      | nil => cases h
      | cons g outer =>
          obtain rfl := Except.error.inj h
          refine ⟨0, rfl, ⟨Nat.le_refl 0, isCompletable_nil _⟩, ?_⟩
          rintro n ⟨hn, -⟩
          exact hn
  | cons e rest ih =>
      -- an event that the check passes leaves the levels `inner` open
      have hpass (inner : List Group) (hrest : checkFrom (i + 1) inner rest = .error fault)
          (hstep : ∀ run, IsCompletable opened (e :: run) ↔ IsCompletable inner run) :
          ∃ n, fault.index = i + n ∧ IsLongestCompletable opened (e :: rest) n := by
        obtain ⟨n, hindex, hn⟩ := ih hrest
        exact ⟨n + 1, by omega, hn.succ hstep⟩
      have hneutral (he : e.nesting = 0) (hrest : checkFrom (i + 1) opened rest = .error fault) :=
        hpass opened hrest fun _ => isCompletable_neutral_iff he
      cases e with
      | comment text => exact hneutral rfl (by cases opened <;> exact h)
      | key key => exact hneutral rfl (by cases opened <;> exact h)
      | scalar s => exact hneutral rfl (by cases opened <;> exact h)
      | start o =>
          refine hpass (o.group :: opened) ?_ fun _ => isCompletable_start_iff
          cases opened <;> exact h
      | stop found =>
          cases opened with
          | nil =>
              obtain rfl := Except.error.inj h
              refine ⟨0, rfl, isLongestCompletable_zero fun run hrun => ?_⟩
              obtain ⟨outer, houter, -⟩ := isCompletable_stop_iff.1 hrun
              cases houter
          | cons g outer =>
              by_cases hg : g = found
              · subst hg
                refine hpass outer (by simpa [checkFrom] using h) fun run => ?_
                rw [isCompletable_stop_iff]
                simp
              · have hfault : fault = ⟨i, .mismatch g found⟩ := by
                  simpa [checkFrom, hg, eq_comm] using h
                subst hfault
                refine ⟨0, rfl, isLongestCompletable_zero fun run hrun => ?_⟩
                obtain ⟨_, houter, -⟩ := isCompletable_stop_iff.1 hrun
                exact hg (List.cons.inj houter).1

/-- The check accepts exactly the well-nested streams. The number in a report is the length of the
longest beginning of the stream that some events complete to a well-nested one. -/
theorem checkBalance_decides (events : List Event) :
    (checkBalance events = .ok () ↔ WellNested events) ∧
      ∀ fault, checkBalance events = .error fault →
        IsGreatest {n | n ≤ events.length ∧ ∃ rest, WellNested (events.take n ++ rest)}
          fault.index := by
  constructor
  · rw [checkBalance_eq_ok_iff, balanced_iff_wellNested]
  · intro fault h
    obtain ⟨n, hindex, hn⟩ := exists_longest_of_checkFrom h
    have hset : {n | n ≤ events.length ∧ ∃ rest, WellNested (events.take n ++ rest)} =
        {n | n ≤ events.length ∧ IsCompletable [] (events.take n)} := by
      ext m
      simp only [Set.mem_ofPred_eq, IsCompletable, balanced_iff_wellNested]
    rw [hset, hindex, Nat.zero_add]
    exact hn

/-- A mapping that the stop of a sequence closes: only its start can be completed. -/
theorem checkBalance_mismatch :
    checkBalance [.start .mapping, .stop .sequence] = .error ⟨1, .mismatch .mapping .sequence⟩ ∧
      IsGreatest {n | n ≤ 2 ∧ ∃ rest, WellNested
        (([.start .mapping, .stop .sequence] : List Event).take n ++ rest)} 1 :=
  ⟨rfl, (checkBalance_decides [.start .mapping, .stop .sequence]).2 _ rfl⟩

end StackExport.Proofs.NestingFaults
