import Mathlib
import StackExport.Repair.Loop
/-!
Runs of the repair loop against any compiler.

A compiler that keeps a record shows the calls of a run. Whatever they are answered, the outcome is
about the document of the last call, and the first fault ends the run.
-/
namespace StackExport.Proofs.RepairRun

open StackExport
open StackExport.Repair

/-- A document that was compiled, with the answer to it. -/
structure Call where
  document : String
  answer : Except CompileError (List Problem)

def Call.fault? (call : Call) : Option CompileError :=
  match call.answer with
  | .ok _ => none
  | .error e => some e

/-- A compiler that appends each of its calls to a record. -/
def recording {σ : Type} (compile : TrialCompiler σ) : TrialCompiler (σ × List Call) :=
  fun (memory, calls) document =>
    let (answer, memory) := compile memory document
    (answer, memory, calls ++ [⟨document, answer⟩])

variable {σ : Type} {compile : TrialCompiler σ} {memory memory' : σ} {document : String}
  {problems : List Problem} {seen : List (List ProblemMark)} {calls : List Call}
  {result : Except CompileError RepairOutcome}

theorem recording_eq {answer : Except CompileError (List Problem)}
    (h : compile memory document = (answer, memory')) (earlier : List Call) :
    recording compile (memory, earlier) document =
      (answer, memory', earlier ++ [⟨document, answer⟩]) := by
  simp only [recording, h]

/-! ### One call -/

/-- True when no round follows on the reports about a document. -/
def Ends (document : String) (problems : List Problem) (seen : List (List ProblemMark))
    (left : Nat) : Prop :=
  problems = [] ∨ left = 0 ∨ problems.map Problem.mark ∈ seen ∨ (round document problems).2 = 0

theorem runFrom_error {e : CompileError} (h : compile memory document = (.error e, memory'))
    (rounds fixed : Nat) (seen : List (List ProblemMark)) (left : Nat) :
    runFrom compile memory document rounds fixed seen left = (.error e, memory') := by
  unfold runFrom
  rw [h]

theorem runFrom_of_ends {left : Nat} (h : compile memory document = (.ok problems, memory'))
    (hends : Ends document problems seen left) (rounds fixed : Nat) :
    runFrom compile memory document rounds fixed seen left =
      (.ok ⟨document, rounds, problems, fixed⟩, memory') := by
  unfold runFrom
  rw [h]
  cases problems with
  | nil => rfl
  | cons p rest =>
      cases left with
      | zero => rfl
      | succ left =>
          have hstop : (seen.contains ((p :: rest).map Problem.mark) ||
              decide ((round document (p :: rest)).2 = 0)) = true := by
            rcases hends with hnil | hleft | hseen | hround
            · cases hnil
            · cases hleft
            · rw [List.contains_iff_mem.mpr hseen]
              rfl
            · rw [decide_eq_true hround, Bool.or_true]
          exact if_pos hstop

theorem runFrom_of_not_ends {left : Nat} (h : compile memory document = (.ok problems, memory'))
    (hends : ¬ Ends document problems seen left) (rounds fixed : Nat) :
    ∃ left', left = left' + 1 ∧ 0 < (round document problems).2 ∧
      runFrom compile memory document rounds fixed seen left =
        runFrom compile memory' (round document problems).1.text (rounds + 1)
          (fixed + (round document problems).2) (problems.map Problem.mark :: seen) left' := by
  obtain ⟨hnil, hleft, hseen, hround⟩ : problems ≠ [] ∧ left ≠ 0 ∧
      problems.map Problem.mark ∉ seen ∧ (round document problems).2 ≠ 0 := by
    simpa [Ends] using hends
  obtain ⟨left, rfl⟩ := Nat.exists_eq_succ_of_ne_zero hleft
  refine ⟨left, rfl, Nat.pos_of_ne_zero hround, ?_⟩
  have hgoes : ¬ (seen.contains (problems.map Problem.mark) ||
      decide ((round document problems).2 = 0)) = true := by
    simp [hseen, hround]
  conv_lhs => unfold runFrom
  rw [h]
  cases problems with
  | nil => exact absurd rfl hnil
  | cons p rest => exact if_neg hgoes

/-! ### All calls -/

/-- What a run owes to the calls it makes, when it begins after so many rounds and fixes and with so
many rounds left. -/
structure Accounts (document : String) (rounds fixed left : Nat) (calls : List Call)
    (result : Except CompileError RepairOutcome) : Prop where
  started : calls.head?.map Call.document = some document
  bounded : calls.length ≤ left + 1
  refused : ∀ e, calls.findSome? Call.fault? = some e →
    result = .error e ∧ calls.getLast?.bind Call.fault? = some e
  answered : calls.findSome? Call.fault? = none → ∃ o, result = .ok o ∧
    calls.getLast? = some ⟨o.document, .ok o.remaining⟩ ∧
    o.rounds + 1 = rounds + calls.length ∧ fixed + calls.length ≤ o.fixed + 1 ∧
    (calls.length = 1 → o.document = document)

theorem accounts_error (document : String) (e : CompileError) (rounds fixed left : Nat) :
    Accounts document rounds fixed left [⟨document, .error e⟩] (.error e) where
  started := rfl
  bounded := by simp
  refused := by
    intro e' he
    have he : some e = some e' := he
    exact ⟨by rw [Option.some.inj he], he⟩
  answered := nofun

theorem accounts_ends (document : String) (problems : List Problem) (rounds fixed left : Nat) :
    Accounts document rounds fixed left [⟨document, .ok problems⟩]
      (.ok ⟨document, rounds, problems, fixed⟩) where
  started := rfl
  bounded := by simp
  refused := nofun
  answered := fun _ => ⟨_, rfl, rfl, rfl, le_rfl, fun _ => rfl⟩

/-- A call in front of a run takes one round, in which something was fixed. -/
theorem Accounts.cons {document' : String} {rounds fixed applied left : Nat}
    (h : Accounts document' (rounds + 1) (fixed + applied) left calls result) (happlied : 0 < applied)
    (document : String) (problems : List Problem) :
    Accounts document rounds fixed (left + 1) (⟨document, .ok problems⟩ :: calls) result := by
  obtain ⟨first, rest, rfl⟩ : ∃ first rest, calls = first :: rest := by
    cases calls with
    | nil => exact absurd h.started (by simp)
    | cons first rest => exact ⟨first, rest, rfl⟩
  have hlast (call : Call) :
      (call :: first :: rest).getLast? = (first :: rest).getLast? := List.getLast?_cons_cons
  refine ⟨rfl, ?_, ?_, ?_⟩
  · have := h.bounded
    simp only [List.length_cons] at this ⊢
    omega
  · intro e he
    rw [hlast]
    exact h.refused e he
  · intro hnone
    obtain ⟨o, hresult, hend, hrounds, hfixed, -⟩ := h.answered hnone
    refine ⟨o, hresult, ?_, ?_, ?_, ?_⟩
    · rw [hlast, hend]
    · simp only [List.length_cons] at hrounds ⊢
      omega
    · simp only [List.length_cons] at hfixed ⊢
      omega
    · intro hone
      simp at hone

/-- Recording changes nothing in a run, and what it records accounts for the result. -/
theorem runFrom_recording (compile : TrialCompiler σ) (left : Nat) :
    ∀ (memory : σ) (document : String) (rounds fixed : Nat) (seen : List (List ProblemMark))
      (earlier : List Call), ∃ calls,
        runFrom (recording compile) (memory, earlier) document rounds fixed seen left =
          ((runFrom compile memory document rounds fixed seen left).1,
            (runFrom compile memory document rounds fixed seen left).2, earlier ++ calls) ∧
        Accounts document rounds fixed left calls
          (runFrom compile memory document rounds fixed seen left).1 := by
  induction left using Nat.strong_induction_on with
  | _ left ih =>
    intro memory document rounds fixed seen earlier
    rcases hcall : compile memory document with ⟨e | problems, memory'⟩
    · refine ⟨[⟨document, .error e⟩], ?_, ?_⟩
      · rw [runFrom_error (recording_eq hcall earlier), runFrom_error hcall]
      · rw [runFrom_error hcall]
        exact accounts_error document e rounds fixed left
    · by_cases hends : Ends document problems seen left
      · refine ⟨[⟨document, .ok problems⟩], ?_, ?_⟩
        · rw [runFrom_of_ends (recording_eq hcall earlier) hends, runFrom_of_ends hcall hends]
        · rw [runFrom_of_ends hcall hends]
          exact accounts_ends document problems rounds fixed left
      · obtain ⟨left, rfl, happlied, hrun⟩ := runFrom_of_not_ends hcall hends rounds fixed
        obtain ⟨left', hleft, -, hrecorded⟩ :=
          runFrom_of_not_ends (recording_eq hcall earlier) hends rounds fixed
        obtain rfl : left = left' := by omega
        obtain ⟨calls, hcalls, haccounts⟩ := ih left (by omega) memory'
          (round document problems).1.text (rounds + 1) (fixed + (round document problems).2)
          (problems.map Problem.mark :: seen) (earlier ++ [⟨document, .ok problems⟩])
        refine ⟨⟨document, .ok problems⟩ :: calls, ?_, ?_⟩
        · rw [hrecorded, hrun, hcalls, List.append_assoc, List.singleton_append]
        · rw [hrun]
          exact haccounts.cons happlied document problems

/-- Every run is a list of calls, at most one more than it may take rounds. The first fault is the
last answer and the result. Without a fault the outcome tells of the last call: its document, and
the reports it was answered. -/
theorem run_accounts (compile : TrialCompiler σ) (memory : σ) (maxRounds : Nat)
    (document : String) :
    ∃ calls : List Call,
      run (recording compile) (memory, []) maxRounds document =
        ((run compile memory maxRounds document).1, (run compile memory maxRounds document).2,
          calls) ∧
      calls.length ≤ maxRounds + 1 ∧
      calls.head?.map Call.document = some document ∧
      (∀ e, calls.findSome? Call.fault? = some e →
        (run compile memory maxRounds document).1 = .error e ∧
        calls.getLast?.bind Call.fault? = some e) ∧
      (calls.findSome? Call.fault? = none →
        ∃ o, (run compile memory maxRounds document).1 = .ok o ∧
          calls.getLast? = some ⟨o.document, .ok o.remaining⟩ ∧
          (o.isClean = true ↔ calls.getLast?.map Call.answer = some (.ok [])) ∧
          o.rounds ≤ maxRounds ∧
          o.rounds + 1 = calls.length ∧
          o.rounds ≤ o.fixed ∧
          (o.rounds = 0 → o.document = document)) := by
  obtain ⟨calls, hcalls, haccounts⟩ := runFrom_recording compile maxRounds memory document 0 0 [] []
  refine ⟨calls, hcalls, haccounts.bounded, haccounts.started, haccounts.refused, ?_⟩
  intro hnone
  have hbound := haccounts.bounded
  obtain ⟨o, hresult, hlast, hrounds, hfixed, hsame⟩ := haccounts.answered hnone
  refine ⟨o, hresult, hlast, ?_, by omega, by omega, by omega, fun hzero => hsame (by omega)⟩
  rw [hlast]
  simp [RepairOutcome.isClean]

end StackExport.Proofs.RepairRun
