import StackExport.Repair.Fix
import StackExport.Repair.Schedule
/-!
Repairing a configuration from the reports about it.

The document is compiled, what the reports ask for is fixed, and the document is compiled again,
until it is clean, nothing can be fixed, the same reports come back, or the rounds are used up.
-/
namespace StackExport

/-- Why a document cannot be compiled. -/
inductive CompileError where
  | failed (text : String)
  | decode (fault : DecodeError)
  | notStarted (program reason : String)
  | inaccessible (reason : String)
deriving DecidableEq, Repr

/-- The message for a document that cannot be compiled. -/
def CompileError.message : CompileError → String
  | .failed text => "trial compile failed: " ++ text
  | .decode fault => fault.message
  | .notStarted program reason => "could not start " ++ program ++ ": " ++ reason
  | .inaccessible reason => reason

/-- Compiles documents, with a memory of earlier ones, and gives the errors in them. -/
abbrev TrialCompiler (σ : Type) := σ → String → Except CompileError (List Problem) × σ

/-- The result of a repair. -/
structure RepairOutcome where
  document : String
  /-- The number of rounds in which something was fixed. -/
  rounds : Nat
  /-- The errors that the last document still has. -/
  remaining : List Problem
  /-- The number of errors that were fixed. -/
  fixed : Nat

namespace RepairOutcome

/-- True when no error is left. -/
def isClean (o : RepairOutcome) : Bool := o.remaining.isEmpty

/-- The diagnostics for the errors that are left. -/
def diagnostics (o : RepairOutcome) : Diagnostics := o.remaining.map Problem.diagnostic

end RepairOutcome

namespace Repair

/-- Applies the fixes of reports in order. Also returns the number of those that had one. -/
def fixEach (s : Script) : List Problem → Script × Nat
  | [] => (s, 0)
  | p :: rest =>
    match p.fix? s with
    | some s =>
      let (s, count) := fixEach s rest
      (s, count + 1)
    | none => fixEach s rest

/-- One round of fixes on a document. Also returns the number of reports that are dealt with. -/
def round (document : String) (problems : List Problem) : Script × Nat :=
  let (scheduled, absorbed) := schedule problems
  let (script, fixed) := fixEach (.ofText document) scheduled
  (script, absorbed + fixed)

variable {σ : Type}

/-- Goes on with a document while `left` rounds may follow. `seen` holds the reports of the rounds
before. -/
def runFrom (compile : TrialCompiler σ) (memory : σ) (document : String) (rounds fixed : Nat)
    (seen : List (List ProblemMark)) (left : Nat) : Except CompileError RepairOutcome × σ :=
  match compile memory document with
  | (.error e, memory) => (.error e, memory)
  | (.ok [], memory) => (.ok ⟨document, rounds, [], fixed⟩, memory)
  | (.ok problems, memory) =>
    let marks := problems.map Problem.mark
    match left with
    | 0 => (.ok ⟨document, rounds, problems, fixed⟩, memory)
    | left + 1 =>
      let (script, applied) := round document problems
      if seen.contains marks || applied = 0 then
        (.ok ⟨document, rounds, problems, fixed⟩, memory)
      else
        runFrom compile memory script.text (rounds + 1) (fixed + applied) (marks :: seen) left

/-- Repairs a document in at most so many rounds. -/
def run (compile : TrialCompiler σ) (memory : σ) (maxRounds : Nat) (document : String) :
    Except CompileError RepairOutcome × σ :=
  runFrom compile memory document 0 0 [] maxRounds

end Repair

end StackExport
