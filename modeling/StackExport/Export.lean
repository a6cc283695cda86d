import StackExport.Inputs
import StackExport.Repair.Loop
/-!
Exporting a stack: writing its documents and repairing the configuration.
-/
namespace StackExport

/-- Why a stack cannot be exported. -/
inductive ExportError where
  | input (fault : InputError)
  | config (fault : Provider.ConfigError)
  | compile (fault : CompileError)
  /-- The provisioning tool could not be started. -/
  | toolMissing (reason : String)
  | unwritable (path : String)
deriving DecidableEq, Repr

/-- The message for a stack that cannot be exported. -/
def ExportError.message : ExportError → String
  | .input fault => fault.message
  | .config fault => fault.message
  | .compile fault => fault.message
  | .toolMissing reason =>
    "terraform could not be started (" ++ reason ++ "); is it installed and on PATH?"
  | .unwritable path => "failed to write " ++ path

structure ExportResult where
  main : String
  assignments : String
  diagnostics : Diagnostics
  /-- The number of repair rounds; none without validation. -/
  rounds : Nat
  /-- The number of errors that were fixed. -/
  fixes : Nat

namespace ExportResult

/-- Writes the documents of a stack. -/
def ofInputs (settings : Settings) (i : Inputs) : Except ExportError ExportResult :=
  match writeDocuments i.rules settings i.stack with
  | .ok d => .ok ⟨d.main, d.assignments, d.diagnostics, 0, 0⟩
  | .error fault => .error (.config fault)

def compileFault : CompileError → ExportError
  | .notStarted _ reason => .toolMissing reason
  | fault => .compile fault

/-- Repairs the configuration. The errors that are left become diagnostics. -/
def repair {σ : Type} (settings : Settings) (compile : TrialCompiler σ) (memory : σ)
    (r : ExportResult) : Except ExportError ExportResult × σ :=
  match Repair.run compile memory settings.maxRepairRounds r.main with
  | (.error fault, memory) => (.error (compileFault fault), memory)
  | (.ok outcome, memory) =>
    (.ok { r with
      main := outcome.document
      diagnostics := r.diagnostics ++ outcome.diagnostics
      rounds := outcome.rounds
      fixes := outcome.fixed }, memory)

end ExportResult

end StackExport
