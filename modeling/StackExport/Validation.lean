import StackExport.Export
import StackExport.Workspace
/-!
Compiling a configuration with the provisioning tool, and writing the documents of an export.
-/
namespace StackExport

/-- The names of the documents of an export. -/
def mainFile : String := "main.tf"

/-- The name of the file of variable values. -/
def assignmentsFile : String := "terraform.tfvars"

structure ToolRun where
  status : Nat
  output : String
  errors : String
deriving DecidableEq, Repr

/-- Runs the tool with arguments in a directory, or tells why it cannot be started. -/
abbrev Tool := Workspace → List String → List String → Except String ToolRun

/-- The files of a validation, and whether the tool has been set up in their directory. -/
structure Session where
  workspace : Workspace
  initialized : Bool

namespace Session

def failure (r : ToolRun) : CompileError :=
  let text := Text.trim r.errors
  .failed (if text.isEmpty then "terraform exited with exit status: " ++ toString r.status else text)

/-- Runs the tool. -/
def start (tool : Tool) (program : String) (directory arguments : List String) (s : Session) :
    Except CompileError ToolRun :=
  (tool s.workspace directory arguments).mapError (.notStarted program)

/-- Sets the tool up, unless that has been done. -/
def initialize? (tool : Tool) (program : String) (directory : List String) (s : Session) :
    Except CompileError Session :=
  if s.initialized then .ok s
  else
    match s.start tool program directory ["init", "-backend=false", "-input=false", "-no-color"] with
    | .error e => .error e
    | .ok r => if r.status = 0 then .ok { s with initialized := true } else .error (failure r)

/-- The errors that the tool reports. It ends with a failure when there are some, so only a run
without output has failed. -/
def validate (tool : Tool) (program : String) (directory : List String) (s : Session) :
    Except CompileError (List Problem) := do
  let r ← s.start tool program directory ["validate", "-json", "-no-color"]
  if (Text.trim r.output).isEmpty then throw (failure r)
  (Problem.ofDocument r.output).mapError .decode

def compiler (tool : Tool) (program : String) (directory : List String) :
    TrialCompiler Session := fun s document =>
  match s.workspace.write? directory mainFile document with
  | none => (.error (.inaccessible "cannot write the configuration"), s)
  | some workspace =>
    match initialize? tool program directory { s with workspace := workspace } with
    | .error e => (.error e, { s with workspace := workspace })
    | .ok s => (s.validate tool program directory, s)

end Session

/-- Writes the documents of an export into a directory. -/
def ExportResult.save (r : ExportResult) (w : Workspace) (directory : List String)
    (shown : String) : Except ExportError Workspace :=
  if !w.canEnter directory then .error (.unwritable shown)
  else
    match w.write? directory mainFile r.main with
    | none => .error (.unwritable mainFile)
    | some w =>
      match w.write? directory assignmentsFile r.assignments with
      | none => .error (.unwritable assignmentsFile)
      | some w => .ok w

end StackExport
