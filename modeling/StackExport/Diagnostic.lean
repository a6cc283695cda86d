/-!
What an export has to tell its user about the configuration it wrote.
-/
namespace StackExport

/-- How serious a diagnostic is. -/
inductive Severity where
  | warning
  | error
deriving DecidableEq, Repr

/-- The word for a severity. -/
def Severity.label : Severity → String
  | .warning => "warning"
  | .error => "error"

/-- A resource that could not be written, a reference that could not be resolved, or a fault that
the repair left in place. -/
structure Diagnostic where
  severity : Severity
  /-- The address of the resource, when the diagnostic concerns one. -/
  address : Option String
  summary : String
  detail : String
deriving DecidableEq, Repr

namespace Diagnostic

def error (address : Option String) (summary detail : String) : Diagnostic :=
  ⟨.error, address, summary, detail⟩

def warning (address : Option String) (summary detail : String) : Diagnostic :=
  ⟨.warning, address, summary, detail⟩

def isError (d : Diagnostic) : Bool := d.severity == .error

/-- The line that shows a diagnostic. -/
def display (d : Diagnostic) : String :=
  let address := match d.address with
    | some a => a ++ ": "
    | none => ""
  let detail := if d.detail.isEmpty then "" else "; " ++ d.detail
  d.severity.label ++ ": " ++ address ++ d.summary ++ detail

end Diagnostic

/-- The diagnostics of one export, in the order in which they were raised. -/
abbrev Diagnostics := List Diagnostic

namespace Diagnostics

/-- The number of errors. -/
def errorCount (ds : Diagnostics) : Nat := ds.countP Diagnostic.isError

/-- True when there is an error. -/
def hasErrors (ds : Diagnostics) : Bool := 0 < ds.errorCount

/-- True when there is a warning. -/
def hasWarnings (ds : Diagnostics) : Bool := ds.errorCount < ds.length

/-- The diagnostics that concern one resource. -/
def forAddress (ds : Diagnostics) (address : String) : Diagnostics :=
  ds.filter fun d => d.address == some address

/-- The lines that show the diagnostics, warnings first, so that errors end up next to the
prompt. -/
def display (ds : Diagnostics) : String :=
  let shown := ds.filter (!·.isError) ++ ds.filter (·.isError)
  String.join (shown.map fun d => d.display ++ "\n")

end Diagnostics

end StackExport
