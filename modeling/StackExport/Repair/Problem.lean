import StackExport.Diagnostic
import StackExport.Json.Record
import StackExport.Text.Blank
import StackExport.Text.Pieces
/-!
What the provisioning tool reports about a configuration.

Its machine-readable output is a list of lines, each a document of its own, or one document with a
list of findings.
-/
namespace StackExport

/-- A place in a file. Lines and columns count from one on, bytes from zero. -/
structure Position where
  line : Nat
  column : Nat
  byte : Nat
deriving DecidableEq, Repr

/-- A part of a file. -/
structure SourceRange where
  filename : String
  first : Position
  last : Position
deriving DecidableEq, Repr

/-- The text that a finding is about. -/
structure Snippet where
  /-- The header of the block around the text. -/
  context : Option String
  code : String
  startLine : Nat
  highlightStart : Nat
  highlightEnd : Nat
  values : List Json

/-- What the tool found. -/
structure Finding where
  severity : String
  summary : String
  detail : String
  address : Option String
  range : Option SourceRange
  snippet : Option Snippet

/-- A report, with the finding that it is about. -/
structure Problem where
  level : String
  message : String
  module : String
  timestamp : String
  type : String
  finding : Option Finding

/-- What a report asks for, judged by its headline. -/
inductive ProblemKind where
  | missingAttributeSeparator
  | missingRequiredArgument
  | unconfigurableAttribute
  | invalidOrUnknownKey
  | unrecognized
deriving DecidableEq, Repr

/-- The kind of a report with a headline, which may start with a word for its severity. -/
def ProblemKind.ofHeadline (headline : String) : ProblemKind :=
  match (Text.dropStart? "Error: " headline).getD headline with
  | "Missing attribute separator" => .missingAttributeSeparator
  | "Missing required argument" => .missingRequiredArgument
  | "Value for unconfigurable attribute" => .unconfigurableAttribute
  | "Invalid or unknown key" => .invalidOrUnknownKey
  | _ => .unrecognized

/-! ### Reading -/

/-- A count or place. -/
def Json.size? : Json.Draft → Option Nat := Json.word? 64

/-- Reads a place. -/
def Position.ofDraft? (draft : Json.Draft) : Option Position := do
  let fields ← draft.record? ["line", "column", "byte"]
  return {
    line := ← Json.required? fields "line" Json.size?
    column := ← Json.required? fields "column" Json.size?
    byte := ← Json.required? fields "byte" Json.size? }

/-- Reads a part of a file. -/
def SourceRange.ofDraft? (draft : Json.Draft) : Option SourceRange := do
  let fields ← draft.record? ["filename", "start", "end"]
  return {
    filename := ← Json.defaulted? fields "filename" "" Json.text?
    first := ← Json.required? fields "start" Position.ofDraft?
    last := ← Json.required? fields "end" Position.ofDraft? }

/-- Reads a snippet. -/
def Snippet.ofDraft? (draft : Json.Draft) : Option Snippet := do
  let fields ← draft.record? ["context", "code", "start_line", "highlight_start_offset",
    "highlight_end_offset", "values"]
  return {
    context := ← Json.defaulted? fields "context" none (Json.nullable? Json.text?)
    code := ← Json.defaulted? fields "code" "" Json.text?
    startLine := ← Json.defaulted? fields "start_line" 0 Json.size?
    highlightStart := ← Json.defaulted? fields "highlight_start_offset" 0 Json.size?
    highlightEnd := ← Json.defaulted? fields "highlight_end_offset" 0 Json.size?
    values := ← Json.defaulted? fields "values" [] (Json.list? Json.any?) }

/-- Reads a finding. -/
def Finding.ofDraft? (draft : Json.Draft) : Option Finding := do
  let fields ← draft.record? ["severity", "summary", "detail", "address", "range", "snippet"]
  return {
    severity := ← Json.defaulted? fields "severity" "" Json.text?
    summary := ← Json.defaulted? fields "summary" "" Json.text?
    detail := ← Json.defaulted? fields "detail" "" Json.text?
    address := ← Json.defaulted? fields "address" none (Json.nullable? Json.text?)
    range := ← Json.defaulted? fields "range" none (Json.nullable? SourceRange.ofDraft?)
    snippet := ← Json.defaulted? fields "snippet" none (Json.nullable? Snippet.ofDraft?) }

namespace Problem

/-- Reads a report. -/
def ofDraft? (draft : Json.Draft) : Option Problem := do
  let fields ← draft.record?
    ["@level", "@message", "@module", "@timestamp", "type", "diagnostic"]
  return {
    level := ← Json.defaulted? fields "@level" "" Json.text?
    message := ← Json.defaulted? fields "@message" "" Json.text?
    module := ← Json.defaulted? fields "@module" "" Json.text?
    timestamp := ← Json.defaulted? fields "@timestamp" "" Json.text?
    type := ← Json.defaulted? fields "type" "" Json.text?
    finding := ← Json.defaulted? fields "diagnostic" none (Json.nullable? Finding.ofDraft?) }

/-! ### Making reports -/

/-- The name of the part of the tool that reports findings. -/
def reporter : String := "terraform.ui"

/-- A report of an error. -/
def error (summary detail : String) : Problem :=
  ⟨"error", "Error: " ++ summary, reporter, "", "diagnostic",
    some ⟨"error", summary, detail, none, none, none⟩⟩

/-- The report with another finding. -/
def withFinding (p : Problem) (change : Finding → Finding) : Problem :=
  { p with finding := p.finding.map change }

/-- The report of an error in some lines of a file. -/
def inLines (p : Problem) (filename : String) (first last : Nat) : Problem :=
  p.withFinding fun f => { f with range := some ⟨filename, ⟨first, 1, 0⟩, ⟨last, 1, 0⟩⟩ }

/-- The report with the text that it is about. -/
def about (p : Problem) (context : Option String) (code : String) : Problem :=
  p.withFinding fun f =>
    let line := match f.range with
      | some r => r.first.line
      | none => 0
    { f with snippet := some ⟨context, code, line, 0, 0, []⟩ }

/-- A word with a capital first letter, if that is an ASCII letter. -/
def capitalize (word : String) : String :=
  match word.toList with
  | c :: rest => String.ofList (c.toUpper :: rest)
  | [] => ""

/-- The report of a finding that came without one; no severity means an error. -/
def ofFinding (f : Finding) : Problem :=
  let severity := if f.severity.isEmpty then "error" else f.severity
  ⟨severity, capitalize severity ++ ": " ++ f.summary, reporter, "", "diagnostic", some f⟩

/-! ### Properties -/

/-- The headline: the summary of the finding, or else the message. -/
def summary (p : Problem) : String :=
  match p.finding with
  | some f => if f.summary.isEmpty then p.message else f.summary
  | none => p.message

/-- What a report asks for. -/
def kind (p : Problem) : ProblemKind := .ofHeadline p.summary

/-- True for the report of an error. -/
def isError (p : Problem) : Bool := p.level == "error"

/-- The part of a file that a report is about. -/
def range (p : Problem) : Option SourceRange := p.finding.bind (·.range)

/-- The text that a report is about. -/
def snippet (p : Problem) : Option Snippet := p.finding.bind (·.snippet)

/-- The first line that a report is about. -/
def line (p : Problem) : Option Nat := p.range.map (·.first.line)

/-- The diagnostic for a report. -/
def diagnostic (p : Problem) : Diagnostic :=
  let address := p.finding.bind (·.address)
  let detail := match p.finding with
    | some f => f.detail
    | none => ""
  let detail := match p.line with
    | some line =>
      if detail.isEmpty then "at line " ++ toString line
      else detail ++ " (line " ++ toString line ++ ")"
    | none => detail
  .error address p.summary detail

end Problem

/-- What two rounds of reports must share to count as the same. -/
structure ProblemMark where
  summary : String
  range : Option SourceRange
  snippet : Option (Option String × String × Nat × Nat × Nat)
deriving DecidableEq, Repr

/-- The mark of a report. -/
def Problem.mark (p : Problem) : ProblemMark where
  summary := p.summary
  range := p.range
  snippet := p.snippet.map fun s =>
    (s.context, s.code, s.startLine, s.highlightStart, s.highlightEnd)

/-! ### Output of the tool -/

/-- Why output of the tool cannot be read. -/
inductive DecodeError where
  /-- The number of a line, counted from one on. -/
  | badLine (line : Nat)
  | badDocument
deriving DecidableEq, Repr

/-- The message for output that cannot be read. -/
def DecodeError.message : DecodeError → String
  | .badLine line => "invalid diagnostic on output line " ++ toString line
  | .badDocument => "invalid validate output"

namespace Problem

/-- The errors among numbered lines of output. Blank lines are passed over. -/
def ofNumberedLines : List (String × Nat) → Except DecodeError (List Problem)
  | [] => .ok []
  | (line, index) :: rest =>
    let line := Text.trim line
    if line.isEmpty then ofNumberedLines rest
    else
      match Json.parseRecord? ofDraft? line with
      | none => .error (.badLine (index + 1))
      | some p => do
        let others ← ofNumberedLines rest
        return if p.type == "diagnostic" && p.isError then p :: others else others

/-- The errors in output of one document a line. -/
def ofLines (text : String) : Except DecodeError (List Problem) :=
  ofNumberedLines (Text.lines text).zipIdx

/-- The findings of a document. -/
def findings? (draft : Json.Draft) : Option (List Finding) := do
  let fields ← draft.record? ["diagnostics"]
  Json.defaulted? fields "diagnostics" [] (Json.list? Finding.ofDraft?)

/-- The errors in output of a single document. -/
def ofDocument (text : String) : Except DecodeError (List Problem) :=
  match Json.parseRecord? findings? text with
  | some found => .ok ((found.map ofFinding).filter isError)
  | none => .error .badDocument

end Problem

end StackExport
