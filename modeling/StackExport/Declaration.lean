import StackExport.Decimal.Reader
import StackExport.Entries
import StackExport.Template
import StackExport.Text.Blank
import StackExport.Text.Identifier
import StackExport.Text.Pieces
/-!
Input variables and data sources: what a configuration has to declare for its expressions.

An accumulator holds one declaration for each address; the first one for an address stays.
-/
namespace StackExport

inductive VariableType where
  | string
  | stringList
  | number
  | numberList
deriving DecidableEq, Repr

namespace VariableType

def ofParameterType (type : String) : VariableType :=
  if type == "Number" then .number
  else if type == "List<Number>" then .numberList
  else if type == "CommaDelimitedList" || type.startsWith "List<" then .stringList
  else .string

def text : VariableType → String
  | .string => "string"
  | .stringList => "list(string)"
  | .number => "number"
  | .numberList => "list(number)"

def isList : VariableType → Bool
  | .stringList | .numberList => true
  | _ => false

/-- An item of a value. Where numbers are wanted, what reads as one is written as one; anything else
is a string. -/
def itemText (numeric : Bool) (item : String) : String :=
  let item := Text.trim item
  match Decimal.float? item with
  | some x => if numeric then Decimal.format x else Text.quote item
  | none => Text.quote item

/-- The items of a list in one text, those that are blank left out. -/
def listItems (value : String) : List String :=
  (Text.splitAt ',' value).filter fun item => !(Text.trim item).isEmpty

/-- The value of a variable as a literal, a list with one item a line. -/
def literal (type : VariableType) (indent value : String) : String :=
  match type with
  | .string => Text.quote value
  | .number => itemText true value
  | .stringList | .numberList =>
    let items := listItems value
    if items.isEmpty then "[]"
    else
      "[\n" ++ String.join (items.map fun item =>
        indent ++ "  " ++ itemText (type == .numberList) item ++ ",\n") ++ indent ++ "]"

def assignedLiteral (type : VariableType) (value : String) : String :=
  if type.isList then
    let items := (listItems value).map (itemText (type == .numberList))
    if items.isEmpty then "[]" else "[ " ++ String.intercalate ", " items ++ " ]"
  else type.literal "" value

end VariableType

/-- An input variable, which stands for a template parameter. -/
structure Variable where
  name : String
  type : VariableType
  description : Option String
  default : Option String
  /-- The value with which the stack was deployed. -/
  current : Option String
  sensitive : Bool
deriving DecidableEq, Repr

namespace Variable

def address (v : Variable) : String := "var." ++ v.name

def block (v : Variable) : String :=
  let description := match v.description with
    | some d => "  description = " ++ Text.quote d ++ "\n"
    | none => ""
  let sensitive := if v.sensitive then "  sensitive   = true\n" else ""
  let default := match v.default with
    | some d => "  default     = " ++ v.type.literal "  " d ++ "\n"
    | none => ""
  "variable " ++ Text.quote v.name ++ " \x7b\n" ++ "  type        = " ++ v.type.text ++ "\n" ++
    description ++ sensitive ++ default ++ "\x7d\n"

end Variable

/-- A data source: a look-up with its arguments, sorted by name. -/
structure DataSource where
  type : String
  name : String
  arguments : List (String × String)
deriving DecidableEq, Repr

namespace DataSource

def address (d : DataSource) : String := "data." ++ d.type ++ "." ++ d.name

def block (d : DataSource) : String :=
  let head := "data " ++ Text.quote d.type ++ " " ++ Text.quote d.name ++ " \x7b"
  if d.arguments.isEmpty then head ++ "\x7d\n"
  else
    head ++ "\n" ++ String.join (d.arguments.map fun (name, value) =>
      "  " ++ Text.objectKey name ++ " = " ++ Text.quote value ++ "\n") ++ "\x7d\n"

end DataSource

inductive Declaration where
  | variable (value : Variable)
  | dataSource (value : DataSource)
deriving DecidableEq, Repr

namespace Declaration

def name : Declaration → String
  | .variable v => v.name
  | .dataSource d => d.name

def address : Declaration → String
  | .variable v => v.address
  | .dataSource d => d.address

def block : Declaration → String
  | .variable v => v.block
  | .dataSource d => d.block

/-- The declaration for a template parameter: a look-up for one that names an entry of the
parameter store, and a variable for any other. -/
def ofParameter (p : Parameter) : Declaration :=
  if p.isStored then
    .dataSource ⟨"aws_ssm_parameter", p.name, [("name", p.default.getD "")]⟩
  else
    .variable ⟨p.name, .ofParameterType p.type, p.description, p.default, p.current, p.hidden⟩

def asVariable? : Declaration → Option Variable
  | .variable v => some v
  | _ => none

def asDataSource? : Declaration → Option DataSource
  | .dataSource d => some d
  | _ => none

end Declaration

/-- The declarations of a configuration, in the order in which they were found. -/
abbrev Declarations := List Declaration

namespace Declarations

def has (ds : Declarations) (address : String) : Bool :=
  ds.any (·.address == address)

/-- Adds a declaration unless there is one for its address. -/
def register (ds : Declarations) (d : Declaration) : Declarations :=
  if ds.has d.address then ds else ds ++ [d]

def ofTemplate (t : Template) : Declarations :=
  (t.parameters.map Declaration.ofParameter).foldl register []

def inputs (ds : Declarations) : List Variable := ds.filterMap Declaration.asVariable?

def dataSources (ds : Declarations) : List DataSource := ds.filterMap Declaration.asDataSource?

/-- The variables, sorted by name. -/
def sortedVariables (ds : Declarations) : List Variable :=
  ds.inputs.mergeSort fun a b => a.name ≤ b.name

/-- The data sources, sorted by name and then by type. -/
def sortedDataSources (ds : Declarations) : List DataSource :=
  ds.dataSources.mergeSort fun a b => a.name < b.name || (a.name == b.name && a.type ≤ b.type)

/-- The blocks of all declarations, the variables first. -/
def blocks (ds : Declarations) : String :=
  String.join (ds.sortedVariables.map fun v => v.block ++ "\n") ++
    String.join (ds.sortedDataSources.map fun d => d.block ++ "\n")

/-- The comment at the head of a file of variable values. -/
def banner (stackName : String) : String :=
  let rule := String.ofList (List.replicate 67 '#') ++ "\n"
  rule ++ "#\n" ++ "# Variable values as per current state of stack \"" ++ stackName ++ "\"\n" ++
    "#\n" ++ rule ++ "\n"

/-- The file of variable values: an assignment for each variable whose value is known. -/
def assignments (ds : Declarations) (stackName : String) : String :=
  banner stackName ++ String.join (ds.sortedVariables.map fun v =>
    match v.current with
    | some value => v.name ++ " = " ++ v.type.assignedLiteral value ++ "\n\n"
    | none => "")

end Declarations

end StackExport
