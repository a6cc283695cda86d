import StackExport.AttributeTree
import StackExport.Pseudo
import StackExport.Template
import StackExport.Template.Interpolation
import StackExport.Traits
/-!
Evaluating the values of a template against a deployed stack.

Evaluation is partial: a value of which some part is unknown has no result.
-/
namespace StackExport

/-- What is known about a deployed resource. -/
structure LiveResource where
  type : String
  physicalId : String
  attributes : Option AttributeTree

/-- A template and what is known about the stack that was deployed from it. -/
structure Stack where
  template : Template
  pseudo : PseudoValues
  table : TraitTable
  /-- The deployed resources by their identifiers in the template. -/
  resources : List (String × LiveResource)
  /-- The values that other stacks export. -/
  exports : List (String × String)

def Json.scalarText? : Json → Option String
  | .string s => some s
  | .number n => some n.text
  | .bool b => some (toString b)
  | _ => none

namespace Stack

/-- The plain value of a number: an integer where it is whole and not too large. -/
def numberValue (x : Float) : Json :=
  match Decimal.whole? x with
  | some n => .number (if n.natAbs < Nat.pow 2 63 then .int n else .float x)
  | none => if x.isFinite then .number (.float x) else .null

/-- The value of a parameter; that of a list parameter is a list. -/
def parameterValue (p : Parameter) : Option Json :=
  p.value.map fun v =>
    if p.isList then .array ((Text.splitAt ',' v).map fun s => .string (Text.trim s))
    else .string v

/-- What a name stands for: a pseudo parameter, a parameter or the physical name of a resource. -/
def evaluateRef (s : Stack) (name : String) : Option Json :=
  if name.startsWith "AWS::" then (s.pseudo.get? name).map .string
  else
    match s.template.parameter? name with
    | some p => parameterValue p
    | none => (lookup? name s.resources).map fun r => .string r.physicalId

/-- The value of a resource's attribute. -/
def evaluateGetAtt (s : Stack) (id field : String) : Option Json :=
  (lookup? id s.resources).bind fun r =>
    let name := (s.table.get r.type).mapAttributeName field
    if name == "id" then some (.string r.physicalId)
    else
      r.attributes.bind fun tree => (tree.getPath? (Path.parse name)).map AttributeTree.toJson

/-- The value of a placeholder that has none beside its text. -/
def evaluatePlaceholder (s : Stack) (name : String) : Option Json :=
  match Text.splitOnce? '.' name with
  | some (id, field) =>
    if name.startsWith "AWS::" then s.evaluateRef name
    else s.evaluateGetAtt id field
  | none => s.evaluateRef name

/-- Puts the values of placeholders into a text. -/
def fillText (s : Stack) (bindings : List (String × Option Json)) :
    List Interpolation.Part → Option String
  | [] => some ""
  | .literal text :: rest => do return text ++ (← fillText s bindings rest)
  | .placeholder name :: rest => do
    let value ← match lookup? name bindings with
      | some given => given
      | none => s.evaluatePlaceholder name
    let text ← value.scalarText?
    return text ++ (← fillText s bindings rest)

/-- The index that a value stands for. -/
def indexOf? : Json → Option Nat
  | .number n => n.word?
  | .string s => Decimal.word? (Text.trim s)
  | _ => none

def listItems? : Json → Option (List Json)
  | .array items => some items
  | _ => none

/-- An entry of a look-up table. -/
def findInMap (s : Stack) (map top second : String) : Option Json := do
  let tables ← lookup? map s.template.mappings
  let entries ← tables.get? top
  entries.get? second

mutual

/-- The value of an expression, if all of it is known. -/
def evaluate (s : Stack) : Expr → Option Json
  | .null => some .null
  | .bool b => some (.bool b)
  | .number x => some (numberValue x)
  | .string t => some (.string t)
  | .list items => (s.evaluateItems items).map .array
  | .object entries => (s.evaluateEntries entries).map .object
  | .intrinsic call => s.evaluateCall call

def evaluateItems (s : Stack) : List Expr → Option (List Json)
  | [] => some []
  | item :: rest => do
    let value ← s.evaluate item
    return value :: (← s.evaluateItems rest)

/-- The values of the entries of an object. -/
def evaluateEntries (s : Stack) : List (String × Expr) → Option (List (String × Json))
  | [] => some []
  | (key, item) :: rest => do
    let value ← s.evaluate item
    return (key, value) :: (← s.evaluateEntries rest)

/-- The values of the variables beside a text; one that is unknown matters only where the text
names it. -/
def evaluateVariables (s : Stack) : List (String × Expr) → List (String × Option Json)
  | [] => []
  | (name, item) :: rest => (name, s.evaluate item) :: s.evaluateVariables rest

/-- The value of a call. -/
def evaluateCall (s : Stack) : Intrinsic → Option Json
  | .ref name => s.evaluateRef name
  | .getAtt resource field => do
    let name ← (← s.evaluate field).scalarText?
    s.evaluateGetAtt resource name
  | .sub text bindings =>
    (s.fillText (s.evaluateVariables bindings) (Interpolation.parts text)).map .string
  | .join delimiter items => do
    let parts ← (← listItems? (← s.evaluate items)).mapM Json.scalarText?
    return .string (String.intercalate delimiter parts)
  | .select index items => do
    let index ← indexOf? (← s.evaluate index)
    let items ← listItems? (← s.evaluate items)
    items[index]?
  | .split delimiter source => do
    let text ← (← s.evaluate source).scalarText?
    return .array ((Text.splitOn delimiter text).map .string)
  | .findInMap map top second => do
    let map ← (← s.evaluate map).scalarText?
    let top ← (← s.evaluate top).scalarText?
    let second ← (← s.evaluate second).scalarText?
    s.findInMap map top second
  | .importValue name => do
    let name ← (← s.evaluate name).scalarText?
    (lookup? name s.exports).map .string
  | .base64 _ | .cidr _ _ _ | .zones _ | .unsupported _ => none

end

/-- The text of an expression's value, if it is a scalar. -/
def evaluateText (s : Stack) (e : Expr) : Option String :=
  (s.evaluate e).bind Json.scalarText?

end Stack

end StackExport
