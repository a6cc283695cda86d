import StackExport.Text.Quoted
import StackExport.Decimal.Layout
/-!
Expressions of the configuration language that stand in for template intrinsics.
-/
namespace StackExport

mutual

/-- A resolved expression. It is written without quotes around it. -/
inductive Reference where
  /-- A resource, by its address; the expression is its identifier. -/
  | direct (address : String)
  /-- A resource attribute, written `address.attribute`. -/
  | indirect (path : String)
  /-- An input variable or one of its elements. -/
  | variable (name : String) (index : Option Nat)
  /-- An attribute of a data source; `isParameter` marks one that stands in for a template
  parameter. -/
  | dataSource (type name field : String) (isParameter : Bool)
  /-- An output of a child module, written `name.output`. -/
  | module (path : String)
  /-- A function call or an element of its result. -/
  | function (name : String) (args : List Argument) (index : Option Nat)
  /-- A quoted template, without its quotes; `${...}` sequences are live. -/
  | interpolation (body : String)
  /-- A look-up in the mappings object. -/
  | map (path : String)

/-- An argument of a function call. -/
inductive Argument where
  | string (value : String)
  | number (value : Float)
  | bool (value : Bool)
  | reference (value : Reference)
  | list (items : List Argument)

end

instance : Inhabited Reference := ⟨.direct ""⟩

instance : Inhabited Argument := ⟨.string ""⟩

/-- The suffix that selects an element. -/
def indexSuffix : Option Nat → String
  | some i => "[" ++ toString i ++ "]"
  | none => ""

mutual

/-- The text of an expression. -/
def Reference.expression : Reference → String
  | .direct address => address ++ ".id"
  | .indirect path => path
  | .variable name index => "var." ++ name ++ indexSuffix index
  | .dataSource type name field _ =>
    "data." ++ type ++ "." ++ name ++ "." ++ field
  | .module path => "module." ++ path
  | .function name args index =>
    name ++ "(" ++ String.intercalate ", " (Argument.expressions args) ++ ")" ++ indexSuffix index
  | .interpolation body => "\"" ++ body ++ "\""
  | .map path => path

/-- The text of an argument. -/
def Argument.expression : Argument → String
  | .string s => Text.quote s
  | .number n => Decimal.format n
  | .bool b => toString b
  | .reference r => r.expression
  | .list items => "[" ++ String.intercalate ", " (Argument.expressions items) ++ "]"

/-- The texts of the arguments of a call. -/
def Argument.expressions : List Argument → List String
  | [] => []
  | arg :: rest => arg.expression :: Argument.expressions rest

end

namespace Reference

/-- A call of a function. -/
def call (name : String) (args : List Argument) : Reference :=
  .function name args none

/-- An element of what an expression stands for. Variables, calls and look-ups take the index
themselves; anything else is wrapped in `element`. -/
def withIndex (r : Reference) (index : Nat) : Reference :=
  match r with
  | .variable name _ => .variable name (some index)
  | .function name args _ => .function name args (some index)
  | .map path => .map (path ++ indexSuffix (some index))
  | r => call "element" [.reference r, .number (UInt64.ofNat index).toFloat]

end Reference

end StackExport
