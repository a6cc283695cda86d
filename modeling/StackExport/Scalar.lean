import StackExport.Reference
import StackExport.Json.Basic
/-!
Scalar values of the configuration, and what a value is worth when it is decided whether to write
it.
-/
namespace StackExport

/-- A scalar value. A reference is one, and it is never quoted. -/
inductive Scalar where
  | null
  | bool (value : Bool)
  | number (value : Number)
  | string (value : String)
  | reference (value : Reference)

/-- What an attribute's value amounts to. -/
inductive Content where
  | null
  | emptyString
  | booleanFalse
  | emptyCollection
  /-- A scalar that a conditional attribute suppresses. -/
  | conditionalDefault
  | value
  | blockList
  | blockObject
  | sequence
  | mapping
deriving DecidableEq, Repr

/-- True for content that is written only where an attribute is required. -/
def Content.isEmpty : Content → Bool
  | .null | .emptyString | .booleanFalse | .emptyCollection | .conditionalDefault => true
  | _ => false

namespace Scalar

/-- The scalar that a plain value is; arrays and objects are none. -/
def ofJson? : Json → Option Scalar
  | .null => some .null
  | .bool b => some (.bool b)
  | .number n => some (.number n)
  | .string s => some (.string s)
  | .array _ | .object _ => none

/-- The plain value of a scalar; a reference is the text of its expression. -/
def toJson : Scalar → Json
  | .null => .null
  | .bool b => .bool b
  | .number n => .number n
  | .string s => .string s
  | .reference r => .string r.expression

def isQuoted : Scalar → Bool
  | .string _ => true
  | _ => false

def isNull : Scalar → Bool
  | .null => true
  | _ => false

/-- The text of a scalar in the configuration language. -/
def text : Scalar → String
  | .null => "null"
  | .bool b => toString b
  | .number n => n.configText
  | .string s => Text.quote s
  | .reference r => r.expression

/-- What a scalar amounts to. -/
def content : Scalar → Content
  | .null => .null
  | .string s => if s.isEmpty then .emptyString else .value
  | .bool false => .booleanFalse
  | _ => .value

end Scalar

end StackExport
