import StackExport.Decimal.Layout
import StackExport.Entries
/-!
JSON values whose objects keep the order of their keys.

A number is an integer or a binary floating point number; the two never compare equal, not even
`0` and `0.0`.
-/
namespace StackExport

/-- A JSON number. -/
inductive Number where
  | int (value : Int)
  | float (value : Float)

namespace Number

/-- Numbers of one kind with equal values. -/
def beq : Number → Number → Bool
  | .int a, .int b => a == b
  | .float a, .float b => a == b
  | _, _ => false

instance : BEq Number := ⟨beq⟩

/-- The text of a number in a JSON document. -/
def text : Number → String
  | .int n => toString n
  | .float x => Decimal.Layout.json.text x

def configText : Number → String
  | .int n => toString n
  | .float x => Decimal.format x

/-- The number nearest to a value, as a binary floating point number. -/
def toFloat : Number → Float
  | .int n => if n < 0 then -(Float.ofNat n.natAbs) else Float.ofNat n.natAbs
  | .float x => x

/-- The value as a word of 64 bits, if it is a nonnegative integer. -/
def word? : Number → Option Nat
  | .int n => if 0 ≤ n then some n.toNat else none
  | .float _ => none

end Number

/-- A JSON value. -/
inductive Json where
  | null
  | bool (value : Bool)
  | number (value : Number)
  | string (value : String)
  | array (items : List Json)
  | object (entries : List (String × Json))

instance : Inhabited Json := ⟨.null⟩

namespace Json

mutual

/-- Equality of values; the order of keys does not matter to it. -/
def beq : Json → Json → Bool
  | .null, .null => true
  | .bool a, .bool b => a == b
  | .number a, .number b => a == b
  | .string a, .string b => a == b
  | .array a, .array b => beqList a b
  | .object a, .object b => a.length == b.length && beqEntries a b
  | _, _ => false

/-- Equality of lists of values, item by item. -/
def beqList : List Json → List Json → Bool
  | [], [] => true
  | a :: as, b :: bs => beq a b && beqList as bs
  | _, _ => false

/-- True when every entry of the first object has an equal one in the second. -/
def beqEntries : List (String × Json) → List (String × Json) → Bool
  | [], _ => true
  | (k, v) :: rest, other =>
    (match lookup? k other with
      | some w => beq v w
      | none => false) && beqEntries rest other

end

instance : BEq Json := ⟨beq⟩

/-- The entry of an object under a key. -/
def get? (key : String) : Json → Option Json
  | .object entries => lookup? key entries
  | _ => none

/-- The text of a string value. -/
def string? : Json → Option String
  | .string s => some s
  | _ => none

/-- The entries of an object; anything else has none. -/
def entries : Json → List (String × Json)
  | .object entries => entries
  | _ => []

end Json

end StackExport
