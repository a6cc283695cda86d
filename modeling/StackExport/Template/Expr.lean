import StackExport.Decimal.Reader
import StackExport.Decimal.Shortest
import StackExport.Text.Blank
/-!
The values of a template: literals and calls of intrinsic functions.

`Expr.intrinsics` gives the outermost calls of a value, which are rendered and evaluated as a whole.
-/
namespace StackExport

mutual

/-- A value of a template. -/
inductive Expr where
  | null
  | bool (value : Bool)
  | number (value : Float)
  | string (value : String)
  | list (items : List Expr)
  /-- Entries in the order of the template. -/
  | object (entries : List (String × Expr))
  | intrinsic (call : Intrinsic)
deriving Repr

/-- A call of an intrinsic function. -/
inductive Intrinsic where
  /-- A parameter, pseudo parameter or resource. -/
  | ref (name : String)
  /-- An attribute of a resource; its name may itself be a call. -/
  | getAtt (resource : String) (field : Expr)
  /-- A text with placeholders, some of which stand for values given beside it. -/
  | sub (template : String) (bindings : List (String × Expr))
  | join (delimiter : String) (items : Expr)
  | select (index items : Expr)
  | split (delimiter : String) (source : Expr)
  | base64 (value : Expr)
  | cidr (block count bits : Expr)
  | findInMap (map top second : Expr)
  /-- The zones of a region. -/
  | zones (region : Expr)
  | importValue (name : Expr)
  /-- A function that is only known by name. -/
  | unsupported (tag : String)
deriving Repr

end

instance : Inhabited Expr := ⟨.null⟩

instance : Inhabited Intrinsic := ⟨.ref ""⟩

/-- The key under which a template writes a call. -/
def Intrinsic.tag : Intrinsic → String
  | .ref _ => "Ref"
  | .getAtt _ _ => "Fn::GetAtt"
  | .sub _ _ => "Fn::Sub"
  | .join _ _ => "Fn::Join"
  | .select _ _ => "Fn::Select"
  | .split _ _ => "Fn::Split"
  | .base64 _ => "Fn::Base64"
  | .cidr _ _ _ => "Fn::Cidr"
  | .findInMap _ _ _ => "Fn::FindInMap"
  | .zones _ => "Fn::GetAZs"
  | .importValue _ => "Fn::ImportValue"
  | .unsupported tag => tag

namespace Expr

/-- The text of a string. -/
def string? : Expr → Option String
  | .string s => some s
  | _ => none

/-- The call that a value is. -/
def intrinsic? : Expr → Option Intrinsic
  | .intrinsic call => some call
  | _ => none

/-- The index that a nonnegative whole number or the text of one stands for; a number that is too
large for a word counts as the largest one. -/
def index? : Expr → Option Nat
  | .number x => (Decimal.whole? x).bind fun n =>
    if 0 ≤ n then some (min n.toNat (Nat.pow 2 64 - 1)) else none
  | .string s => Decimal.word? (Text.trim s)
  | _ => none

mutual

/-- The outermost calls in a value, in the order of the template. -/
def intrinsics : Expr → List Intrinsic
  | .intrinsic call => [call]
  | .list items => intrinsicsOfItems items
  | .object entries => intrinsicsOfEntries entries
  | _ => []

/-- The outermost calls in the items of a list. -/
def intrinsicsOfItems : List Expr → List Intrinsic
  | [] => []
  | item :: rest => item.intrinsics ++ intrinsicsOfItems rest

/-- The outermost calls in the values of an object. -/
def intrinsicsOfEntries : List (String × Expr) → List Intrinsic
  | [] => []
  | (_, item) :: rest => item.intrinsics ++ intrinsicsOfEntries rest

end

end Expr

end StackExport
