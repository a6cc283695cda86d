import StackExport.Decimal.Layout
import StackExport.Template.Expr
import StackExport.Text.Invisible
/-!
How messages show the values of a template: with the kind of each value, and with everything that
is not visible in a text written as an escape.
-/
namespace StackExport

/-- The format of numbers in messages. -/
def Decimal.Layout.message : Decimal.Layout := ⟨some (-4, 16), ".0", ""⟩

namespace Expr

/-- A character in a text in quotes. -/
def displayChar (c : Char) : String :=
  match c with
  | '\x00' => "\\0"
  | '\t' => "\\t"
  | '\n' => "\\n"
  | '\r' => "\\r"
  | '"' => "\\\""
  | '\\' => "\\\\"
  | c =>
    if Text.isInvisible c then "\\u\x7b" ++ String.ofList (Nat.toDigits 16 c.toNat) ++ "\x7d"
    else String.singleton c

/-- A text in quotes. -/
def displayText (s : String) : String :=
  "\"" ++ String.join (s.toList.map displayChar) ++ "\""

mutual

/-- The form in which messages show a value. -/
def display : Expr → String
  | .null => "Null"
  | .bool b => "Bool(" ++ toString b ++ ")"
  | .number x => "Number(" ++ Decimal.Layout.message.text x ++ ")"
  | .string s => "String(" ++ displayText s ++ ")"
  | .list items => "List([" ++ String.intercalate ", " (displayItems items) ++ "])"
  | .object entries => "Object([" ++ String.intercalate ", " (displayEntries entries) ++ "])"
  | .intrinsic call => displayCall call

def displayItems : List Expr → List String
  | [] => []
  | item :: rest => display item :: displayItems rest

/-- The forms of the entries of an object. -/
def displayEntries : List (String × Expr) → List String
  | [] => []
  | (key, item) :: rest =>
    ("(" ++ displayText key ++ ", " ++ display item ++ ")") :: displayEntries rest

/-- The form of a call. -/
def displayCall : Intrinsic → String
  | .ref name => "Intrinsic(Ref(" ++ displayText name ++ "))"
  | .getAtt resource field =>
    "Intrinsic(GetAtt \x7b logical_id: " ++ displayText resource ++ ", attribute: " ++
      display field ++ " \x7d)"
  | .sub template bindings =>
    "Intrinsic(Sub \x7b template: " ++ displayText template ++ ", variables: [" ++
      String.intercalate ", " (displayEntries bindings) ++ "] \x7d)"
  | .join delimiter items =>
    "Intrinsic(Join \x7b delimiter: " ++ displayText delimiter ++ ", items: " ++ display items ++
      " \x7d)"
  | .select index items =>
    "Intrinsic(Select \x7b index: " ++ display index ++ ", items: " ++ display items ++ " \x7d)"
  | .split delimiter source =>
    "Intrinsic(Split \x7b delimiter: " ++ displayText delimiter ++ ", source: " ++
      display source ++ " \x7d)"
  | .base64 value => "Intrinsic(Base64(" ++ display value ++ "))"
  | .cidr block count bits =>
    "Intrinsic(Cidr \x7b ip_block: " ++ display block ++ ", count: " ++ display count ++
      ", cidr_bits: " ++ display bits ++ " \x7d)"
  | .findInMap map top second =>
    "Intrinsic(FindInMap \x7b map_name: " ++ display map ++ ", top_level_key: " ++ display top ++
      ", second_level_key: " ++ display second ++ " \x7d)"
  | .zones region => "Intrinsic(GetAZs(" ++ display region ++ "))"
  | .importValue name => "Intrinsic(ImportValue(" ++ display name ++ "))"
  | .unsupported tag => "Intrinsic(Unsupported \x7b tag: " ++ displayText tag ++ " \x7d)"

end

end Expr

end StackExport
