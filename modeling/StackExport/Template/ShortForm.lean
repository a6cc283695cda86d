import StackExport.Json.Basic
import StackExport.Text.Pieces
import StackExport.Yaml.Writer
/-!
The short form of calls, in which a tag names the function: `!Ref Name` stands for an object with
the key `Ref`.
-/
namespace StackExport.Template

/-- The key of the call that a tag stands for. -/
def callKey (name : String) : String :=
  if name == "Ref" || name == "Condition" then name else "Fn::" ++ name

/-- The argument of a call in its long form. A dotted attribute text becomes a list of two. -/
def callArgument (name : String) (argument : Json) : Json :=
  match argument with
  | .string s =>
    if name == "GetAtt" then
      match Text.splitOnce? '.' s with
      | some (resource, field) => .array [.string resource, .string field]
      | none => argument
    else argument
  | _ => argument

/-- The key of an entry: a text itself, and any other value as it is written. A value without a
written form makes an empty key. -/
def keyText : Yaml.Value → String
  | .string s => s
  | value => (Yaml.write? value).getD ""

mutual

/-- The plain document of a value, with every call in its long form. Numbers that plain documents
do not have are null. -/
def longForm : Yaml.Value → Json
  | .null => .null
  | .bool b => .bool b
  | .int n => .number (.int n)
  | .float x => if x.isFinite then .number (.float x) else .null
  | .string s => .string s
  | .sequence items => .array (longFormItems items)
  | .mapping entries => .object (mergeEntries (longFormEntries entries))
  | .tagged tag value =>
    let name := String.ofList (tag.toList.dropWhile (· == '!'))
    .object [(callKey name, callArgument name (longForm value))]

/-- The plain documents of a sequence's items. -/
def longFormItems : List Yaml.Value → List Json
  | [] => []
  | item :: rest => longForm item :: longFormItems rest

/-- The plain documents of a mapping's entries. -/
def longFormEntries : List (Yaml.Value × Yaml.Value) → List (String × Json)
  | [] => []
  | (key, item) :: rest => (keyText key, longForm item) :: longFormEntries rest

end

end StackExport.Template
