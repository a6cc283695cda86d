import StackExport.Json.Reader
import StackExport.Template
import StackExport.Template.ShortForm
/-!
Reading templates from JSON or YAML.

An object with one key that names an intrinsic function is a call; its arguments are checked when
the template is read.
-/
namespace StackExport

/-- What is wrong with the arguments of a call. -/
inductive ArgumentFault where
  | count (least most found : Nat)
  | notList
  | notString
  /-- A text without the dot between a resource and its attribute. -/
  | notDotted (text : String)
  | variablesNotMap
deriving DecidableEq, Repr

/-- The words for a fault in the arguments of a call. -/
def ArgumentFault.detail : ArgumentFault → String
  | .count least most found =>
    "expected " ++ toString least ++ " to " ++ toString most ++ " arguments, got " ++
      toString found
  | .notList => "expected a list of arguments"
  | .notString => "expected a string argument"
  | .notDotted text => "'" ++ text ++ "' is not Resource.Attribute"
  | .variablesNotMap => "variables must be a map"

/-- Why a template cannot be read. -/
inductive TemplateError where
  | json
  | yaml
  | notAMapping (name : String)
  | missingType (id : String)
  | invalidIntrinsic (tag : String) (fault : ArgumentFault)
deriving DecidableEq, Repr

def TemplateError.message : TemplateError → String
  | .json => "invalid template JSON"
  | .yaml => "invalid template YAML"
  | .notAMapping name => "template " ++ name ++ " must be a mapping"
  | .missingType id => "resource '" ++ id ++ "' has no Type"
  | .invalidIntrinsic tag fault => "invalid " ++ tag ++ ": " ++ fault.detail

namespace Expr

/-- The fault of a value that is no argument list of the right length. -/
def misuse (tag : String) (least most : Nat) : Json → TemplateError
  | .array items => .invalidIntrinsic tag (.count least most items.length)
  | _ => .invalidIntrinsic tag .notList

def textArgument (tag : String) : Json → Except TemplateError String
  | .string s => .ok s
  | _ => .error (.invalidIntrinsic tag .notString)

/-- True for a key that makes an object a call. -/
def isCallKey (key : String) : Bool := key == "Ref" || key.startsWith "Fn::"

mutual

/-- Reads a value. -/
def ofJson : Json → Except TemplateError Expr
  | .null => .ok .null
  | .bool b => .ok (.bool b)
  | .number n => .ok (.number n.toFloat)
  | .string s => .ok (.string s)
  | .array items => do return .list (← ofJsonItems items)
  | .object entries =>
    match entries with
    | [(key, argument)] =>
      if isCallKey key then do return .intrinsic (← callOf key argument)
      else do return .object [(key, ← ofJson argument)]
    | entries => do return .object (← ofJsonEntries entries)

def ofJsonItems : List Json → Except TemplateError (List Expr)
  | [] => .ok []
  | item :: rest => do
    let item ← ofJson item
    return item :: (← ofJsonItems rest)

def ofJsonEntries : List (String × Json) → Except TemplateError (List (String × Expr))
  | [] => .ok []
  | (key, item) :: rest => do
    let item ← ofJson item
    return (key, item) :: (← ofJsonEntries rest)

def callOf (tag : String) (argument : Json) : Except TemplateError Intrinsic :=
  match tag with
  | "Ref" => do return .ref (← textArgument tag argument)
  | "Fn::GetAtt" =>
    match argument with
    | .string s =>
      match Text.splitOnce? '.' s with
      | some (resource, field) => .ok (.getAtt resource (.string field))
      | none => .error (.invalidIntrinsic tag (.notDotted s))
    | .array [resource, field] => do
      let resource ← textArgument tag resource
      return .getAtt resource (← ofJson field)
    | other => .error (misuse tag 2 2 other)
  | "Fn::Sub" =>
    match argument with
    | .string s => .ok (.sub s [])
    | .array [text] => do return .sub (← textArgument tag text) []
    | .array [text, .object bindings] => do
      let bindings ← ofJsonEntries bindings
      return .sub (← textArgument tag text) bindings
    | .array [_, _] => .error (.invalidIntrinsic tag .variablesNotMap)
    | other => .error (misuse tag 1 2 other)
  | "Fn::Join" =>
    match argument with
    | .array [delimiter, items] => do
      let delimiter ← textArgument tag delimiter
      return .join delimiter (← ofJson items)
    | other => .error (misuse tag 2 2 other)
  | "Fn::Select" =>
    match argument with
    | .array [index, items] => do
      let index ← ofJson index
      return .select index (← ofJson items)
    | other => .error (misuse tag 2 2 other)
  | "Fn::Split" =>
    match argument with
    | .array [delimiter, source] => do
      let delimiter ← textArgument tag delimiter
      return .split delimiter (← ofJson source)
    | other => .error (misuse tag 2 2 other)
  | "Fn::Base64" => do return .base64 (← ofJson argument)
  | "Fn::Cidr" =>
    match argument with
    | .array [block, count, bits] => do
      let block ← ofJson block
      let count ← ofJson count
      return .cidr block count (← ofJson bits)
    | other => .error (misuse tag 3 3 other)
  | "Fn::FindInMap" =>
    match argument with
    | .array [map, top, second] | .array [map, top, second, _] => do
      let map ← ofJson map
      let top ← ofJson top
      return .findInMap map top (← ofJson second)
    | other => .error (misuse tag 3 4 other)
  | "Fn::GetAZs" => do return .zones (← ofJson argument)
  | "Fn::ImportValue" => do return .importValue (← ofJson argument)
  | other => .ok (.unsupported other)

end

end Expr

namespace Template

/-- The entries of a section, which may be missing or null. -/
def sectionEntries (root : Json) (name : String) : Except TemplateError (List (String × Json)) :=
  match root.get? name with
  | none | some .null => .ok []
  | some (.object entries) => .ok entries
  | some _ => .error (.notAMapping name)

def textField (declaration : Json) (name : String) : Option String :=
  (declaration.get? name).bind Json.string?

mutual

/-- The text of a parameter's default: a list is joined by commas, and what is no text in it is
left out. -/
def defaultText : Json → Option String
  | .string s => some s
  | .number n => some n.text
  | .bool b => some (toString b)
  | .array items => some (String.intercalate "," (defaultTexts items))
  | _ => none

def defaultTexts : List Json → List String
  | [] => []
  | item :: rest =>
    match defaultText item with
    | some text => text :: defaultTexts rest
    | none => defaultTexts rest

end

/-- True for a parameter that is declared as hidden, by a boolean or by its name. -/
def isHidden (declaration : Json) : Bool :=
  match declaration.get? "NoEcho" with
  | some (.bool b) => b
  | some (.string s) => s.toList.map Char.toLower == "true".toList
  | _ => false

def parameterOf (name : String) (declaration : Json) : Parameter where
  name := name
  type := (textField declaration "Type").getD "String"
  default := (declaration.get? "Default").bind defaultText
  description := textField declaration "Description"
  hidden := isHidden declaration
  current := none

/-- The identifiers that a resource explicitly depends on. -/
def dependsOnOf (declaration : Json) : List String :=
  match declaration.get? "DependsOn" with
  | some (.string s) => [s]
  | some (.array items) => items.filterMap Json.string?
  | _ => []

def resourceOf (id : String) (declaration : Json) : Except TemplateError TemplateResource :=
  match textField declaration "Type" with
  | none => .error (.missingType id)
  | some type => do
    let properties ← match declaration.get? "Properties" with
      | some (.object entries) => Expr.ofJson (.object entries)
      | _ => .ok (.object [])
    return {
      id := id
      type := type
      properties := properties
      dependsOn := dependsOnOf declaration
      condition := textField declaration "Condition" }

def outputOf (name : String) (declaration : Json) : Except TemplateError TemplateOutput := do
  let value ← Expr.ofJson ((declaration.get? "Value").getD .null)
  return ⟨name, value, textField declaration "Description"⟩

/-- Reads a template from its document, in which calls have their long form. -/
def ofJson (root : Json) : Except TemplateError Template :=
  match root with
  | .object _ => do
    let parameters ← sectionEntries root "Parameters"
    let mappings ← sectionEntries root "Mappings"
    let conditions ← sectionEntries root "Conditions"
    let resources ← (← sectionEntries root "Resources").mapM fun (id, d) => resourceOf id d
    let outputs ← (← sectionEntries root "Outputs").mapM fun (name, d) => outputOf name d
    return {
      description := textField root "Description"
      parameters := parameters.map fun (name, d) => parameterOf name d
      mappings := mappings
      conditions := conditions.map (·.1)
      resources := resources
      outputs := outputs }
  | _ => .error (.notAMapping "root")

def parseJson (text : String) : Except TemplateError Template :=
  match Json.parse? text with
  | some root => ofJson root
  | none => .error .json

/-- Reads a template from YAML, in which calls may have their short form. -/
def parseYaml (text : String) : Except TemplateError Template :=
  match Yaml.parse? text with
  | some root => ofJson (longForm root)
  | none => .error .yaml

/-- Reads a template: JSON if it starts with a brace, and YAML otherwise. -/
def parse (text : String) : Except TemplateError Template :=
  match text.toList.dropWhile Text.isBlank with
  | '{' :: _ => parseJson text
  | _ => parseYaml text

end Template

end StackExport
