import StackExport.Document
import StackExport.Schema.Reader
import StackExport.Template.Reader
import StackExport.Traits.Builtin
import StackExport.Traits.Reader
/-!
The files that describe a deployed stack.

They are read in a fixed order, which decides over the fault that is reported when there are
several.
-/
namespace StackExport

/-- The files that an export reads. -/
inductive InputFile where
  | template
  | parameters
  | state
  | mappings
  | schema
  | traits
deriving DecidableEq, Repr

/-- The name of a file that an export reads. -/
def InputFile.name : InputFile → String
  | .template => "template"
  | .parameters => "parameters"
  | .state => "state"
  | .mappings => "mappings"
  | .schema => "schema"
  | .traits => "traits"

/-- Why the files cannot be used. -/
inductive InputError where
  | unreadable (file : InputFile)
  | malformed (file : InputFile)
  | template (fault : TemplateError)
  | schema (fault : SchemaError)
  | traits (fault : TraitError)
deriving DecidableEq, Repr

/-- The message for files that cannot be used. -/
def InputError.message : InputError → String
  | .unreadable file => "failed to read " ++ file.name
  | .malformed file => file.name ++ ": invalid JSON"
  | .template fault => "template: " ++ fault.message
  | .schema fault => fault.message
  | .traits fault => fault.message

/-- What the files contain. A file that cannot be read has no text; one that is not asked for is
not there at all. -/
structure InputTexts where
  template : Option String
  state : Option String
  mappings : Option String
  parameters : Option (Option String)
  schema : Option (Option String)
  traits : Option (Option String)

/-- Everything that an export needs to know. -/
structure Inputs where
  stack : StackInputs
  rules : Rulebook

mutual

/-- The text of a parameter's value: a list is joined by commas, and one that holds anything but
scalars and lists has no text. -/
def parameterText? : Json → Option String
  | .string s => some s
  | .number n => some n.text
  | .bool b => some (toString b)
  | .array items => (parameterTexts? items).map (String.intercalate ",")
  | .null | .object _ => none

def parameterTexts? : List Json → Option (List String)
  | [] => some []
  | item :: rest => do
    let text ← parameterText? item
    return text :: (← parameterTexts? rest)

end

/-- Reads the values of parameters. Values without a text are left out. -/
def parseParameterValues? (text : String) : Option (List (String × String)) :=
  match Json.parse? text with
  | some (.object entries) =>
    some (entries.filterMap fun (name, value) => (parameterText? value).map fun t => (name, t))
  | _ => none

namespace InputTexts

/-- The text of a file. -/
def demand (file : InputFile) : Option String → Except InputError String
  | some text => .ok text
  | none => .error (.unreadable file)

def readJson {α : Type} (file : InputFile) (parse : String → Option α) (text : String) :
    Except InputError α :=
  match parse text with
  | some value => .ok value
  | none => .error (.malformed file)

/-- The template, with the values of its parameters. -/
def loadTemplate (t : InputTexts) : Except InputError Template := do
  let text ← demand .template t.template
  let template ← (Template.parse text).mapError .template
  match t.parameters with
  | none => return template
  | some given => do
    let values ← readJson .parameters parseParameterValues? (← demand .parameters given)
    return template.withValues values

/-- The schemas of resource types; without a file none are known. -/
def loadSchema (t : InputTexts) : Except InputError ProviderSchema :=
  match t.schema with
  | none => .ok []
  | some given => do (ProviderSchema.parse (← demand .schema given)).mapError .schema

/-- The emission rules, which a file may replace. -/
def loadTraits (t : InputTexts) : Except InputError TraitTable :=
  match t.traits with
  | none => .ok .builtin
  | some given => do (TraitTable.parse (← demand .traits given)).mapError .traits

/-- Reads the files. -/
def load (t : InputTexts) : Except InputError Inputs := do
  let template ← t.loadTemplate
  let state ← readJson .state State.parse? (← demand .state t.state)
  let mapping ← readJson .mappings MappingFile.parse? (← demand .mappings t.mappings)
  let schema ← t.loadSchema
  let table ← t.loadTraits
  return ⟨⟨template, state, mapping.resources, mapping.modules⟩, ⟨table, schema⟩⟩

end InputTexts

end StackExport
