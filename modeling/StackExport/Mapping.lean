import StackExport.Json.Record
import StackExport.Text.Identifier
/-!
Which resource of the configuration each resource of the template became.

The pairs are read from a document: a list of them, or an object with such a list and a list of
the nested stacks that became modules.
-/
namespace StackExport

/-- A resource of the template and the resource that it became. -/
structure ResourceMapping where
  logicalId : String
  sourceType : String
  type : String
  physicalId : String
  /-- The module that holds the resource; none is the root module. -/
  module : Option String
deriving DecidableEq, Repr

namespace ResourceMapping

def name (m : ResourceMapping) : String := Text.label m.logicalId

/-- The address within the module. -/
def address (m : ResourceMapping) : String := m.type ++ "." ++ m.name

/-- The address from the root module. -/
def importAddress (m : ResourceMapping) : String :=
  match m.module with
  | some module => "module." ++ module ++ "." ++ m.address
  | none => m.address

/-- Reads a pair. -/
def ofDraft? (draft : Json.Draft) : Option ResourceMapping := do
  let fields ← draft.record?
    ["logical_id", "aws_type", "terraform_type", "physical_id", "module"]
  return {
    logicalId := ← Json.required? fields "logical_id" Json.text?
    sourceType := ← Json.required? fields "aws_type" Json.text?
    type := ← Json.required? fields "terraform_type" Json.text?
    physicalId := ← Json.required? fields "physical_id" Json.text?
    module := ← Json.defaulted? fields "module" none (Json.nullable? Json.text?) }

end ResourceMapping

/-- A nested stack that became a module. -/
structure NestedModule where
  /-- The identifier of the nested stack in the template around it. -/
  logicalId : String
  name : String
  outputs : List String
deriving DecidableEq, Repr

/-- Reads a module. -/
def NestedModule.ofDraft? (draft : Json.Draft) : Option NestedModule := do
  let fields ← draft.record? ["logical_id", "name", "outputs"]
  return {
    logicalId := ← Json.required? fields "logical_id" Json.text?
    name := ← Json.required? fields "name" Json.text?
    outputs := ← Json.defaulted? fields "outputs" [] (Json.list? Json.text?) }

/-- The pair for a resource of the template. -/
def findMapping? (mappings : List ResourceMapping) (logicalId : String) : Option ResourceMapping :=
  mappings.find? (·.logicalId == logicalId)

/-- All pairs and modules. -/
structure MappingFile where
  resources : List ResourceMapping
  modules : List NestedModule

namespace MappingFile

/-- Reads the pairs and modules of a document. -/
def ofDraft? (draft : Json.Draft) : Option MappingFile :=
  match draft with
  | .array items => (items.mapM ResourceMapping.ofDraft?).map fun resources => ⟨resources, []⟩
  | .object _ => do
    let fields ← draft.record? ["resources", "modules"]
    return {
      resources := ← Json.required? fields "resources" (Json.list? ResourceMapping.ofDraft?)
      modules := ← Json.defaulted? fields "modules" [] (Json.list? NestedModule.ofDraft?) }
  | _ => none

/-- Reads the pairs and modules of a text, every part of which has to have a value. -/
def parse? (text : String) : Option MappingFile := do
  let draft ← Json.draft? text
  let _ ← draft.value?
  ofDraft? draft

end MappingFile

end StackExport
