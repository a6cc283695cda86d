import StackExport.Json.Record
import StackExport.Text.Pieces
/-!
The state that the provisioning tool keeps: the resources that it manages and their attributes.
-/
namespace StackExport

/-- An instance of a resource. -/
structure StateInstance where
  schemaVersion : Nat
  attributes : Json

structure StateResource where
  mode : String
  type : String
  name : String
  module : Option String
  provider : String
  instances : List StateInstance

structure State where
  version : Nat
  toolVersion : String
  resources : List StateResource

/-- Reads an instance. -/
def StateInstance.ofDraft? (draft : Json.Draft) : Option StateInstance := do
  let fields ← draft.record? ["schema_version", "attributes"]
  return {
    schemaVersion := ← Json.defaulted? fields "schema_version" 0 (Json.word? 32)
    attributes := ← Json.defaulted? fields "attributes" .null Json.any? }

namespace StateResource

/-- Reads a resource. -/
def ofDraft? (draft : Json.Draft) : Option StateResource := do
  let fields ← draft.record? ["mode", "type", "name", "module", "provider", "instances"]
  return {
    mode := ← Json.defaulted? fields "mode" "" Json.text?
    type := ← Json.defaulted? fields "type" "" Json.text?
    name := ← Json.defaulted? fields "name" "" Json.text?
    module := ← Json.defaulted? fields "module" none (Json.nullable? Json.text?)
    provider := ← Json.defaulted? fields "provider" "" Json.text?
    instances := ← Json.defaulted? fields "instances" [] (Json.list? StateInstance.ofDraft?) }

/-- The address within the module. -/
def address (r : StateResource) : String := r.type ++ "." ++ r.name

/-- The attributes of the first instance. -/
def attributes (r : StateResource) : Option Json := r.instances.head?.map (·.attributes)

/-- True for a resource of a module, which may be given with or without the word in front of its
name; none is the root module. -/
def isIn (r : StateResource) (module : Option String) : Bool :=
  match module, r.module with
  | none, none => true
  | some wanted, some actual =>
    actual == wanted || Text.dropStart? "module." actual == some wanted
  | _, _ => false

end StateResource

namespace State

/-- Reads a state. -/
def ofDraft? (draft : Json.Draft) : Option State := do
  let fields ← draft.record? ["version", "terraform_version", "resources"]
  return {
    version := ← Json.defaulted? fields "version" 0 (Json.word? 32)
    toolVersion := ← Json.defaulted? fields "terraform_version" "" Json.text?
    resources := ← Json.defaulted? fields "resources" [] (Json.list? StateResource.ofDraft?) }

/-- Reads the state that a text holds. -/
def parse? (text : String) : Option State := Json.parseRecord? ofDraft? text

def managed (s : State) (module : Option String) : List StateResource :=
  s.resources.filter fun r => r.mode == "managed" && r.isIn module

end State

end StackExport
