import StackExport.Schema
import StackExport.Json.Reader
/-!
Reading the provider schemas that the provisioning tool prints.
-/
namespace StackExport

/-- Why a schema document cannot be read. -/
inductive SchemaError where
  | json
  | missingSection (name : String)
deriving DecidableEq, Repr

/-- The message for a schema document without one of its sections. -/
def SchemaError.message : SchemaError → String
  | .json => "invalid provider schema JSON"
  | .missingSection name => "provider schema has no '" ++ name ++ "' section"

namespace Schema

/-- The type that a word of a type specification names. -/
def scalarType : String → SchemaType
  | "bool" => .bool
  | "number" => .float
  | "dynamic" => .jsonData
  | _ => .string

mutual

/-- The schema that a type specification describes: a word, or a list of a word and the
specification of its elements. -/
def ofType : Json → ValueSchema
  | .string name => .plain (.ofType (scalarType name))
  | .array parts => ofParts parts
  | _ => .missing

/-- The schema of a compound type. -/
def ofParts : List Json → ValueSchema
  | .string kind :: rest =>
    match kind with
    | "list" => .collection (.ofType .list) (ofElement rest)
    | "set" => .collection (.ofType .set) (ofElement rest)
    | "map" => .collection (.ofType .map) (ofElement rest)
    | _ => .plain (.ofType .object)
  | _ => .plain (.ofType .object)

/-- The schema of the elements of a compound type. -/
def ofElement : List Json → ValueSchema
  | element :: _ => ofType element
  | [] => .missing

end

/-- A flag of an attribute; anything but a boolean counts as false. -/
def flag (json : Json) (name : String) : Bool :=
  match json.get? name with
  | some (.bool b) => b
  | _ => false

def ofAttribute (json : Json) : ValueSchema :=
  let schema := ofType ((json.get? "type").getD .null)
  schema.withInfo { schema.info with
    computed := flag json "computed"
    optional := flag json "optional"
    required := flag json "required"
    sensitive := flag json "sensitive" }

/-- The collection that a nesting mode stands for. -/
def nestingType : Option Json → SchemaType
  | some (.string "set") => .set
  | some (.string "single") | some (.string "group") => .object
  | some (.string "map") => .map
  | _ => .list

/-- True when a block must stand at least once. -/
def isDemanded (json : Json) : Bool :=
  match json.get? "min_items" with
  | some (.number n) => 0 < (n.word?).getD 0
  | _ => false

/-- The information about a block type. -/
def blockInfo (json : Json) : SchemaInfo :=
  { SchemaInfo.ofType (nestingType (json.get? "nesting_mode")) with
    optional := !isDemanded json
    required := isDemanded json
    mode := .block }

/-- The attributes of a block description, sorted by name. Descriptions nest; `fuel` bounds how
deep they are followed. -/
def ofBlock : (fuel : Nat) → Json → ResourceSchema
  | 0, _ => []
  | fuel + 1, json =>
    let attributes := ((json.get? "attributes").getD .null).entries.map fun (name, attr) =>
      (name, ofAttribute attr)
    let blocks := ((json.get? "block_types").getD .null).entries.map fun (name, block) =>
      (name, ValueSchema.nested (blockInfo block) (ofBlock fuel ((block.get? "block").getD .null)))
    sortEntries (attributes ++ blocks)

/-- Adds the resource types of one provider. -/
def addProvider (schema : ProviderSchema) (provider : Json) : ProviderSchema :=
  (((provider.get? "resource_schemas").getD .null).entries).foldl
    (fun schema (type, json) =>
      putEntry type (ofBlock Json.maxDepth ((json.get? "block").getD .null)) schema) schema

end Schema

def ProviderSchema.parse (text : String) : Except SchemaError ProviderSchema :=
  match Json.parse? text with
  | none => .error .json
  | some doc =>
    match doc.get? "provider_schemas" with
    | some (.object providers) =>
      .ok ((providers.map (·.2)).foldl Schema.addProvider [])
    | _ => .error (.missingSection "provider_schemas")

end StackExport
