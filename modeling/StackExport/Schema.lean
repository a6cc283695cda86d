import StackExport.Entries
import StackExport.Path
/-!
What a provider says about the attributes of a resource type.

The main operation is the look-up of an attribute by its path, in which the indices of nested
blocks are passed over.
-/
namespace StackExport

/-- The type of an attribute's value. -/
inductive SchemaType where
  | bool
  | int
  | float
  | string
  | list
  | map
  | set
  | object
  | jsonData
deriving DecidableEq, Repr

/-- How an attribute is written. -/
inductive ConfigMode where
  | auto
  | attr
  | block
deriving DecidableEq, Repr

/-- What a provider says about one attribute, its elements aside. -/
structure SchemaInfo where
  computed : Bool
  optional : Bool
  required : Bool
  sensitive : Bool
  mode : ConfigMode
  type : SchemaType
  conflictsWith : List String
  /-- True for the schema of a path that the provider does not know. -/
  missing : Bool
deriving DecidableEq, Repr

/-- The permissive information about an unknown path. -/
def SchemaInfo.unknown : SchemaInfo :=
  { computed := false, optional := true, required := false, sensitive := false,
    mode := .auto, type := .string, conflictsWith := [], missing := true }

/-- The information about a known attribute of a type, before its flags are read. -/
def SchemaInfo.ofType (type : SchemaType) : SchemaInfo :=
  { SchemaInfo.unknown with type := type, optional := false, missing := false }

/-- The schema of an attribute. -/
inductive ValueSchema where
  /-- No elements are known. -/
  | plain (info : SchemaInfo)
  /-- A collection of plain values. -/
  | collection (info : SchemaInfo) (element : ValueSchema)
  /-- Nested blocks with attributes, sorted by name. -/
  | nested (info : SchemaInfo) (attributes : List (String × ValueSchema))

/-- The attributes of a resource type or block, sorted by name. -/
abbrev ResourceSchema := List (String × ValueSchema)

namespace ValueSchema

/-- The information about an attribute. -/
def info : ValueSchema → SchemaInfo
  | plain info | collection info _ | nested info _ => info

/-- The same schema with other information. -/
def withInfo (info : SchemaInfo) : ValueSchema → ValueSchema
  | plain _ => plain info
  | collection _ element => collection info element
  | nested _ attributes => nested info attributes

/-- The schema of a path that the provider does not know. -/
def missing : ValueSchema := .plain .unknown

instance : Inhabited ValueSchema := ⟨missing⟩

/-- True when the elements are nested blocks. -/
def isNested : ValueSchema → Bool
  | nested _ _ => true
  | _ => false

/-- True when the attribute is written as a nested block. -/
def isBlock (s : ValueSchema) : Bool :=
  if s.info.computed && !s.info.optional then false
  else
    match s.info.mode with
    | .auto => s.isNested
    | .attr => s.info.optional && s.info.computed
    | .block => true

/-- True when the provider computes the value and it cannot be set. -/
def isComputedOnly (s : ValueSchema) : Bool :=
  s.info.computed && !(s.info.optional || s.info.required)

/-- True for lists and sets. -/
def isListOrSet (s : ValueSchema) : Bool :=
  s.info.type == .list || s.info.type == .set

/-- True for values without parts. -/
def isScalar (s : ValueSchema) : Bool :=
  match s.info.type with
  | .bool | .string | .float | .int => true
  | _ => false

/-- True for maps. -/
def isMap (s : ValueSchema) : Bool := s.info.type == .map

/-- True for a segment that stands for an index. The empty segment has no other character than
digits, so it counts. -/
def isIndex (segment : String) : Bool := segment.toList.all Char.isDigit

/-- The schema below an attribute. Blocks pass over indices; a collection takes one, and a map any
key. -/
def descend (schema : ValueSchema) : List String → ValueSchema
  | [] => schema
  | segment :: rest =>
    match schema with
    | nested _ attributes =>
      if isIndex segment then descend schema rest
      else
        match lookup? segment attributes with
        | some next => descend next rest
        | none => missing
    | collection info element =>
      if isIndex segment || info.type == .map then descend element rest else missing
    | plain _ => missing

end ValueSchema

def ResourceSchema.attributeByPath (schema : ResourceSchema) (path : Path) : ValueSchema :=
  match path.segments with
  | [] => .missing
  | segment :: rest =>
    match lookup? segment schema with
    | some found => found.descend rest
    | none => .missing

/-- The schemas of resource types. -/
abbrev ProviderSchema := List (String × ResourceSchema)

/-- The schema of a resource type; an unknown type has no attributes. -/
def ProviderSchema.resourceSchema (schema : ProviderSchema) (type : String) : ResourceSchema :=
  (lookup? type schema).getD []

end StackExport
