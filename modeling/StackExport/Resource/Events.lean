import StackExport.AttributeTree
import StackExport.Event
import StackExport.Json.Writer
import StackExport.Schema
import StackExport.Traits
/-!
The event stream of a resource.

Every key of an attribute tree gets a shape from the emission rules and the provider's schema, which
says whether it is written as an attribute or as blocks. A string that holds a document is expanded
into the document's events. What is left out of the text is not decided here but by the writer, to
which whole values are known.
-/
namespace StackExport

namespace Resource

/-- How a value inside a map or document is written. -/
def dataShape : AttributeTree → Shape
  | .list _ => .sequence
  | .object _ => .mapping
  | _ => .value

/-- A leaf of a tree as a scalar; lists, objects and documents have none. -/
def leaf : AttributeTree → Scalar
  | .bool b => .bool b
  | .number n => .number n
  | .string s => .string s
  | .reference r => .reference r
  | _ => .null

mutual

/-- The events of a value inside a document. Strings stay strings, whatever they hold. -/
def documentValue (path : Path) : AttributeTree → List Event
  | .list items => .start .sequence :: documentItems path 0 items ++ [.stop .sequence]
  | .object entries => .start .mapping :: documentEntries path entries ++ [.stop .mapping]
  | .document inner => documentValue path inner
  | value => [.scalar (leaf value)]

def documentItems (path : Path) (index : Nat) : List AttributeTree → List Event
  | [] => []
  | item :: rest =>
    documentValue (path.element index) item ++ documentItems path (index + 1) rest

/-- The events of an object's entries. -/
def documentEntries (path : Path) : List (String × AttributeTree) → List Event
  | [] => []
  | (key, item) :: rest =>
    .key (.plain key (path.child key) (dataShape item)) ::
      documentValue (path.child key) item ++ documentEntries path rest

end

def document (path : Path) (value : AttributeTree) : List Event :=
  .start .json :: documentValue path value ++ [.stop .json]

/-- What decides over the shape of a resource's attributes. -/
structure Rules where
  traits : ResourceTraits
  schema : ResourceSchema

namespace Rules

/-- A key and what the schema says about it. -/
def key (r : Rules) (name : String) (path : Path) (shape : Shape) : MappingKey :=
  let schema := r.schema.attributeByPath path
  { name := name, path := path, shape := shape, computedOnly := schema.isComputedOnly,
    required := schema.info.required, conflictsWith := schema.info.conflictsWith }

/-- A key inside a map. Keys of maps are data, so the provider does not compute them. -/
def dataKey (r : Rules) (name : String) (path : Path) (shape : Shape) : MappingKey :=
  { r.key name path shape with computedOnly := false }

/-- Decides how the value at a path is written. -/
def classify (r : Rules) (path : Path) (value : AttributeTree) : Shape :=
  let schema := r.schema.attributeByPath path
  match value with
  | .list items =>
    if r.traits.isNonBlock path then .sequence
    else if r.traits.isRepeatedBlock path then .blockList
    else if schema.isBlock && items.all AttributeTree.isObject then .blockList
    else if schema.info.missing && value.isObjectList then .blockList
    else .sequence
  | .object _ =>
    if r.traits.isNonBlock path || schema.isMap then .mapping
    else if r.traits.isBlockObject path || schema.isBlock then .blockObject
    else .mapping
  | _ => .value

/-- The name that a pattern requires of the body at a path, if it speaks of that body and gives the
name without a star. -/
def requiredName? (path : Path) (pattern : String) : Option String :=
  let required := Path.parse pattern
  if required.depth == path.depth + 1 && !required.name.toList.contains '*' &&
      path.isLike (Path.display ⟨required.segments.take path.depth⟩) then
    some required.name
  else none

/-- The required names that a body lacks, each once. -/
def missingRequired (r : Rules) (path : Path) (present : List String) : List String :=
  r.traits.required.foldl (fun missing pattern =>
    match requiredName? path pattern with
    | some name =>
      if present.contains name || missing.contains name then missing else missing ++ [name]
    | none => missing) []

/-- The events of the required names that a body lacks: keys with a null value. -/
def missingEvents (r : Rules) (path : Path) (present : List String) : List Event :=
  (r.missingRequired path present).flatMap fun name =>
    [.key { r.key name (path.child name) .value with required := true }, .scalar .null]

mutual

def value (r : Rules) (path : Path) : AttributeTree → List Event
  | .null => [.scalar .null]
  | .bool b => [.scalar (.bool b)]
  | .number n => [.scalar (.number n)]
  | .reference x => [.scalar (.reference x)]
  | .string s =>
    match Json.document? s with
    | some doc => document path (.ofJson doc)
    | none => [.scalar (.string s)]
  | .document inner => document path inner
  | .list items => .start .sequence :: r.items path 0 items ++ [.stop .sequence]
  | .object entries => .start .mapping :: r.entries path entries ++ [.stop .mapping]

def items (r : Rules) (path : Path) (index : Nat) : List AttributeTree → List Event
  | [] => []
  | item :: rest => r.value (path.element index) item ++ r.items path (index + 1) rest

/-- The events of a map's entries. -/
def entries (r : Rules) (path : Path) : List (String × AttributeTree) → List Event
  | [] => []
  | (name, item) :: rest =>
    .key (r.dataKey name (path.child name) (dataShape item)) ::
      r.value (path.child name) item ++ r.entries path rest

end

/-- The comment in place of a list element that cannot be a block. -/
def skippedComment (name : String) (index : Nat) (item : AttributeTree) : Event :=
  .comment (name ++ "[" ++ toString index ++ "] skipped: " ++ item.toJson.compact)

mutual

/-- The events of a key and its value. -/
def keyed (r : Rules) (path : Path) (name : String) : AttributeTree → List Event
  | .list items =>
    let shape := r.classify path (.list items)
    .key (r.key name path shape) ::
      if shape = .blockList then
        .start .sequence :: r.blocks path name 0 items ++ [.stop .sequence]
      else r.value path (.list items)
  | .object entries =>
    let shape := r.classify path (.object entries)
    .key (r.key name path shape) ::
      if shape = .blockObject then
        .start (.block name) ::
          (r.body path entries ++ r.missingEvents path (entries.map (·.1))) ++ [.stop .block]
      else r.value path (.object entries)
  | leaf => .key (r.key name path (r.classify path leaf)) :: r.value path leaf

def blocks (r : Rules) (path : Path) (name : String) (index : Nat) :
    List AttributeTree → List Event
  | [] => []
  | .object entries :: rest =>
    .start (.block name) ::
      (r.body (path.element index) entries ++
        r.missingEvents (path.element index) (entries.map (·.1))) ++
      .stop .block :: r.blocks path name (index + 1) rest
  | item :: rest => skippedComment name index item :: r.blocks path name (index + 1) rest

def body (r : Rules) (path : Path) : List (String × AttributeTree) → List Event
  | [] => []
  | (name, item) :: rest => r.keyed (path.child name) name item ++ r.body path rest

end

/-- The events of a resource's body. Attributes that are no object make an empty body. -/
def rootBody (r : Rules) : AttributeTree → List Event
  | .object entries => r.body .root entries ++ r.missingEvents .root (entries.map (·.1))
  | .null => r.missingEvents .root []
  | _ => []

/-- The events of a resource. -/
def events (r : Rules) (type name : String) (attributes : AttributeTree) : List Event :=
  .start (.resource type name) :: r.rootBody attributes ++ [.stop .resource]

end Rules

end Resource

end StackExport
