import StackExport.Traits
import StackExport.Yaml.Value
/-!
Reading a table of emission rules from a YAML list.

Texts are taken as they are written, so that `1` and `true` are names like others. An empty value
counts as an empty list or map. A field that no rule has is passed over.
-/
namespace StackExport

namespace Traits

open Yaml

/-- Reads a node while following aliases. -/
abbrev Reading := Document.Reading

/-- The text of a scalar. -/
def text (d : Document) (n : Node) : Reading String := do
  match ← d.follow n with
  | .scalar _ text _ => return text
  | _ => failure

def items (d : Document) (n : Node) : Reading (List Node) := do
  match ← d.follow n with
  | .sequence _ items => return items
  | .scalar _ "" true => return []
  | _ => failure

/-- The entries of a map, with their keys as texts. -/
def entries (d : Document) (n : Node) : Reading (List (String × Node)) := do
  match ← d.follow n with
  | .mapping _ entries => entries.mapM fun (k, v) => return (← text d k, v)
  | .scalar _ "" true => return []
  | _ => failure

def texts (d : Document) (n : Node) : Reading (List String) := do
  (← items d n).mapM (text d)

/-- A plain value. A local tag is an error, and numbers that JSON does not have are null. -/
def json (d : Document) : (depth : Nat) → Node → Reading Json
  | depth, n => do
    match ← d.follow n, depth with
    | .alias _, _ => failure
    | .scalar tag text plain, _ =>
      if (localTag? tag).isSome then failure
      else
        let value : Option Value :=
          match tag with
          | some t => readTyped t text plain
          | none => if plain then readPlain text else some (.string text)
        match value with
        | some .null => return .null
        | some (.bool b) => return .bool b
        | some (.int i) => return .number (.int i)
        | some (.float x) => return if x.isFinite then .number (.float x) else .null
        | some (.string s) => return .string s
        | _ => failure
    | .sequence tag nodes, depth + 1 =>
      if (localTag? tag).isSome then failure
      else return .array (← nodes.mapM (json d depth))
    | .mapping tag nodes, depth + 1 =>
      if (localTag? tag).isSome then failure
      else
        let fields ← nodes.mapM fun (k, v) => do
          let key ← text d k
          return (key, ← json d depth v)
        return .object (mergeEntries fields)
    | _, 0 => failure

/-- How deep the plain values of a table may be nested below the lists and maps around them. -/
def valueDepth : Nat := Document.maxDepth - 3

/-- Fails when a name among those given stands twice. -/
def once (names : List String) (fields : List (String × Node)) : Reading Unit :=
  if names.all fun name => (fields.filter (·.1 == name)).length ≤ 1 then return () else failure

/-- The value of a field that must be there. -/
def demand {α : Type} (fields : List (String × Node)) (name : String) (read : Node → Reading α) :
    Reading α :=
  match lookup? name fields with
  | some n => read n
  | none => failure

/-- The value of a field, or a default. -/
def field {α : Type} (fields : List (String × Node)) (name : String) (fallback : α)
    (read : Node → Reading α) : Reading α :=
  match lookup? name fields with
  | some n => read n
  | none => return fallback

def conditional (d : Document) (n : Node) : Reading ConditionalAttribute := do
  let fields ← entries d n
  once ["name", "value"] fields
  let name ← demand fields "name" (text d)
  let value ← demand fields "value" (json d (valueDepth - 1))
  return ⟨name, value⟩

def fieldNames : List String :=
  ["resource_type", "required_attributes", "unconfigurable_attributes",
    "non_block_type_attributes", "block_object_attributes", "repeated_block_attributes",
    "default_values", "conflicting_arguments", "conditional_attributes", "attribute_map"]

/-- The rules of one entry. -/
def entry (d : Document) (n : Node) : Reading ResourceTraits := do
  let fields ← entries d n
  once fieldNames fields
  let patterns (name : String) : Reading (List String) := field fields name [] (texts d)
  return {
    resourceType := ← field fields "resource_type" "" (text d)
    required := ← patterns "required_attributes"
    unconfigurable := ← patterns "unconfigurable_attributes"
    nonBlock := ← patterns "non_block_type_attributes"
    blockObject := ← patterns "block_object_attributes"
    repeatedBlock := ← patterns "repeated_block_attributes"
    defaults := ← field fields "default_values" [] fun n => do
      let values ← (← entries d n).mapM fun (k, v) => return (k, ← json d valueDepth v)
      return sortEntries values
    conflicts := ← field fields "conflicting_arguments" [] fun n => do
      (← items d n).mapM (texts d)
    conditional := ← field fields "conditional_attributes" [] fun n => do
      (← items d n).mapM (conditional d)
    attributeMap := ← field fields "attribute_map" [] fun n => do
      let names ← (← entries d n).mapM fun (k, v) => return (k, ← text d v)
      return sortEntries names }

/-- The entries of a document. -/
def ofDocument (d : Document) : Option (List ResourceTraits) :=
  match d.root with
  | some n =>
    ((do (← items d n).mapM (entry d) : Reading _).run d.aliasBudget).map (·.1)
  | none => some []

end Traits

/-- Reads a table of emission rules. -/
def TraitTable.parse (text : String) : Except TraitError TraitTable :=
  match (Yaml.Document.parse? text).bind Traits.ofDocument with
  | some entries => TraitTable.ofEntries entries
  | none => .error .malformed

end StackExport
