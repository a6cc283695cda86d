import StackExport.Json.Reader
/-!
Records: values with known fields.

A record is an object, whose unknown entries are passed over whatever they hold, or an array of its
fields in their order. A field that stands twice makes no record.
-/
namespace StackExport.Json

/-- The fields that a record gives. -/
def Draft.record? (draft : Draft) (names : List String) : Option (List (String × Draft)) :=
  match draft with
  | .object entries => do
    let entries ← entries.mapM fun (key, value) => key.map fun name => (name, value)
    let known := entries.filter fun (name, _) => names.contains name
    if names.all fun name => (known.filter (·.1 == name)).length ≤ 1 then some known else none
  | .array items => if items.length ≤ names.length then some (names.zip items) else none
  | _ => none

/-- The value of a field that must be there. -/
def required? {α : Type} (fields : List (String × Draft)) (name : String)
    (read : Draft → Option α) : Option α :=
  (lookup? name fields).bind read

/-- The value of a field, or a default where the record does not give it. -/
def defaulted? {α : Type} (fields : List (String × Draft)) (name : String) (fallback : α)
    (read : Draft → Option α) : Option α :=
  match lookup? name fields with
  | some value => read value
  | none => some fallback

/-- A value that may be null. -/
def nullable? {α : Type} (read : Draft → Option α) : Draft → Option (Option α)
  | .scalar .null => some none
  | value => (read value).map some

/-- The items of an array. -/
def list? {α : Type} (read : Draft → Option α) : Draft → Option (List α)
  | .array items => items.mapM read
  | _ => none

/-- Any value. Its objects have every key once. -/
def any? (draft : Draft) : Option Json := draft.value?.map merged

def text? : Draft → Option String
  | .scalar (.string s) => some s
  | _ => none

def bool? : Draft → Option Bool
  | .scalar (.bool b) => some b
  | _ => none

/-- A nonnegative integer of so many bits. -/
def word? (bits : Nat) : Draft → Option Nat
  | .scalar (.number n) => n.word?.filter fun w => w < Nat.pow 2 bits
  | _ => none

/-- The record that a document holds. -/
def parseRecord? {α : Type} (read : Draft → Option α) (text : String) : Option α :=
  (draft? text).bind read

end StackExport.Json
