import StackExport.Json.Basic
/-!
Drafts of documents.

A draft has the arrays and objects of a document whose grammar is right. Some parts of it may be
beyond what a value can hold: a number that is too large, a text with half of a surrogate pair, an
array that is nested too deep. A part that nobody asks for does no harm; a value as a whole is there
only if all of its parts are.
-/
namespace StackExport.Json

/-- A document whose grammar is right. -/
inductive Draft where
  | scalar (value : Json)
  /-- A part that no value can hold. -/
  | unheld
  | array (items : List Draft)
  | object (entries : List (Option String × Draft))

namespace Draft

/-- The draft of a scalar, which may be beyond what a value can hold. -/
def ofOption : Option Json → Draft
  | some value => .scalar value
  | none => .unheld

mutual

def value? : Draft → Option Json
  | .scalar value => some value
  | .unheld => none
  | .array items => (itemValues? items).map .array
  | .object entries => (entryValues? entries).map .object

def itemValues? : List Draft → Option (List Json)
  | [] => some []
  | item :: rest => do
    let value ← value? item
    let values ← itemValues? rest
    return value :: values

/-- The entries of an object with their values. -/
def entryValues? : List (Option String × Draft) → Option (List (String × Json))
  | [] => some []
  | (key, item) :: rest => do
    let key ← key
    let value ← value? item
    let values ← entryValues? rest
    return (key, value) :: values

end

mutual

/-- The draft of a value. -/
def ofJson : Json → Draft
  | .array items => .array (ofItems items)
  | .object entries => .object (ofEntries entries)
  | value => .scalar value

def ofItems : List Json → List Draft
  | [] => []
  | item :: rest => ofJson item :: ofItems rest

/-- The entries of an object with the drafts of their values. -/
def ofEntries : List (String × Json) → List (Option String × Draft)
  | [] => []
  | (key, item) :: rest => (some key, ofJson item) :: ofEntries rest

end

mutual

theorem value?_ofJson : (json : Json) → value? (ofJson json) = some json
  | .null => rfl
  | .bool _ => rfl
  | .number _ => rfl
  | .string _ => rfl
  | .array items => by simp [ofJson, value?, itemValues?_ofItems items]
  | .object entries => by simp [ofJson, value?, entryValues?_ofEntries entries]

theorem itemValues?_ofItems : (items : List Json) → itemValues? (ofItems items) = some items
  | [] => rfl
  | item :: rest => by
    simp [ofItems, itemValues?, value?_ofJson item, itemValues?_ofItems rest]

theorem entryValues?_ofEntries :
    (entries : List (String × Json)) → entryValues? (ofEntries entries) = some entries
  | [] => rfl
  | (key, item) :: rest => by
    simp [ofEntries, entryValues?, value?_ofJson item, entryValues?_ofEntries rest]

end

end Draft

end StackExport.Json
