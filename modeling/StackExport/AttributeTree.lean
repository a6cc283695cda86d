import StackExport.Path
import StackExport.Reference
import StackExport.Json.Reader
import StackExport.Text.Blank
/-!
Attribute trees: the values of a resource's state, some of which have become references.
-/
namespace StackExport

/-- A node of a resource's attribute tree. -/
inductive AttributeTree where
  | null
  | bool (value : Bool)
  | number (value : Number)
  | string (value : String)
  | list (items : List AttributeTree)
  /-- Entries in the order of the state. -/
  | object (entries : List (String × AttributeTree))
  /-- An expression that took the place of a literal. -/
  | reference (value : Reference)
  /-- An embedded document, which the state holds as a string. -/
  | document (inner : AttributeTree)

instance : Inhabited AttributeTree := ⟨.null⟩

namespace AttributeTree

mutual

/-- The tree of a plain value. -/
def ofJson : Json → AttributeTree
  | .null => .null
  | .bool b => .bool b
  | .number n => .number n
  | .string s => .string s
  | .array items => .list (ofJsonItems items)
  | .object entries => .object (ofJsonEntries entries)

/-- The trees of an array's items. -/
def ofJsonItems : List Json → List AttributeTree
  | [] => []
  | v :: rest => ofJson v :: ofJsonItems rest

/-- The trees of an object's entries. -/
def ofJsonEntries : List (String × Json) → List (String × AttributeTree)
  | [] => []
  | (k, v) :: rest => (k, ofJson v) :: ofJsonEntries rest

end

mutual

/-- The plain value of a tree, in which a reference is the text of its expression. -/
def toJson : AttributeTree → Json
  | .null => .null
  | .bool b => .bool b
  | .number n => .number n
  | .string s => .string s
  | .list items => .array (toJsonItems items)
  | .object entries => .object (toJsonEntries entries)
  | .reference r => .string r.expression
  | .document inner => toJson inner

/-- The plain values of a list's items. -/
def toJsonItems : List AttributeTree → List Json
  | [] => []
  | v :: rest => toJson v :: toJsonItems rest

/-- The plain values of an object's entries. -/
def toJsonEntries : List (String × AttributeTree) → List (String × Json)
  | [] => []
  | (k, v) :: rest => (k, toJson v) :: toJsonEntries rest

end

/-- The text of a string node. -/
def string? : AttributeTree → Option String
  | .string s => some s
  | _ => none

/-- True for the null node. -/
def isNull : AttributeTree → Bool
  | .null => true
  | _ => false

/-- True for an object node. -/
def isObject : AttributeTree → Bool
  | .object _ => true
  | _ => false

/-- The entry of an object under a key. -/
def get? (key : String) : AttributeTree → Option AttributeTree
  | .object entries => lookup? key entries
  | _ => none

def item? (segment : String) (items : List AttributeTree) : Option AttributeTree :=
  (Decimal.word? segment).bind fun i => items[i]?

/-- The child that a segment addresses. A document is looked through. -/
def step? (segment : String) : AttributeTree → Option AttributeTree
  | .object entries => lookup? segment entries
  | .list items => item? segment items
  | .document (.list items) => item? segment items
  | .document inner => inner.get? segment
  | _ => none

/-- The node at the end of a path. -/
def getPath? (path : Path) (tree : AttributeTree) : Option AttributeTree :=
  path.segments.foldlM (fun node segment => node.step? segment) tree

/-- True for a list, not empty, all of whose items are objects. -/
def isObjectList : AttributeTree → Bool
  | .list items => !items.isEmpty && items.all isObject
  | _ => false

end AttributeTree

/-- The document that a string holds. Only objects and arrays count, so that a string such as
`true` or `42` is never taken for a document. -/
def Json.document? (text : String) : Option Json :=
  match text.toList.dropWhile Text.isBlank with
  | c :: _ => if c == '{' || c == '[' then parse? text else none
  | [] => none

end StackExport
