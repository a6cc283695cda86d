import StackExport.Scalar
import StackExport.Path
/-!
The event stream between attribute trees and configuration text.

A resource is a flat, well-nested list of events. Every start is closed by the stop of its own
group.
-/
namespace StackExport

/-- How an attribute's value is written. -/
inductive Shape where
  /-- `key = scalar` -/
  | value
  /-- One block for each list element. -/
  | blockList
  /-- A single block. -/
  | blockObject
  /-- `key = [ ... ]` -/
  | sequence
  /-- `key = { ... }` -/
  | mapping
  /-- Nothing is known about the value. -/
  | none
deriving DecidableEq, Repr

/-- Blocks are written without an equals sign. -/
def Shape.isBlock : Shape → Bool
  | .blockList | .blockObject => true
  | _ => false

/-- The name of an attribute and what the provider says about it. -/
structure MappingKey where
  name : String
  path : Path
  shape : Shape
  /-- Computed by the provider and not to be set. -/
  computedOnly : Bool
  required : Bool
  /-- Attributes that the provider's schema declares as conflicting. -/
  conflictsWith : List String

/-- A key about which the provider says nothing. -/
def MappingKey.plain (name : String) (path : Path) (shape : Shape) : MappingKey :=
  ⟨name, path, shape, false, false, []⟩

/-- What a nesting level holds. -/
inductive Group where
  | resource
  | sequence
  | mapping
  | block
  /-- An embedded document. -/
  | json
deriving DecidableEq, Repr

/-- The name of a kind of nesting level. -/
def Group.name : Group → String
  | .resource => "Resource"
  | .sequence => "Sequence"
  | .mapping => "Mapping"
  | .block => "Block"
  | .json => "Json"

/-- The name of the event that closes a nesting level. -/
def Group.stopKind (g : Group) : String := g.name ++ "End"

/-- The start of a nesting level. -/
inductive Opening where
  | resource (type name : String)
  | sequence
  | mapping
  | block (name : String)
  | json

/-- What a nesting level holds, seen from its start. -/
def Opening.group : Opening → Group
  | .resource _ _ => .resource
  | .sequence => .sequence
  | .mapping => .mapping
  | .block _ => .block
  | .json => .json

/-- One event of the stream. -/
inductive Event where
  | comment (text : String)
  | key (key : MappingKey)
  | scalar (value : Scalar)
  | start (opening : Opening)
  | stop (group : Group)

namespace Event

def kind : Event → String
  | .comment _ => "Comment"
  | .key _ => "MappingKey"
  | .scalar _ => "ScalarValue"
  | .start o => o.group.name ++ "Start"
  | .stop g => g.stopKind

/-- The change in nesting depth. -/
def nesting : Event → Int
  | .start _ => 1
  | .stop _ => -1
  | _ => 0

/-- True for keys and scalars. -/
def isScalar : Event → Bool
  | .key _ | .scalar _ => true
  | _ => false

/-- True for keys. -/
def isKey : Event → Bool
  | .key _ => true
  | _ => false

def isComment : Event → Bool
  | .comment _ => true
  | _ => false

/-- The level that a start event opens. -/
def opened? : Event → Option Group
  | .start o => some o.group
  | _ => none

end Event

/-- Follows the events behind a key to the end of its value. -/
structure Gatherer where
  depth : Int
  started : Bool

namespace Gatherer

/-- The state before the first event. -/
def fresh : Gatherer := ⟨0, false⟩

/-- Takes an event. The answer is true on the one that completes the value: the scalar itself or
the end of the first level opened. Comments are passed over. -/
def advance (g : Gatherer) (e : Event) : Gatherer × Bool :=
  if e.isComment then (g, false)
  else
    let depth := g.depth + e.nesting
    (⟨depth, true⟩, depth ≤ 0)

/-- True when a value is complete. -/
def isComplete (g : Gatherer) : Bool := g.started && g.depth ≤ 0

end Gatherer

end StackExport
