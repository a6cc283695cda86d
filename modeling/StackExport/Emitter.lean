import StackExport.Diagnostic
import StackExport.Resource.Writer
/-!
Writing a stream of resources.

The events of a resource wait in a queue until its end arrives; then the whole resource is written.
A resource that fails adds no text, and the others are written as if it were not there.
-/
namespace StackExport

/-- A writer of resources and what it has written. -/
structure Emitter where
  table : TraitTable
  queue : Queue Event
  depth : Int
  text : String

namespace Emitter

/-- A writer that has written nothing. -/
def fresh (table : TraitTable) : Emitter := ⟨table, .empty, 0, ""⟩

/-- Forgets the open resource. -/
def reset (e : Emitter) : Emitter := { e with queue := e.queue.clear, depth := 0 }

/-- The fault of a resource that is still open when something else comes. -/
def openError (e : Emitter) (found : String) : WriteError :=
  ⟨Resource.addressOf e.queue.toList, .unexpectedEvent .resourceEnd found⟩

/-- The rules for the resource that a stream starts with. -/
def traitsFor (table : TraitTable) : List Event → ResourceTraits
  | .start (.resource type _) :: _ => table.get type
  | _ => .none ""

/-- Writes the resource in the queue. -/
def flush (e : Emitter) : Emitter × Option WriteError :=
  let events := e.queue.toList
  let e := { e with queue := .empty }
  match Resource.write (traitsFor e.table events) events with
  | .ok text => ({ e with text := e.text ++ text }, none)
  | .error fault => (e, some fault)

/-- Puts an event into the queue and writes the resource that it ends. -/
def enqueue (e : Emitter) (event : Event) : Emitter × Option WriteError :=
  let e := { e with depth := e.depth + event.nesting, queue := e.queue.pushBack event }
  if e.depth = 0 then e.flush else (e, none)

/-- Takes an event. Outside a resource a comment is written at once, and only a resource may
start. -/
def accept (e : Emitter) (event : Event) : Emitter × Option WriteError :=
  if e.depth = 0 then
    match event with
    | .comment text => ({ e with text := e.text ++ "# " ++ text ++ "\n" }, none)
    | .start (.resource _ _) => e.enqueue event
    | _ => (e, some ⟨Resource.addressOf [], .unexpectedEvent .resourceStart event.kind⟩)
  else e.enqueue event

def startsResource : Event → Bool
  | .start (.resource _ _) => true
  | _ => false

/-- Takes an event. The start of a resource inside an open one drops the open one, and the fault
names it. -/
def emit (e : Emitter) (event : Event) : Emitter × Option WriteError :=
  if 0 < e.depth && startsResource event then
    let fault := e.openError event.kind
    let (e, other) := e.reset.accept event
    (e, some (other.getD fault))
  else e.accept event

/-- The diagnostic for a resource that could not be written. -/
def diagnosticOf (fault : WriteError) : Diagnostic :=
  .error (some fault.address) "resource could not be written" fault.message

/-- Takes the events of a stream. After a fault the events up to the next resource are passed
over. -/
def emitFrom (e : Emitter) (skipping : Bool) : List Event → Emitter × Diagnostics
  | [] => (e, [])
  | event :: rest =>
    if skipping && !startsResource event then e.emitFrom true rest
    else
      match e.emit event with
      | (e, none) => e.emitFrom false rest
      | (e, some fault) =>
        -- the start of a resource has already taken the place of the one it interrupts
        let (e, ds) :=
          if startsResource event then e.emitFrom false rest else e.reset.emitFrom true rest
        (e, diagnosticOf fault :: ds)

/-- Takes the events of a whole stream. -/
def emitAll (e : Emitter) (events : List Event) : Emitter × Diagnostics :=
  e.emitFrom false events

/-- The text of all resources; none may be open. -/
def finish (e : Emitter) : Except WriteError String :=
  if 0 < e.depth then .error (e.openError "end of stream") else .ok e.text

end Emitter

end StackExport
