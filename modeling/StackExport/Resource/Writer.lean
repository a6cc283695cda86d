import StackExport.Event.Balance
import StackExport.Event.Queue
import StackExport.Text.Identifier
import StackExport.Traits
/-!
Writing the events of one resource as configuration text.

The writer sees the whole resource, so it inspects the value of a key before it writes the key:
empty values and blocks without content never leave a key behind. A resource that cannot be written
is not written at all.
-/
namespace StackExport

/-- What the writer could have gone on with. -/
inductive Expectation where
  | resourceStart
  | resourceEnd
  | attributeKey
  | bodyEntry
  | value
  | sequenceStart
  | mappingStart
  | matchingStart
  | blockKey
deriving DecidableEq, Repr

/-- The words for an expectation. -/
def Expectation.text : Expectation → String
  | .resourceStart => "ResourceStart"
  | .resourceEnd => "ResourceEnd"
  | .attributeKey => "MappingKey"
  | .bodyEntry => "attribute"
  | .value => "value"
  | .sequenceStart => "SequenceStart"
  | .mappingStart => "MappingStart"
  | .matchingStart => "matching start"
  | .blockKey => "block key"

/-- Why a resource cannot be written. -/
inductive WriteFault where
  | unexpectedEvent (expected : Expectation) (found : String)
  | unbalanced (fault : BalanceError)
  | queue (fault : QueueError)
deriving DecidableEq, Repr

/-- A fault and the address of the resource in which it shows. -/
structure WriteError where
  address : String
  fault : WriteFault
deriving DecidableEq, Repr

/-- The message for a fault. -/
def WriteError.message (e : WriteError) : String :=
  let detail := match e.fault with
    | .unexpectedEvent expected found => "expected " ++ expected.text ++ ", got " ++ found
    | .unbalanced fault => fault.message
    | .queue fault => fault.message
  e.address ++ ": " ++ detail

namespace Resource

/-- The address of the resource that a stream starts with. -/
def addressOf : List Event → String
  | .start (.resource type name) :: _ => type ++ "." ++ name
  | _ => "<stream>"

/-! ### Lookahead -/

/-- Splits off the value at the start of a stream: a scalar, or a start through its stop, with the
comments before it. -/
def takeValue (events : List Event) : Option (List Event × List Event) :=
  (Queue.firstHit Gatherer.advance .fresh events).map fun n => events.splitAt (n + 1)

theorem takeValue_length {events value rest : List Event}
    (h : takeValue events = some (value, rest)) : rest.length ≤ events.length := by
  obtain ⟨n, _, hn⟩ := Option.map_eq_some_iff.1 h
  rw [List.splitAt_eq, Prod.mk.injEq] at hn
  rw [← hn.2, List.length_drop]
  omega

def contentOf (traits : ResourceTraits) (key : MappingKey) (value : List Event) : Content :=
  match value with
  | .scalar s :: _ =>
    if traits.isConditionalDefault key.path s.toJson then .conditionalDefault else s.content
  | .start .json :: rest =>
    match rest with
    | .scalar _ :: _ => .value
    | _ => if value.length ≤ 4 then .emptyCollection else .value
  | .start .sequence :: _ =>
    if value.length = 2 then .emptyCollection
    else if key.shape = .blockList then .blockList
    else .sequence
  | .start .mapping :: _ => if value.length = 2 then .emptyCollection else .mapping
  | .start (.block _) :: _ => if value.length = 2 then .emptyCollection else .blockObject
  | _ => .null

/-- What the value behind a key amounts to; the value must be complete. -/
def contentAt (traits : ResourceTraits) (key : MappingKey) (rest : List Event) :
    Except WriteFault Content :=
  match takeValue rest with
  | some (value, _) => .ok (contentOf traits key value)
  | none => .error (.queue .endOfQueue)

/-- The paths of the keys whose values have content, wherever they stand. -/
def populatedPaths (traits : ResourceTraits) : List Event → Except WriteFault (List Path)
  | [] => .ok []
  | .key key :: rest => do
    let content ← contentAt traits key rest
    let others ← populatedPaths traits rest
    return if content.isEmpty then others else key.path :: others
  | _ :: rest => populatedPaths traits rest

/-- What is known while a resource is written. -/
structure Context where
  traits : ResourceTraits
  populated : List Path

namespace Context

/-- True for a key that is written whatever its value. -/
def isRequired (c : Context) (key : MappingKey) : Bool :=
  key.required || c.traits.isRequired key.path

/-- True when a key inside a block, itself no block, would be written. -/
def wouldWrite (c : Context) (key : MappingKey) (content : Content) : Bool :=
  let defaulted := content = .null && (c.traits.defaultFor key.path).isSome
  c.isRequired key ||
    (!key.computedOnly && (defaulted || c.traits.shouldEmit key.path content c.populated))

/-- True when some attribute inside a block would be written. -/
def hasOutput (c : Context) : List Event → Except WriteFault Bool
  | [] => .ok false
  | .key key :: rest =>
    if key.shape.isBlock then c.hasOutput rest
    else do
      if c.wouldWrite key (← contentAt c.traits key rest) then return true
      else c.hasOutput rest
  | _ :: rest => c.hasOutput rest

/-- True when the block behind a key would have content. -/
def blockHasOutput (c : Context) (rest : List Event) : Except WriteFault Bool :=
  match takeValue rest with
  | some (value, _) => c.hasOutput value
  | none => .error (.queue .endOfQueue)

/-- Decides whether a key is written, before the events of its value. -/
def shouldWrite (c : Context) (key : MappingKey) (rest : List Event) :
    Except WriteFault Bool := do
  let content ← contentAt c.traits key rest
  if c.isRequired key then return true
  else if key.computedOnly || !c.traits.shouldEmit key.path content c.populated then return false
  else if key.shape.isBlock then c.blockHasOutput rest
  else return true

/-- Puts the default of a key in place of a null behind it. -/
def applyDefault (c : Context) (key : MappingKey) : List Event → List Event
  | .scalar .null :: rest => .scalar (c.traits.applyDefault key.path .null) :: rest
  | rest => rest

@[simp] theorem length_applyDefault (c : Context) (key : MappingKey) (rest : List Event) :
    (c.applyDefault key rest).length = rest.length := by
  unfold applyDefault
  split <;> simp

end Context

/-! ### Text -/

/-- A nesting level of the text. -/
inductive Frame where
  | resource
  | block
  /-- The sequence around repeated blocks, which writes nothing itself. -/
  | blockList
  | sequence
  /-- A map is `filtered` when its keys are attributes: it is an object of an attribute's list.
  Other maps hold data and are written as they are. -/
  | mapping (filtered : Bool)
  | json
deriving DecidableEq, Repr

/-- True for a level whose content is indented. -/
def Frame.indents : Frame → Bool
  | .blockList | .json => false
  | _ => true

/-- The text so far and what is open in it. -/
structure Draft where
  /-- The open levels, the innermost first. -/
  frames : List Frame
  /-- The shape of a block key, until its block starts. -/
  pending : Option Shape
  /-- True behind `key = `, where a value is due. -/
  inline : Bool
  text : String

namespace Draft

/-- The empty text. -/
def empty : Draft := ⟨[], none, false, ""⟩

/-- Appends to the text. -/
def put (d : Draft) (s : String) : Draft := { d with text := d.text ++ s }

/-- Opens a level. -/
def push (d : Draft) (f : Frame) : Draft := { d with frames := f :: d.frames }

/-- The indentation of a new line. -/
def indent (d : Draft) : String :=
  String.join (List.replicate (d.frames.countP Frame.indents) "  ")

/-- True inside an embedded document. -/
def inJson (d : Draft) : Bool := d.frames.contains .json

/-- Closes a level, which must be the innermost one. -/
def pop (d : Draft) (expected : Frame) (found : Event) : Except WriteFault Draft :=
  match d.frames with
  | f :: rest =>
    if f = expected then .ok { d with frames := rest }
    else .error (.unexpectedEvent .matchingStart found.kind)
  | [] => .error (.unexpectedEvent .matchingStart found.kind)

/-- Makes ready for a value: behind `key = ` it goes on in the line, and in a list or document it
starts one. -/
def beginValue (d : Draft) (found : Event) : Except WriteFault Draft :=
  if d.inline then .ok { d with inline := false }
  else
    match d.frames with
    | .sequence :: _ | .json :: _ => .ok (d.put d.indent)
    | _ => .error (.unexpectedEvent .attributeKey found.kind)

/-- Ends the line of a value. -/
def finishValue (d : Draft) : Draft :=
  let d := { d with inline := false }
  match d.frames with
  | .sequence :: _ => d.put ",\n"
  | .json :: _ => d
  | _ => d.put "\n"

/-- Writes a key. The key of a block is written with the block. -/
def writeKey (d : Draft) (key : MappingKey) : Draft :=
  if key.shape.isBlock && !d.inJson then { d with pending := some key.shape }
  else { d.put (d.indent ++ Text.objectKey key.name ++ " = ") with inline := true }

/-- Writes the start of a list or map. One that is empty is written on one line. -/
def openCollection (d : Draft) (found : Event) (isEmpty : Bool) (left right : String)
    (frame : Frame) : Except WriteFault Draft := do
  let d ← d.beginValue found
  if isEmpty then return (d.put (left ++ right)).finishValue
  else return (d.put (left ++ "\n")).push frame

/-- Writes a start event. `isEmpty` tells that the matching stop follows at once. -/
def start (d : Draft) (o : Opening) (isEmpty : Bool) : Except WriteFault Draft :=
  match o with
  | .resource type name =>
    if d.frames.isEmpty then
      .ok ((d.put ("resource " ++ Text.quote type ++ " " ++ Text.quote name ++ " \x7b\n")).push
        .resource)
    else .error (.unexpectedEvent .bodyEntry (Event.start o).kind)
  | .sequence =>
    let cleared := { d with pending := none }
    if d.pending = some .blockList then .ok (cleared.push .blockList)
    else cleared.openCollection (.start o) isEmpty "[" "]" .sequence
  | .mapping =>
    let filtered := d.frames.head? = some .sequence && !d.inJson
    d.openCollection (.start o) isEmpty "\x7b" "\x7d" (.mapping filtered)
  | .block name =>
    let cleared := { d with pending := none }
    if d.frames.head? = some .blockList || d.pending = some .blockObject then
      .ok ((cleared.put (d.indent ++ name ++ " \x7b\n")).push .block)
    else .error (.unexpectedEvent .blockKey (Event.start o).kind)
  | .json => do
    let d ← d.beginValue (.start o)
    return { (d.put "jsonencode(").push .json with inline := true }

/-- True when a start event takes its stop with it: an empty list or map that is a value. -/
def swallows (d : Draft) (o : Opening) : Bool :=
  match o with
  | .sequence => d.pending != some .blockList
  | .mapping => true
  | _ => false

def stop (d : Draft) (g : Group) : Except WriteFault Draft :=
  match g with
  | .resource => do return (← d.pop .resource (.stop g)).put "\x7d\n\n"
  | .sequence =>
    match d.frames with
    | .blockList :: rest => .ok { d with frames := rest }
    | .sequence :: rest =>
      let d := { d with frames := rest }
      .ok (d.put (d.indent ++ "]")).finishValue
    | _ => .error (.unexpectedEvent .sequenceStart (Event.stop g).kind)
  | .mapping =>
    match d.frames with
    | .mapping _ :: rest =>
      let d := { d with frames := rest }
      .ok (d.put (d.indent ++ "\x7d")).finishValue
    | _ => .error (.unexpectedEvent .mappingStart (Event.stop g).kind)
  | .block => do
    let d ← d.pop .block (.stop g)
    return d.put (d.indent ++ "\x7d\n")
  | .json => do
    let d ← d.pop .json (.stop g)
    return (d.put ")").finishValue

def scalar (d : Draft) (s : Scalar) : Except WriteFault Draft := do
  return ((← d.beginValue (.scalar s)).put s.text).finishValue

/-- True when the keys of the innermost level are attributes, so that they may be left out; `none`
where no key may stand. -/
def filters? (d : Draft) : Option Bool :=
  match d.frames with
  | .resource :: _ | .block :: _ => some true
  | .mapping filtered :: _ => some filtered
  | _ => none

end Draft

/-- The events behind an empty list or map, whose stop is written with its start. -/
def dropStop (o : Opening) : List Event → Option (List Event)
  | .stop g :: rest => if g = o.group then some rest else none
  | _ => none

theorem dropStop_length {o : Opening} {events rest : List Event}
    (h : dropStop o events = some rest) : rest.length ≤ events.length := by
  unfold dropStop at h
  split at h
  · split at h <;> simp_all
  · simp at h

def writeEvents (c : Context) (d : Draft) (events : List Event) : Except WriteFault Draft :=
  match events with
  | [] => .ok d
  | .key key :: rest =>
    match d.filters? with
    | none => .error (.unexpectedEvent .value (Event.key key).kind)
    | some false => writeEvents c (d.writeKey key) rest
    | some true =>
      let ahead := c.applyDefault key rest
      match c.shouldWrite key ahead with
      | .error e => .error e
      | .ok true => writeEvents c (d.writeKey key) ahead
      | .ok false =>
        match h : takeValue ahead with
        | some (_, tail) =>
          have : tail.length ≤ rest.length :=
            c.length_applyDefault key rest ▸ takeValue_length h
          writeEvents c d tail
        | none => .error (.queue .endOfQueue)
  | .comment text :: rest => writeEvents c (d.put (d.indent ++ "# " ++ text ++ "\n")) rest
  | .scalar s :: rest => do
    let d ← d.scalar s
    writeEvents c d rest
  | .start o :: rest =>
    match h : if d.swallows o then dropStop o rest else none with
    | some tail =>
      have : tail.length ≤ rest.length := by
        split at h
        · exact dropStop_length h
        · simp at h
      do
        let d ← d.start o true
        writeEvents c d tail
    | none => do
      let d ← d.start o false
      writeEvents c d rest
  | .stop g :: rest => do
    let d ← d.stop g
    writeEvents c d rest
termination_by events.length
decreasing_by
  all_goals simp only [List.length_cons, Context.length_applyDefault] at *
  all_goals omega

def draft (traits : ResourceTraits) (events : List Event) : Except WriteFault Draft :=
  match checkBalance events with
  | .error e => .error (.unbalanced e)
  | .ok () => do
    let populated ← populatedPaths traits events
    writeEvents ⟨traits, populated⟩ .empty events

/-- The text of a resource. -/
def write (traits : ResourceTraits) (events : List Event) : Except WriteError String :=
  match draft traits events with
  | .ok d => .ok d.text
  | .error fault => .error ⟨addressOf events, fault⟩

end Resource

end StackExport
