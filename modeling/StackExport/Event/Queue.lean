import StackExport.Event
/-!
A double-ended queue with lookahead.

The elements stand in two lists, one from the front on and one from the back on; `toList` is the
view in which every operation is described. The capacity doubles when a full queue takes an
element, so no element is ever lost.
-/
namespace StackExport

/-- Why a queue refuses an operation. -/
inductive QueueError where
  | endOfQueue
  | indexOutOfRange (index count : Nat)
  | empty
  | capacityTooSmall (requested count : Nat)
  | invalidCapacity
deriving DecidableEq, Repr

/-- The message for a refusal. -/
def QueueError.message : QueueError → String
  | .endOfQueue => "Reached end of queue before condition was met"
  | .indexOutOfRange index count =>
    "index " ++ toString index ++ " out of range for queue of " ++ toString count ++ " elements"
  | .empty => "queue is empty"
  | .capacityTooSmall requested count =>
    "capacity " ++ toString requested ++ " is smaller than the " ++ toString count ++
      " queued elements"
  | .invalidCapacity => "capacity must be greater than zero"

/-- A queue with room for `capacity` elements before it has to grow. -/
structure Queue (α : Type) where
  front : List α
  /-- The elements at the back, the last one first. -/
  back : List α
  capacity : Nat
  fits : front.length + back.length ≤ capacity
  positive : 0 < capacity

namespace Queue

variable {α σ : Type}

def initialCapacity : Nat := 8

def empty : Queue α := ⟨[], [], initialCapacity, Nat.zero_le _, by decide⟩

/-- The empty queue with a given capacity. -/
def withCapacity (capacity : Nat) : Except QueueError (Queue α) :=
  if h : 0 < capacity then .ok ⟨[], [], capacity, Nat.zero_le _, h⟩ else .error .invalidCapacity

/-- The elements from front to back. -/
def toList (q : Queue α) : List α := q.front ++ q.back.reverse

/-- The number of elements. -/
def size (q : Queue α) : Nat := q.front.length + q.back.length

@[simp] theorem length_toList (q : Queue α) : q.toList.length = q.size := by
  simp [toList, size]

theorem size_le_capacity (q : Queue α) : q.size ≤ q.capacity := q.fits

/-- True when there is no element. -/
def isEmpty (q : Queue α) : Bool := q.size == 0

/-- The capacity that one more element calls for. -/
def room (q : Queue α) : Nat := if q.size = q.capacity then q.capacity * 2 else q.capacity

theorem size_lt_room (q : Queue α) : q.size < q.room := by
  have := q.size_le_capacity
  have := q.positive
  unfold room
  split <;> omega

/-- The queue with given elements and capacity. -/
def ofList (items : List α) (capacity : Nat) (fits : items.length ≤ capacity)
    (positive : 0 < capacity) : Queue α :=
  ⟨items, [], capacity, by simpa using fits, positive⟩

@[simp] theorem toList_ofList (items : List α) (capacity : Nat) (fits : items.length ≤ capacity)
    (positive : 0 < capacity) : (ofList items capacity fits positive).toList = items := by
  simp [ofList, toList]

@[simp] theorem capacity_ofList (items : List α) (capacity : Nat) (fits : items.length ≤ capacity)
    (positive : 0 < capacity) : (ofList items capacity fits positive).capacity = capacity :=
  rfl

/-- Changes the capacity; the elements must fit. -/
def setCapacity (q : Queue α) (capacity : Nat) : Except QueueError (Queue α) :=
  if h : 0 < capacity then
    if fits : q.size ≤ capacity then .ok ⟨q.front, q.back, capacity, fits, h⟩
    else .error (.capacityTooSmall capacity q.size)
  else .error .invalidCapacity

/-- Drops every element and keeps the capacity. -/
def clear (q : Queue α) : Queue α := ⟨[], [], q.capacity, Nat.zero_le _, q.positive⟩

/-- Appends an element. -/
def pushBack (q : Queue α) (item : α) : Queue α :=
  ⟨q.front, item :: q.back, q.room, by
    have := q.size_lt_room
    simp only [size] at this
    simp only [List.length_cons]
    omega, by
    have := q.size_lt_room
    omega⟩

@[simp] theorem toList_pushBack (q : Queue α) (item : α) :
    (q.pushBack item).toList = q.toList ++ [item] := by
  simp [pushBack, toList]

@[simp] theorem capacity_pushBack (q : Queue α) (item : α) : (q.pushBack item).capacity = q.room :=
  rfl

/-- Puts an element in front of the others. -/
def pushFront (q : Queue α) (item : α) : Queue α :=
  ⟨item :: q.front, q.back, q.room, by
    have := q.size_lt_room
    simp only [size] at this
    simp only [List.length_cons]
    omega, by
    have := q.size_lt_room
    omega⟩

@[simp] theorem toList_pushFront (q : Queue α) (item : α) :
    (q.pushFront item).toList = item :: q.toList := by
  simp [pushFront, toList]

@[simp] theorem capacity_pushFront (q : Queue α) (item : α) :
    (q.pushFront item).capacity = q.room :=
  rfl

/-- The queue with given elements, no more than there were, and its old capacity. -/
def keeping (q : Queue α) (items : List α) (h : items.length ≤ q.size) : Queue α :=
  ofList items q.capacity (Nat.le_trans h q.size_le_capacity) q.positive

@[simp] theorem toList_keeping (q : Queue α) (items : List α) (h : items.length ≤ q.size) :
    (q.keeping items h).toList = items :=
  toList_ofList ..

@[simp] theorem capacity_keeping (q : Queue α) (items : List α) (h : items.length ≤ q.size) :
    (q.keeping items h).capacity = q.capacity :=
  rfl

/-- Takes the front element. -/
def popFront (q : Queue α) : Except QueueError (α × Queue α) :=
  match h : q.toList with
  | [] => .error .empty
  | item :: rest =>
    .ok (item, q.keeping rest (by
      have := congrArg List.length h
      rw [length_toList, List.length_cons] at this
      omega))

/-- Takes the back element. -/
def popBack (q : Queue α) : Except QueueError (α × Queue α) :=
  match q.toList.getLast? with
  | none => .error .empty
  | some item =>
    .ok (item, q.keeping q.toList.dropLast (by
      rw [List.length_dropLast, length_toList]
      omega))

/-- The front element, left in place. -/
def peekFront (q : Queue α) : Except QueueError α :=
  match q.toList.head? with
  | some item => .ok item
  | none => .error .empty

/-- The back element, left in place. -/
def peekBack (q : Queue α) : Except QueueError α :=
  match q.toList.getLast? with
  | some item => .ok item
  | none => .error .empty

/-- The refusal of an index. -/
def outOfRange (q : Queue α) (index : Nat) : QueueError := .indexOutOfRange index q.size

/-- The element at an index, counted from the front. -/
def get (q : Queue α) (index : Nat) : Except QueueError α :=
  match q.toList[index]? with
  | some item => .ok item
  | none => .error (q.outOfRange index)

/-- Replaces the element at an index and returns the old one. -/
def set (q : Queue α) (index : Nat) (item : α) : Except QueueError (α × Queue α) :=
  match q.toList[index]? with
  | some old =>
    .ok (old, q.keeping (q.toList.set index item)
      (Nat.le_of_eq (List.length_set.trans q.length_toList)))
  | none => .error (q.outOfRange index)

/-- Inserts an element before an index; the index behind the last element appends. -/
def insert (q : Queue α) (index : Nat) (item : α) : Except QueueError (Queue α) :=
  if index ≤ q.size then
    .ok (ofList (q.toList.take index ++ item :: q.toList.drop index) q.room (by
      have := q.size_lt_room
      have := congrArg List.length (List.take_append_drop index q.toList)
      rw [length_toList, List.length_append] at this
      rw [List.length_append, List.length_cons]
      omega) (by
      have := q.size_lt_room
      omega))
  else .error (q.outOfRange index)

/-- Takes the element at an index. -/
def removeAt (q : Queue α) (index : Nat) : Except QueueError (α × Queue α) :=
  match q.toList[index]? with
  | some item =>
    .ok (item, q.keeping (q.toList.eraseIdx index) (by
      have := List.length_eraseIdx_le q.toList index
      rwa [length_toList] at this))
  | none => .error (q.outOfRange index)

/-! ### Lookahead -/

/-- The index of the first element on which a predicate with a state of its own answers true. -/
def firstHit (step : σ → α → σ × Bool) (state : σ) : List α → Option Nat
  | [] => none
  | item :: rest =>
    match step state item with
    | (_, true) => some 0
    | (next, false) => (firstHit step next rest).map (· + 1)

/-- Where the run from `start` on ends that stops at the first hit of a predicate. -/
def runEnd (q : Queue α) (start : Nat) (step : σ → α → σ × Bool) (state : σ)
    (includeLast : Bool) : Except QueueError Nat :=
  if start ≤ q.size then
    match firstHit step state (q.toList.drop start) with
    | some hit => .ok (start + hit + if includeLast then 1 else 0)
    | none => .error .endOfQueue
  else .error (q.outOfRange start)

theorem le_of_runEnd {q : Queue α} {start stop : Nat} {step : σ → α → σ × Bool} {state : σ}
    {includeLast : Bool} (h : q.runEnd start step state includeLast = .ok stop) :
    start ≤ stop := by
  unfold runEnd at h
  split at h
  · split at h
    · injection h with h
      omega
    · cases h
  · cases h

/-- The elements from `start` on before the first hit, and the hit itself on request. -/
def peekUntilFrom (q : Queue α) (start : Nat) (step : σ → α → σ × Bool) (state : σ)
    (includeLast : Bool) : Except QueueError (List α) :=
  match q.runEnd start step state includeLast with
  | .ok stop => .ok ((q.toList.take stop).drop start)
  | .error e => .error e

/-- Takes the run that `peekUntilFrom` shows. -/
def consumeUntilFrom (q : Queue α) (start : Nat) (step : σ → α → σ × Bool) (state : σ)
    (includeLast : Bool) : Except QueueError (List α × Queue α) :=
  match h : q.runEnd start step state includeLast with
  | .ok stop =>
    .ok ((q.toList.take stop).drop start,
      q.keeping (q.toList.take start ++ q.toList.drop stop) (by
        have := le_of_runEnd h
        rw [List.length_append, List.length_take, List.length_drop, length_toList]
        omega))
  | .error e => .error e

/-- The events of the value of the key at an index: a scalar, or a start through its stop. -/
def peekValue (q : Queue Event) (index : Nat) : Except QueueError (List Event) :=
  q.peekUntilFrom (index + 1) Gatherer.advance .fresh true

/-- Takes the key at the front and its value. -/
def consumeKey (q : Queue Event) : Except QueueError (List Event × Queue Event) := do
  let (value, q) ← q.consumeUntilFrom 1 Gatherer.advance .fresh true
  let (key, q) ← q.popFront
  return (key :: value, q)

end Queue

end StackExport
