import StackExport.Event.Queue
/-!
Runs of requests to a queue.

A queue answers every run of requests as a list does, whatever its two halves and its capacity are;
the capacity only decides when it has to grow.
-/
namespace StackExport.Proofs.QueueRuns

open StackExport

variable {α σ : Type}

/-! ### Requests and answers -/

/-- A request to a queue. The property that ends a run of elements may have a state. -/
inductive Request (α : Type) : Type 1 where
  | pushBack (item : α)
  | pushFront (item : α)
  | popBack
  | popFront
  | peekBack
  | peekFront
  | get (index : Nat)
  | set (index : Nat) (item : α)
  | insert (index : Nat) (item : α)
  | removeAt (index : Nat)
  | clear
  | setCapacity (capacity : Nat)
  | peekUntil (start : Nat) {σ : Type} (step : σ → α → σ × Bool) (state : σ) (includeLast : Bool)
  | consumeUntil (start : Nat) {σ : Type} (step : σ → α → σ × Bool) (state : σ)
    (includeLast : Bool)

inductive Answer (α : Type) where
  | done
  | item (item : α)
  | run (items : List α)
  | refused (error : QueueError)
deriving DecidableEq

/-- The answer to a request that takes something out of a queue, and the queue that is left. -/
def taken (q : Queue α) (answer : σ → Answer α) :
    Except QueueError (σ × Queue α) → Answer α × Queue α
  | .ok (value, left) => (answer value, left)
  | .error e => (.refused e, q)

/-- The answer to a request that only looks at a queue. -/
def seen (q : Queue α) (answer : σ → Answer α) : Except QueueError σ → Answer α × Queue α
  | .ok value => (answer value, q)
  | .error e => (.refused e, q)

/-- The answer to a request that changes a queue without returning anything. -/
def changed (q : Queue α) : Except QueueError (Queue α) → Answer α × Queue α
  | .ok left => (.done, left)
  | .error e => (.refused e, q)

def perform (q : Queue α) : Request α → Answer α × Queue α
  | .pushBack item => (.done, q.pushBack item)
  | .pushFront item => (.done, q.pushFront item)
  | .popBack => taken q .item q.popBack
  | .popFront => taken q .item q.popFront
  | .peekBack => seen q .item q.peekBack
  | .peekFront => seen q .item q.peekFront
  | .get index => seen q .item (q.get index)
  | .set index item => taken q .item (q.set index item)
  | .insert index item => changed q (q.insert index item)
  | .removeAt index => taken q .item (q.removeAt index)
  | .clear => (.done, q.clear)
  | .setCapacity capacity => changed q (q.setCapacity capacity)
  | .peekUntil start step state includeLast =>
    seen q .run (q.peekUntilFrom start step state includeLast)
  | .consumeUntil start step state includeLast =>
    taken q .run (q.consumeUntilFrom start step state includeLast)

/-- The answers to requests made one after the other, and what is left in the end. -/
def serve {S : Type} (perform : S → Request α → Answer α × S) :
    S → List (Request α) → List (Answer α) × S
  | s, [] => ([], s)
  | s, r :: rest =>
    let (answer, s) := perform s r
    let (answers, s) := serve perform s rest
    (answer :: answers, s)

theorem serve_cons {S : Type} (perform : S → Request α → Answer α × S) (s : S) (r : Request α)
    (rest : List (Request α)) :
    serve perform s (r :: rest) =
      ((perform s r).1 :: (serve perform (perform s r).2 rest).1,
        (serve perform (perform s r).2 rest).2) :=
  rfl

/-! ### The same requests to a list -/

def itemOr (e : QueueError) : Option α → Answer α
  | some item => .item item
  | none => .refused e

/-- The run up to the first element with a property, and what stands behind it. -/
def cut (step : σ → α → σ × Bool) (includeLast : Bool) : σ → List α → Option (List α × List α)
  | _, [] => none
  | state, item :: rest =>
    match step state item with
    | (_, true) => some (if includeLast then ([item], rest) else ([], item :: rest))
    | (next, false) => (cut step includeLast next rest).map fun (run, back) => (item :: run, back)

/-- The run from `start` on, and the list without it. -/
def cutFrom (items : List α) (start : Nat) (step : σ → α → σ × Bool) (state : σ)
    (includeLast : Bool) : Except QueueError (List α × List α) :=
  if items.length < start then .error (.indexOutOfRange start items.length)
  else
    match cut step includeLast state (items.drop start) with
    | some (run, back) => .ok (run, items.take start ++ back)
    | none => .error .endOfQueue

def runOr : Except QueueError (List α × List α) → Answer α
  | .ok (run, _) => .run run
  | .error e => .refused e

/-- Where a request is refused, the operation on the list changes nothing: there is no element at
the index, or none at all. -/
def performOn (items : List α) : Request α → Answer α × List α
  | .pushBack item => (.done, items ++ [item])
  | .pushFront item => (.done, item :: items)
  | .popBack => (itemOr .empty items.getLast?, items.dropLast)
  | .popFront => (itemOr .empty items.head?, items.tail)
  | .peekBack => (itemOr .empty items.getLast?, items)
  | .peekFront => (itemOr .empty items.head?, items)
  | .get index => (itemOr (.indexOutOfRange index items.length) items[index]?, items)
  | .set index item =>
    (itemOr (.indexOutOfRange index items.length) items[index]?, items.set index item)
  | .insert index item =>
    (if index ≤ items.length then .done else .refused (.indexOutOfRange index items.length),
      items.insertIdx index item)
  | .removeAt index =>
    (itemOr (.indexOutOfRange index items.length) items[index]?, items.eraseIdx index)
  | .clear => (.done, [])
  | .setCapacity capacity =>
    (if capacity = 0 then .refused .invalidCapacity
      else if items.length ≤ capacity then .done
      else .refused (.capacityTooSmall capacity items.length), items)
  | .peekUntil start step state includeLast =>
    (runOr (cutFrom items start step state includeLast), items)
  | .consumeUntil start step state includeLast =>
    match cutFrom items start step state includeLast with
    | .ok (run, left) => (.run run, left)
    | .error e => (.refused e, items)

/-- Only a full queue that takes an element and a request for a capacity change the capacity. -/
def capacityAfter (items : List α) (capacity : Nat) : Request α → Nat
  | .pushBack _ | .pushFront _ => if items.length = capacity then 2 * capacity else capacity
  | .insert index _ =>
    if index ≤ items.length ∧ items.length = capacity then 2 * capacity else capacity
  | .setCapacity requested =>
    if 0 < requested ∧ items.length ≤ requested then requested else capacity
  | _ => capacity

/-! ### Each request -/

theorem cut_eq (step : σ → α → σ × Bool) (includeLast : Bool) (state : σ) (items : List α) :
    cut step includeLast state items =
      (Queue.firstHit step state items).map fun hit =>
        items.splitAt (hit + if includeLast then 1 else 0) := by
  induction items generalizing state with
  | nil => rfl
  | cons item rest ih =>
      rw [cut, Queue.firstHit]
      rcases step state item with ⟨next, _ | _⟩
      · simp only [ih next, Option.map_map]
        congr 1
        funext hit
        simp [List.splitAt_eq, Nat.add_right_comm hit 1]
      · cases includeLast <;> simp [List.splitAt_eq]

theorem cutFrom_eq (q : Queue α) (start : Nat) (step : σ → α → σ × Bool) (state : σ)
    (includeLast : Bool) :
    cutFrom q.toList start step state includeLast =
      (q.runEnd start step state includeLast).map fun stop =>
        ((q.toList.take stop).drop start, q.toList.take start ++ q.toList.drop stop) := by
  rw [cutFrom, Queue.runEnd, Queue.length_toList]
  by_cases hstart : start ≤ q.size
  · rw [if_neg (by omega), if_pos hstart, cut_eq]
    cases Queue.firstHit step state (q.toList.drop start) with
    | none => rfl
    | some hit =>
        simp [Except.map, List.splitAt_eq, List.drop_take, Nat.add_assoc]
  · rw [if_pos (by omega), if_neg hstart]
    rfl

/-- A queue does with a request what a list does. -/
structure Agrees (q : Queue α) (r : Request α) : Prop where
  answer : (perform q r).1 = (performOn q.toList r).1
  contents : (perform q r).2.toList = (performOn q.toList r).2
  capacity : (perform q r).2.capacity = capacityAfter q.toList q.capacity r

theorem room_eq (q : Queue α) :
    q.room = if q.toList.length = q.capacity then 2 * q.capacity else q.capacity := by
  rw [Queue.room, Queue.length_toList, Nat.mul_comm]

theorem agrees_popBack (q : Queue α) : Agrees q .popBack := by
  cases h : q.toList.getLast? with
  | none =>
      have hnil : q.toList = [] := List.getLast?_eq_none_iff.1 h
      constructor <;> simp [perform, performOn, Queue.popBack, taken, itemOr, capacityAfter, hnil]
  | some item =>
      constructor <;> simp [perform, performOn, Queue.popBack, taken, itemOr, capacityAfter, h]

theorem popFront_cases (q : Queue α) :
    (∃ item left, q.popFront = .ok (item, left) ∧ q.toList = item :: left.toList ∧
      left.capacity = q.capacity) ∨ q.popFront = .error .empty ∧ q.toList = [] := by
  unfold Queue.popFront
  split
  · rename_i h
    exact .inr ⟨rfl, h⟩
  · rename_i item rest h
    refine .inl ⟨item, _, rfl, ?_, rfl⟩
    simpa using h

theorem agrees_popFront (q : Queue α) : Agrees q .popFront := by
  obtain ⟨item, left, hok, hlist, hcapacity⟩ | ⟨herror, hnil⟩ := popFront_cases q
  · constructor <;> simp [perform, performOn, taken, itemOr, capacityAfter, hok, hlist, hcapacity]
  · constructor <;> simp [perform, performOn, taken, itemOr, capacityAfter, herror, hnil]

theorem agrees_get (q : Queue α) (index : Nat) : Agrees q (.get index) := by
  cases h : q.toList[index]? <;> constructor <;>
    simp [perform, performOn, Queue.get, Queue.outOfRange, seen, itemOr, capacityAfter, h]

theorem agrees_set (q : Queue α) (index : Nat) (item : α) : Agrees q (.set index item) := by
  cases h : q.toList[index]? with
  | none =>
      have hsame := List.set_eq_of_length_le (a := item) (List.getElem?_eq_none_iff.1 h)
      constructor <;>
        simp [perform, performOn, Queue.set, Queue.outOfRange, taken, itemOr, capacityAfter, h,
          hsame]
  | some old =>
      constructor <;> simp [perform, performOn, Queue.set, taken, itemOr, capacityAfter, h]

theorem agrees_removeAt (q : Queue α) (index : Nat) : Agrees q (.removeAt index) := by
  cases h : q.toList[index]? with
  | none =>
      have hsame := List.eraseIdx_of_length_le (List.getElem?_eq_none_iff.1 h)
      constructor <;>
        simp [perform, performOn, Queue.removeAt, Queue.outOfRange, taken, itemOr, capacityAfter, h,
          hsame]
  | some old =>
      constructor <;> simp [perform, performOn, Queue.removeAt, taken, itemOr, capacityAfter, h]

theorem insertIdx_eq {items : List α} {index : Nat} (h : index ≤ items.length) (item : α) :
    items.insertIdx index item = items.take index ++ item :: items.drop index := by
  induction items generalizing index with
  | nil =>
      obtain rfl : index = 0 := Nat.le_zero.1 h
      rfl
  | cons first items ih =>
      cases index with
      | zero => rfl
      | succ index => simpa using ih (Nat.le_of_succ_le_succ h)

theorem agrees_insert (q : Queue α) (index : Nat) (item : α) : Agrees q (.insert index item) := by
  have hsize := q.length_toList
  by_cases h : index ≤ q.size
  · have hin : index ≤ q.toList.length := by omega
    have hinsert := insertIdx_eq hin item
    constructor <;>
      simp [perform, performOn, Queue.insert, changed, capacityAfter, room_eq, h, hinsert]
  · have hout : q.toList.length < index := by omega
    have hsame := List.insertIdx_of_length_lt (x := item) hout
    constructor <;>
      simp [perform, performOn, Queue.insert, Queue.outOfRange, changed, capacityAfter, h, hsame]

theorem agrees_setCapacity (q : Queue α) (capacity : Nat) : Agrees q (.setCapacity capacity) := by
  by_cases hzero : capacity = 0
  · subst hzero
    constructor <;> simp [perform, performOn, Queue.setCapacity, changed, capacityAfter]
  · have hpos : 0 < capacity := Nat.pos_of_ne_zero hzero
    by_cases hfits : q.size ≤ capacity
    · have hlist (h : q.size ≤ capacity) :
          (⟨q.front, q.back, capacity, h, hpos⟩ : Queue α).toList = q.toList := rfl
      constructor <;>
        simp [perform, performOn, Queue.setCapacity, changed, capacityAfter, hzero, hpos, hfits,
          hlist]
    · constructor <;>
        simp [perform, performOn, Queue.setCapacity, changed, capacityAfter, hzero, hpos, hfits]

theorem agrees_peekUntil (q : Queue α) (start : Nat) (step : σ → α → σ × Bool) (state : σ)
    (includeLast : Bool) : Agrees q (.peekUntil start step state includeLast) := by
  have hcut := cutFrom_eq q start step state includeLast
  cases h : q.runEnd start step state includeLast <;> constructor <;>
    simp [perform, performOn, Queue.peekUntilFrom, seen, capacityAfter, hcut, h, Except.map, runOr]

theorem consumeUntilFrom_cases (q : Queue α) (start : Nat) (step : σ → α → σ × Bool) (state : σ)
    (includeLast : Bool) :
    (∃ run left, q.consumeUntilFrom start step state includeLast = .ok (run, left) ∧
      cutFrom q.toList start step state includeLast = .ok (run, left.toList) ∧
      left.capacity = q.capacity) ∨
    ∃ e, q.consumeUntilFrom start step state includeLast = .error e ∧
      cutFrom q.toList start step state includeLast = .error e := by
  rw [cutFrom_eq]
  unfold Queue.consumeUntilFrom
  split
  · rename_i stop h
    refine .inl ⟨_, _, rfl, ?_, rfl⟩
    simp [h, Except.map]
  · rename_i e h
    exact .inr ⟨e, rfl, by rw [h]; rfl⟩

theorem agrees_consumeUntil (q : Queue α) (start : Nat) (step : σ → α → σ × Bool) (state : σ)
    (includeLast : Bool) : Agrees q (.consumeUntil start step state includeLast) := by
  obtain ⟨run, left, hok, hcut, hcapacity⟩ | ⟨e, herror, hcut⟩ :=
    consumeUntilFrom_cases q start step state includeLast
  · constructor <;> simp [perform, performOn, taken, capacityAfter, hok, hcut, hcapacity]
  · constructor <;> simp [perform, performOn, taken, capacityAfter, herror, hcut]

theorem agrees (q : Queue α) (r : Request α) : Agrees q r := by
  cases r with
  | pushBack item =>
      constructor <;> simp [perform, performOn, capacityAfter, room_eq]
  | pushFront item =>
      constructor <;> simp [perform, performOn, capacityAfter, room_eq]
  | popBack => exact agrees_popBack q
  | popFront => exact agrees_popFront q
  | peekBack =>
      cases h : q.toList.getLast? <;> constructor <;>
        simp [perform, performOn, Queue.peekBack, seen, itemOr, capacityAfter, h]
  | peekFront =>
      cases h : q.toList.head? <;> constructor <;>
        simp [perform, performOn, Queue.peekFront, seen, itemOr, capacityAfter, h]
  | get index => exact agrees_get q index
  | set index item => exact agrees_set q index item
  | insert index item => exact agrees_insert q index item
  | removeAt index => exact agrees_removeAt q index
  | clear => constructor <;> simp [perform, performOn, capacityAfter, Queue.clear, Queue.toList]
  | setCapacity capacity => exact agrees_setCapacity q capacity
  | peekUntil start step state includeLast =>
      exact agrees_peekUntil q start step state includeLast
  | consumeUntil start step state includeLast =>
      exact agrees_consumeUntil q start step state includeLast

/-! ### Requests that change nothing -/

/-- True for the requests that only look. -/
def Request.looks : Request α → Bool
  | .peekBack | .peekFront | .get _ | .peekUntil .. => true
  | _ => false

theorem performOn_of_looks {items : List α} {r : Request α} (h : r.looks = true) (capacity : Nat) :
    (performOn items r).2 = items ∧ capacityAfter items capacity r = capacity := by
  cases r <;> first | exact ⟨rfl, rfl⟩ | cases h

theorem itemOr_eq_refused_iff {e f : QueueError} {found : Option α} :
    itemOr e found = .refused f ↔ found = none ∧ e = f := by
  cases found <;> simp [itemOr]

theorem performOn_of_refused {items : List α} {r : Request α} {e : QueueError}
    (h : (performOn items r).1 = .refused e) (capacity : Nat) :
    (performOn items r).2 = items ∧ capacityAfter items capacity r = capacity := by
  cases r with
  | pushBack item => cases h
  | pushFront item => cases h
  | popBack =>
      obtain ⟨hnone, -⟩ := itemOr_eq_refused_iff.1 h
      obtain rfl := List.getLast?_eq_none_iff.1 hnone
      exact ⟨rfl, rfl⟩
  | popFront =>
      obtain ⟨hnone, -⟩ := itemOr_eq_refused_iff.1 h
      obtain rfl := List.head?_eq_none_iff.1 hnone
      exact ⟨rfl, rfl⟩
  | peekBack => exact ⟨rfl, rfl⟩
  | peekFront => exact ⟨rfl, rfl⟩
  | get index => exact ⟨rfl, rfl⟩
  | set index item =>
      obtain ⟨hnone, -⟩ := itemOr_eq_refused_iff.1 h
      exact ⟨List.set_eq_of_length_le (List.getElem?_eq_none_iff.1 hnone), rfl⟩
  | insert index item =>
      have hout : ¬ index ≤ items.length := by
        intro hin
        simp [performOn, hin] at h
      exact ⟨List.insertIdx_of_length_lt (Nat.lt_of_not_le hout), if_neg fun hin => hout hin.1⟩
  | removeAt index =>
      obtain ⟨hnone, -⟩ := itemOr_eq_refused_iff.1 h
      exact ⟨List.eraseIdx_of_length_le (List.getElem?_eq_none_iff.1 hnone), rfl⟩
  | clear => cases h
  | setCapacity requested =>
      refine ⟨rfl, if_neg ?_⟩
      rintro ⟨hpos, hfits⟩
      simp [performOn, Nat.ne_of_gt hpos, hfits] at h
  | peekUntil start step state includeLast => exact ⟨rfl, rfl⟩
  | consumeUntil start step state includeLast =>
      rw [performOn] at h ⊢
      cases hcut : cutFrom items start step state includeLast with
      | error _ => exact ⟨rfl, rfl⟩
      | ok cut =>
          rw [hcut] at h
          cases h

theorem append_of_cut {step : σ → α → σ × Bool} {state : σ} {includeLast : Bool}
    {items run back : List α} (h : cut step includeLast state items = some (run, back)) :
    items = run ++ back := by
  rw [cut_eq] at h
  obtain ⟨hit, -, hsplit⟩ := Option.map_eq_some_iff.1 h
  rw [List.splitAt_eq, Prod.mk.injEq] at hsplit
  rw [← hsplit.1, ← hsplit.2, List.take_append_drop]

theorem exists_of_cutFrom {step : σ → α → σ × Bool} {state : σ} {includeLast : Bool}
    {items run left : List α} {start : Nat}
    (h : cutFrom items start step state includeLast = .ok (run, left)) :
    ∃ front back, front.length = start ∧ items = front ++ run ++ back ∧ left = front ++ back := by
  rw [cutFrom] at h
  split at h
  · cases h
  · rename_i hstart
    split at h
    · rename_i run' back hcut
      obtain ⟨rfl, rfl⟩ := Prod.mk.inj (Except.ok.inj h)
      refine ⟨items.take start, back, List.length_take_of_le (Nat.le_of_not_lt hstart), ?_, rfl⟩
      rw [List.append_assoc, ← append_of_cut hcut, List.take_append_drop]
    · cases h

/-! ### Runs of requests -/

/-- What holds of a request, whatever was asked of the queue before. -/
structure Settled (q : Queue α) (r : Request α) : Prop where
  capacity : (perform q r).2.capacity = capacityAfter q.toList q.capacity r
  looked : r.looks = true →
    (perform q r).2.toList = q.toList ∧ (perform q r).2.capacity = q.capacity
  refused : ∀ e, (perform q r).1 = .refused e →
    (perform q r).2.toList = q.toList ∧ (perform q r).2.capacity = q.capacity
  consumed : ∀ {σ : Type} (start : Nat) (step : σ → α → σ × Bool) (state : σ) (includeLast : Bool),
    r = .consumeUntil start step state includeLast →
      (perform q r).1 = (perform q (.peekUntil start step state includeLast)).1 ∧
        ∀ run, (perform q r).1 = .run run →
          ∃ front back, front.length = start ∧ q.toList = front ++ run ++ back ∧
            (perform q r).2.toList = front ++ back

theorem settled (q : Queue α) (r : Request α) : Settled q r := by
  obtain ⟨hanswer, hcontents, hcapacity⟩ := agrees q r
  refine ⟨hcapacity, ?_, ?_, ?_⟩
  · intro h
    rw [hcontents, hcapacity]
    exact performOn_of_looks h q.capacity
  · intro e h
    rw [hcontents, hcapacity]
    exact performOn_of_refused (hanswer ▸ h) q.capacity
  · rintro σ start step state includeLast rfl
    rw [hanswer, hcontents, (agrees q (.peekUntil start step state includeLast)).answer]
    simp only [performOn]
    cases hcut : cutFrom q.toList start step state includeLast with
    | error e => exact ⟨rfl, fun run h => by cases h⟩
    | ok cut =>
        obtain ⟨run, left⟩ := cut
        refine ⟨rfl, ?_⟩
        rintro _ ⟨⟩
        exact exists_of_cutFrom hcut

theorem serve_agrees (q : Queue α) (requests : List (Request α)) :
    (serve perform q requests).1 = (serve performOn q.toList requests).1 ∧
      (serve perform q requests).2.toList = (serve performOn q.toList requests).2 := by
  induction requests generalizing q with
  | nil => exact ⟨rfl, rfl⟩
  | cons r rest ih =>
      obtain ⟨hanswer, hcontents, -⟩ := agrees q r
      obtain ⟨hanswers, hleft⟩ := ih (perform q r).2
      rw [hcontents] at hanswers hleft
      rw [serve_cons, serve_cons, hanswer, hanswers]
      exact ⟨rfl, hleft⟩

theorem toList_of_new {q : Queue α}
    (h : q = .empty ∨ ∃ capacity, Queue.withCapacity capacity = .ok q) : q.toList = [] := by
  rcases h with rfl | ⟨capacity, h⟩
  · rfl
  · unfold Queue.withCapacity at h
    split at h
    · obtain rfl := Except.ok.inj h
      rfl
    · cases h

/-- A run of requests to a new queue gives the answers and leaves the elements that the same
operations on a list give and leave. At the end of every run there is room for at least one element
and for all there are; and whatever is asked next, the capacity doubles where a full queue takes an
element and becomes what is asked for where that is enough, looking changes nothing, a run is
consumed exactly as it is seen, and a request that is refused changes nothing. -/
theorem queue_refines_list {q : Queue α}
    (hq : q = .empty ∨ ∃ capacity, Queue.withCapacity capacity = .ok q)
    (requests : List (Request α)) :
    (serve perform q requests).1 = (serve performOn [] requests).1 ∧
      (serve perform q requests).2.toList = (serve performOn [] requests).2 ∧
      1 ≤ (serve perform q requests).2.capacity ∧
      (serve perform q requests).2.toList.length ≤ (serve perform q requests).2.capacity ∧
      ∀ r, Settled (serve perform q requests).2 r := by
  have hagrees := serve_agrees q requests
  rw [toList_of_new hq] at hagrees
  refine ⟨hagrees.1, hagrees.2, ?_, ?_, ?_⟩
  · exact (serve perform q requests).2.positive
  · rw [Queue.length_toList]
    exact Queue.size_le_capacity _
  · intro r
    exact settled _ r

/-- Up to the second element that is at least two, with a property that counts. -/
def secondLarge (seen : Nat) (item : Nat) : Nat × Bool :=
  if 2 ≤ item then (seen + 1, seen == 1) else (seen, false)

/-- A queue with room for one element that is filled, looked into, consumed from and asked for too
little room. -/
theorem queue_refines_list_stateful :
    Queue.withCapacity 1 = .ok (⟨[], [], 1, by decide, by decide⟩ : Queue Nat) ∧
      (serve perform (⟨[], [], 1, by decide, by decide⟩ : Queue Nat)
        [.pushBack 2, .pushFront 1, .pushBack 3, .insert 3 4, .insert 9 0,
          .consumeUntil 0 secondLarge 0 false, .setCapacity 1, .popBack]).1 =
        [.done, .done, .done, .done, .refused (.indexOutOfRange 9 4), .run [1, 2],
          .refused (.capacityTooSmall 1 2), .item 4] := by
  constructor
  · rfl
  · rw [(queue_refines_list (.inr ⟨1, rfl⟩) _).1]
    rfl

end StackExport.Proofs.QueueRuns
