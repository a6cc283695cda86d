import StackExport.Emitter
/-!
Resources of one stream do not affect each other.

A piece of a stream begins with the start of its only resource. From any emitter in which no
resource is open a piece adds the same text and raises the same diagnostics; what it may leave
behind, an open resource, is dropped by the start of the next piece at the cost of one diagnostic.
-/
namespace StackExport.Proofs.EmitterIsolation

open StackExport
open StackExport.Emitter

/-! ### One piece -/

/-- Splits a run that starts on an open level behind the event that closes it. -/
def closed? (level : Int) : List Event → Option (List Event × List Event)
  | [] => none
  | e :: rest =>
    if level + e.nesting = 0 then some ([e], rest)
    else (closed? (level + e.nesting) rest).map fun split => (e :: split.1, split.2)

/-- The events from the start of a resource up to the next one. -/
structure Piece where
  type : String
  name : String
  body : List Event
  no_start : ∀ e ∈ body, startsResource e = false

/-- The text and the diagnostics of events that stand behind a resource. -/
def strays : List Event → String × Diagnostics
  | [] => ("", [])
  | .comment text :: rest => ("# " ++ text ++ "\n" ++ (strays rest).1, (strays rest).2)
  | e :: _ =>
    ("", [diagnosticOf ⟨Resource.addressOf [], .unexpectedEvent .resourceStart e.kind⟩])

namespace Piece

def start (p : Piece) : Event := .start (.resource p.type p.name)

def events (p : Piece) : List Event := p.start :: p.body

def address (p : Piece) : String := p.type ++ "." ++ p.name

/-- The events of the resource itself and those behind it, unless it is never closed. -/
def split? (p : Piece) : Option (List Event × List Event) := closed? 0 p.events

/-- The text that an emitter writes for the piece alone. -/
def text (table : TraitTable) (p : Piece) : String :=
  ((Emitter.fresh table).emitAll p.events).1.text

/-- The diagnostics of the piece alone. -/
def diagnostics (table : TraitTable) (p : Piece) : Diagnostics :=
  ((Emitter.fresh table).emitAll p.events).2

/-- What the start of another piece costs. -/
def interruption (p : Piece) : Diagnostics :=
  if p.split? = none then
    [.error (some p.address) "resource could not be written"
      (p.address ++ ": expected ResourceEnd, got ResourceStart")]
  else []

/-- The resource of the piece is never closed, or it cannot be written. -/
def Broken (table : TraitTable) (p : Piece) : Prop :=
  ∀ own behind, p.split? = some (own, behind) →
    ∀ text, Resource.write (table.get p.type) own ≠ .ok text

/-- What the piece adds to the text and to the diagnostics of any emitter. -/
def outcome (table : TraitTable) (p : Piece) : String × Diagnostics :=
  match p.split? with
  | none => ("", [])
  | some (own, behind) =>
    match Resource.write (table.get p.type) own with
    | .ok text => (text ++ (strays behind).1, (strays behind).2)
    | .error fault => ("", [diagnosticOf fault])

end Piece

/-- The diagnostics of a stream of pieces: those of each piece, and one for each piece but the last
that leaves its resource open. -/
def joined (table : TraitTable) : List Piece → Diagnostics
  | [] => []
  | [p] => p.diagnostics table
  | p :: q :: rest => p.diagnostics table ++ p.interruption ++ joined table (q :: rest)

/-! ### Runs of an emitter -/

variable {e : Emitter} {table : TraitTable} {run : List Event}

/-- No resource is open. -/
structure Idle (e : Emitter) : Prop where
  depth_eq : e.depth = 0
  queue_eq : e.queue.toList = []

@[simp] theorem toList_empty : (Queue.empty : Queue Event).toList = [] := rfl

@[simp] theorem toList_clear (q : Queue Event) : q.clear.toList = [] := rfl

theorem idle_fresh (table : TraitTable) : Idle (.fresh table) := ⟨rfl, rfl⟩

theorem idle_reset (e : Emitter) : Idle e.reset := ⟨rfl, rfl⟩

theorem emitFrom_skipping (h : ∀ event ∈ run, startsResource event = false) :
    e.emitFrom true run = (e, []) := by
  induction run with
  | nil => rfl
  | cons event rest ih =>
      rw [List.forall_mem_cons] at h
      simp [emitFrom, h.1, ih h.2]

/-- The start of a resource ends the skipping, so what an emitter does with a stream of pieces
splits before each of them. -/
theorem emitFrom_append {following : List Event}
    (hstart : following = [] ∨ ∃ event rest, following = event :: rest ∧ startsResource event)
    (skipping : Bool) :
    e.emitFrom skipping (run ++ following) =
      (((e.emitFrom skipping run).1.emitFrom false following).1,
        (e.emitFrom skipping run).2 ++
          ((e.emitFrom skipping run).1.emitFrom false following).2) := by
  induction run generalizing e skipping with
  | nil =>
      rcases hstart with rfl | ⟨event, rest, rfl, hevent⟩
      · rfl
      · simp [emitFrom, hevent]
  | cons event rest ih =>
      rw [List.cons_append, emitFrom, emitFrom]
      by_cases hskip : (skipping && !startsResource event) = true
      · simp only [hskip, if_true]
        exact ih true
      · simp only [hskip]
        rcases e.emit event with ⟨e', _ | fault⟩
        · exact ih false
        · by_cases hevent : startsResource event = true
          · simp [hevent, ih]
          · simp [hevent, ih]

theorem emit_of_idle (he : e.depth = 0) (event : Event) : e.emit event = e.accept event := by
  simp [emit, he]

theorem emit_of_not_startsResource {event : Event} (h : startsResource event = false) :
    e.emit event = e.accept event := by
  simp [emit, h]

theorem emitFrom_strays (he : Idle e) (h : ∀ event ∈ run, startsResource event = false) :
    ∃ e', e.emitFrom false run = (e', (strays run).2) ∧ Idle e' ∧ e'.table = e.table ∧
      e'.text = e.text ++ (strays run).1 := by
  induction run generalizing e with
  | nil => exact ⟨e, rfl, he, rfl, by simp [strays]⟩
  | cons event rest ih =>
      rw [List.forall_mem_cons] at h
      have hemit := emit_of_not_startsResource (e := e) h.1
      -- anything but a comment is refused, and the rest is passed over
      have hrefused : e.accept event =
            (e, some ⟨Resource.addressOf [], .unexpectedEvent .resourceStart event.kind⟩) →
          strays (event :: rest) =
            ("", [diagnosticOf
              ⟨Resource.addressOf [], .unexpectedEvent .resourceStart event.kind⟩]) →
          ∃ e', e.emitFrom false (event :: rest) = (e', (strays (event :: rest)).2) ∧ Idle e' ∧
            e'.table = e.table ∧ e'.text = e.text ++ (strays (event :: rest)).1 := by
        intro haccept hstrays
        refine ⟨e.reset, ?_, idle_reset e, rfl, by simp [hstrays, Emitter.reset]⟩
        simp [emitFrom, hemit, haccept, hstrays, h.1, emitFrom_skipping h.2]
      cases event with
      | comment text =>
          have haccept : e.accept (.comment text) =
              ({ e with text := e.text ++ "# " ++ text ++ "\n" }, none) := by
            simp [accept, he.depth_eq]
          obtain ⟨e', hrun, hidle, htable, htext⟩ := ih
            (e := { e with text := e.text ++ "# " ++ text ++ "\n" }) ⟨he.depth_eq, he.queue_eq⟩ h.2
          refine ⟨e', ?_, hidle, htable, ?_⟩
          · simp [emitFrom, hemit, haccept, hrun, strays]
          · simp [htext, strays, String.append_assoc]
      | key key => exact hrefused (by simp [accept, he.depth_eq]) rfl
      | scalar s => exact hrefused (by simp [accept, he.depth_eq]) rfl
      | stop g => exact hrefused (by simp [accept, he.depth_eq]) rfl
      | start o =>
          cases o with
          | resource type name => simp [startsResource] at h
          | _ => exact hrefused (by simp [accept, he.depth_eq]) rfl

/-- Inside an open resource an event waits in the queue, unless it closes the resource. -/
theorem emit_of_open (ho : 0 < e.depth) {event : Event} (h : startsResource event = false) :
    e.emit event = e.enqueue event := by
  have hne : e.depth ≠ 0 := by omega
  rw [emit_of_not_startsResource h]
  exact if_neg hne

theorem depth_pos_of_step (ho : 0 < e.depth) {event : Event}
    (hne : e.depth + event.nesting ≠ 0) : 0 < e.depth + event.nesting := by
  have : -1 ≤ event.nesting := by cases event <;> simp [Event.nesting]
  omega

theorem emitFrom_of_closed?_eq_none (ho : 0 < e.depth)
    (h : ∀ event ∈ run, startsResource event = false) (hc : closed? e.depth run = none) :
    ∃ e', e.emitFrom false run = (e', []) ∧ 0 < e'.depth ∧ e'.table = e.table ∧
      e'.text = e.text ∧ e'.queue.toList = e.queue.toList ++ run := by
  induction run generalizing e with
  | nil => exact ⟨e, rfl, ho, rfl, rfl, by simp⟩
  | cons event rest ih =>
      rw [List.forall_mem_cons] at h
      have hne : e.depth + event.nesting ≠ 0 := by
        intro hzero
        simp [closed?, hzero] at hc
      rw [closed?, if_neg hne, Option.map_eq_none_iff] at hc
      obtain ⟨e', hrun, hopen, htable, htext, hqueue⟩ := ih
        (e := { e with depth := e.depth + event.nesting, queue := e.queue.pushBack event })
        (depth_pos_of_step ho hne) h.2 hc
      refine ⟨e', ?_, hopen, htable, htext, ?_⟩
      · simp [emitFrom, emit_of_open ho h.1, enqueue, hne, hrun]
      · simp [hqueue]

theorem emitFrom_of_closed?_eq_some (ho : 0 < e.depth)
    (h : ∀ event ∈ run, startsResource event = false) {own behind : List Event}
    (hc : closed? e.depth run = some (own, behind)) :
    ∃ e', Idle e' ∧ e'.table = e.table ∧ e'.text = e.text ∧
      (∀ event ∈ behind, startsResource event = false) ∧
      e.emitFrom false run =
        match Resource.write (traitsFor e.table (e.queue.toList ++ own))
          (e.queue.toList ++ own) with
        | .ok text => ({ e' with text := e'.text ++ text }).emitFrom false behind
        | .error fault => (e'.reset, [diagnosticOf fault]) := by
  induction run generalizing e own with
  | nil => simp [closed?] at hc
  | cons event rest ih =>
      rw [List.forall_mem_cons] at h
      rw [closed?] at hc
      by_cases hzero : e.depth + event.nesting = 0
      · rw [if_pos hzero, Option.some.injEq, Prod.mk.injEq] at hc
        obtain ⟨rfl, rfl⟩ := hc
        refine ⟨{ e with depth := 0, queue := .empty }, ⟨rfl, rfl⟩, rfl, rfl, h.2, ?_⟩
        rw [emitFrom, emit_of_open ho h.1, enqueue]
        simp only [hzero, if_true, flush, Queue.toList_pushBack]
        cases Resource.write (traitsFor e.table (e.queue.toList ++ [event]))
            (e.queue.toList ++ [event]) with
        | ok text => simp
        | error fault => simp [h.1, emitFrom_skipping h.2, Emitter.reset]
      · rw [if_neg hzero] at hc
        obtain ⟨⟨own', behind'⟩, hc', heq⟩ := Option.map_eq_some_iff.1 hc
        rw [Prod.mk.injEq] at heq
        obtain ⟨rfl, rfl⟩ := heq
        obtain ⟨e', hidle, htable, htext, hbehind, hrun⟩ := ih
          (e := { e with depth := e.depth + event.nesting, queue := e.queue.pushBack event })
          (depth_pos_of_step ho hzero) h.2 hc'
        refine ⟨e', hidle, htable, htext, hbehind, ?_⟩
        simpa [emitFrom, emit_of_open ho h.1, enqueue, hzero] using hrun

/-! ### Pieces -/

structure After (e e' : Emitter) (p : Piece) : Prop where
  table_eq : e'.table = e.table
  text_eq : e'.text = e.text ++ (p.outcome e.table).1
  idle : p.split? ≠ none → Idle e'
  opened : p.split? = none → 0 < e'.depth ∧ e'.queue.toList = p.events

theorem emitFrom_piece (he : Idle e) (p : Piece) :
    ∃ e', e.emitFrom false p.events = (e', (p.outcome e.table).2) ∧ After e e' p := by
  let opened : Emitter := { e with depth := 1, queue := e.queue.pushBack p.start }
  have hqueue : opened.queue.toList = [p.start] := by simp [opened, he.queue_eq]
  have hstart : e.emitFrom false p.events = opened.emitFrom false p.body := by
    simp [Piece.events, emitFrom, emit_of_idle he.depth_eq, accept, he.depth_eq, Piece.start,
      enqueue, Event.nesting, opened]
  have hsplit : p.split? = (closed? 1 p.body).map fun split => (p.start :: split.1, split.2) := by
    simp [Piece.split?, Piece.events, closed?, Piece.start, Event.nesting]
  rw [hstart]
  cases hc : closed? 1 p.body with
  | none =>
      obtain ⟨e', hrun, hopen, htable, htext, hq⟩ :=
        emitFrom_of_closed?_eq_none (e := opened) (by simp [opened]) p.no_start hc
      rw [hc, Option.map_none] at hsplit
      have hout : p.outcome e.table = ("", []) := by simp [Piece.outcome, hsplit]
      refine ⟨e', by rw [hrun, hout], htable, ?_, ?_, ?_⟩
      · simpa [hout] using htext
      · intro hne
        exact absurd hsplit hne
      · intro _
        exact ⟨hopen, by rw [hq, hqueue]; rfl⟩
  | some split =>
      obtain ⟨own, behind⟩ := split
      obtain ⟨e', hidle, htable, htext, hbehind, hrun⟩ :=
        emitFrom_of_closed?_eq_some (e := opened) (by simp [opened]) p.no_start hc
      rw [hc, Option.map_some] at hsplit
      have htraits : traitsFor opened.table ([p.start] ++ own) = e.table.get p.type := rfl
      rw [hqueue, htraits] at hrun
      have hclosed : p.split? ≠ none := by simp [hsplit]
      rw [hrun]
      cases hw : Resource.write (e.table.get p.type) ([p.start] ++ own) with
      | error fault =>
          have hout : p.outcome e.table = ("", [diagnosticOf fault]) := by
            simp only [List.cons_append, List.nil_append] at hw
            simp [Piece.outcome, hsplit, hw]
          refine ⟨e'.reset, by rw [hout], htable, ?_, fun _ => idle_reset e', ?_⟩
          · simpa [hout, Emitter.reset] using htext
          · intro hnone
            exact absurd hnone hclosed
      | ok text =>
          have hout : p.outcome e.table = (text ++ (strays behind).1, (strays behind).2) := by
            simp only [List.cons_append, List.nil_append] at hw
            simp [Piece.outcome, hsplit, hw]
          obtain ⟨e'', hrun', hidle', htable', htext'⟩ := emitFrom_strays
            (e := { e' with text := e'.text ++ text }) ⟨hidle.depth_eq, hidle.queue_eq⟩ hbehind
          refine ⟨e'', by rw [hout]; exact hrun', htable'.trans htable, ?_, fun _ => hidle', ?_⟩
          · simp [htext', hout, htext, opened, String.append_assoc]
          · intro hnone
            exact absurd hnone hclosed

theorem Piece.text_eq (table : TraitTable) (p : Piece) :
    p.text table = (p.outcome table).1 := by
  obtain ⟨e', hrun, hafter⟩ := emitFrom_piece (idle_fresh table) p
  have htext := hafter.text_eq
  simp only [Emitter.fresh, String.empty_append] at htext hrun
  rw [Piece.text, emitAll, Emitter.fresh, hrun, htext]

theorem Piece.diagnostics_eq (table : TraitTable) (p : Piece) :
    p.diagnostics table = (p.outcome table).2 := by
  obtain ⟨e', hrun, -⟩ := emitFrom_piece (idle_fresh table) p
  rw [Piece.diagnostics, emitAll, hrun]
  rfl

/-- A piece is never closed exactly when an emitter still has its resource open behind it. -/
theorem Piece.split?_eq_none_iff (table : TraitTable) (p : Piece) :
    p.split? = none ↔ 0 < ((Emitter.fresh table).emitAll p.events).1.depth := by
  obtain ⟨e', hrun, hafter⟩ := emitFrom_piece (idle_fresh table) p
  rw [emitAll, hrun]
  constructor
  · intro hs
    exact (hafter.opened hs).1
  · intro hopen
    refine Decidable.byContradiction fun hs => ?_
    have hclosed : e'.depth = 0 := (hafter.idle hs).depth_eq
    simp [hclosed] at hopen

/-- The next piece drops a resource that is still open and is then taken as by an idle emitter. -/
theorem emitFrom_of_opened (ho : 0 < e.depth) {p : Piece} (hq : e.queue.toList = p.events)
    (hs : p.split? = none) (q : Piece) (rest : List Event) :
    e.emitFrom false (q.events ++ rest) =
      ((e.reset.emitFrom false (q.events ++ rest)).1,
        p.interruption ++ (e.reset.emitFrom false (q.events ++ rest)).2) := by
  have hfault : [diagnosticOf (e.openError q.start.kind)] = p.interruption := by
    have hdetail : ": " ++ ("expected " ++ "ResourceEnd" ++ ", got " ++ "ResourceStart") =
        ": expected ResourceEnd, got ResourceStart" := by decide
    have hmessage : (e.openError q.start.kind).message =
        p.address ++ ": expected ResourceEnd, got ResourceStart" := by
      rw [openError, hq, ← hdetail, ← String.append_assoc]
      rfl
    have haddress : (e.openError q.start.kind).address = p.address := by
      rw [openError, hq]
      rfl
    rw [diagnosticOf, hmessage, haddress, Piece.interruption, if_pos hs]
  have hstart : startsResource q.start = true := rfl
  have hreset : e.reset.emit q.start = e.reset.accept q.start := emit_of_idle rfl q.start
  have haccept : (e.reset.accept q.start).2 = none := rfl
  have hemit : e.emit q.start = ((e.reset.accept q.start).1, some (e.openError q.start.kind)) := by
    simp [emit, ho, hstart, haccept]
  rw [Piece.events, List.cons_append, emitFrom, emitFrom, hreset, hemit, ← hfault]
  simp only [hstart]
  rcases hr : e.reset.accept q.start with ⟨e', fault⟩
  rw [hr] at haccept
  simp only at haccept
  subst haccept
  simp

theorem emitFrom_pieces (he : Idle e) (pieces : List Piece) :
    (e.emitFrom false (pieces.flatMap Piece.events)).1.text =
        e.text ++ String.join (pieces.map (Piece.text e.table)) ∧
      (e.emitFrom false (pieces.flatMap Piece.events)).2 = joined e.table pieces := by
  induction pieces generalizing e with
  | nil => simp [emitFrom, joined]
  | cons p pieces ih =>
      obtain ⟨e', hrun, hafter⟩ := emitFrom_piece he p
      have htext := hafter.text_eq
      rw [← Piece.text_eq] at htext
      rw [← Piece.diagnostics_eq] at hrun
      rw [List.flatMap_cons, List.map_cons]
      cases pieces with
      | nil => simp [hrun, htext, joined]
      | cons q rest =>
          have hstarts : ∃ event tail, List.flatMap Piece.events (q :: rest) = event :: tail ∧
              startsResource event := ⟨q.start, q.body ++ rest.flatMap Piece.events, rfl, rfl⟩
          rw [emitFrom_append (.inr hstarts), hrun, joined]
          by_cases hs : p.split? = none
          · obtain ⟨hopen, hqueue⟩ := hafter.opened hs
            obtain ⟨htext', hds'⟩ := ih (idle_reset e')
            have htable : e'.reset.table = e.table := hafter.table_eq
            rw [htable] at htext' hds'
            rw [List.flatMap_cons] at htext' hds' ⊢
            rw [emitFrom_of_opened hopen hqueue hs]
            constructor
            · rw [htext', String.join_cons, ← String.append_assoc]
              exact congrArg (· ++ _) htext
            · simp only [hds', List.append_assoc]
          · obtain ⟨htext', hds'⟩ := ih (hafter.idle hs)
            rw [hafter.table_eq] at htext' hds'
            constructor
            · rw [htext', htext, String.join_cons, String.append_assoc]
            · rw [hds', Piece.interruption, if_neg hs, List.append_nil]

/-- A resource that is broken has no text and costs one diagnostic. -/
theorem Piece.Broken.cost {p : Piece} (h : p.Broken table) :
    p.text table = "" ∧ (p.diagnostics table ++ p.interruption).length = 1 := by
  rw [p.text_eq, p.diagnostics_eq, Piece.outcome]
  cases hs : p.split? with
  | none => simp [Piece.interruption, hs]
  | some split =>
      cases hw : Resource.write (table.get p.type) split.1 with
      | ok text => exact absurd hw (h split.1 split.2 hs text)
      | error fault => simp [hw, Piece.interruption, hs]

/-- A stream of pieces gives the text of each piece alone, one after the other, and the diagnostics
of each piece alone with one more for each open resource that another piece follows. A broken
resource adds no text, costs one diagnostic and leaves the text of the others as it would be without
it. -/
theorem emitAll_pieces (table : TraitTable) (pieces : List Piece) :
    ((Emitter.fresh table).emitAll (pieces.flatMap Piece.events)).1.text =
        String.join (pieces.map (Piece.text table)) ∧
      ((Emitter.fresh table).emitAll (pieces.flatMap Piece.events)).2 = joined table pieces ∧
      ∀ before p after, pieces = before ++ p :: after → p.Broken table →
        p.text table = "" ∧ (p.diagnostics table ++ p.interruption).length = 1 ∧
          ((Emitter.fresh table).emitAll (pieces.flatMap Piece.events)).1.text =
            ((Emitter.fresh table).emitAll ((before ++ after).flatMap Piece.events)).1.text := by
  have hall (pieces : List Piece) :
      ((Emitter.fresh table).emitAll (pieces.flatMap Piece.events)).1.text =
          String.join (pieces.map (Piece.text table)) ∧
        ((Emitter.fresh table).emitAll (pieces.flatMap Piece.events)).2 = joined table pieces := by
    have := emitFrom_pieces (idle_fresh table) pieces
    simpa [emitAll, Emitter.fresh] using this
  refine ⟨(hall pieces).1, (hall pieces).2, ?_⟩
  rintro before p after rfl hbroken
  obtain ⟨htext, hcost⟩ := hbroken.cost
  refine ⟨htext, hcost, ?_⟩
  rw [(hall _).1, (hall _).1]
  simp [String.join_append, htext]

end StackExport.Proofs.EmitterIsolation
