import Mathlib
import StackExport.Proofs.QueueRuns
import StackExport.Proofs.StreamNesting
/-!
What the lookahead behind a key sees and takes.

The value of a key is a run of comments and one complete value. The lookahead only counts levels;
because it gives the whole run whatever follows, it can give nothing as long as the run is cut off.
A queue answers as its list does, so `lookahead_exact` holds at every place of every queue.
-/
namespace StackExport.Proofs.ValueLookahead

open StackExport
open StackExport.Resource
open StackExport.Proofs.QueueRuns
open StackExport.Proofs.StreamNesting

/-- What stands behind a key: comments, and then one complete value. -/
def IsRun (run : List Event) : Prop :=
  ∃ comments value, run = comments ++ value ∧ (∀ e ∈ comments, e.isComment = true) ∧ IsValue value

/-- The stream ends before the run does. -/
def IsCutOff (events : List Event) : Prop :=
  ∃ missing, missing ≠ [] ∧ IsRun (events ++ missing)

/-! ### Lookahead in a list -/

theorem takeValue_eq_cut (events : List Event) :
    takeValue events = cut Gatherer.advance true .fresh events :=
  (cut_eq Gatherer.advance true .fresh events).symm

theorem takeValue_of_isRun {run : List Event} (h : IsRun run) (after : List Event) :
    takeValue (run ++ after) = some (run, after) := by
  obtain ⟨comments, value, rfl, hcomments, hvalue⟩ := h
  induction comments with
  | nil => exact takeValue_of_isValue hvalue after
  | cons e comments ih =>
      rw [List.forall_mem_cons] at hcomments
      cases e with
      | comment text =>
          rw [List.cons_append, List.cons_append, takeValue_comment, ih hcomments.2]
          rfl
      | key _ => cases hcomments.1
      | scalar _ => cases hcomments.1
      | start _ => cases hcomments.1
      | stop _ => cases hcomments.1

/-- A run that ends within a list also ends there when the list goes on. -/
theorem cut_append {α σ : Type} {step : σ → α → σ × Bool} {includeLast : Bool} {state : σ}
    {items run back : List α} (h : cut step includeLast state items = some (run, back))
    (more : List α) : cut step includeLast state (items ++ more) = some (run, back ++ more) := by
  induction items generalizing state run with
  | nil => cases h
  | cons item rest ih =>
      rw [List.cons_append, cut]
      rw [cut] at h
      rcases hstep : step state item with ⟨next, _ | _⟩
      · simp only [hstep, Option.map_eq_some_iff, Prod.mk.injEq, Prod.exists] at h ⊢
        obtain ⟨run', back', hcut, rfl, rfl⟩ := h
        exact ⟨run', back' ++ more, ih hcut, rfl, rfl⟩
      · cases includeLast with
        | false =>
            obtain ⟨rfl, rfl⟩ : [] = run ∧ item :: rest = back := by simpa [hstep] using h
            rfl
        | true =>
            obtain ⟨rfl, rfl⟩ : [item] = run ∧ rest = back := by simpa [hstep] using h
            rfl

/-- Behind a run that is cut off the lookahead finds no end, since the end that it would find would
also be that of the whole run. -/
theorem takeValue_of_isCutOff {events : List Event} (h : IsCutOff events) :
    takeValue events = none := by
  obtain ⟨missing, hmissing, hrun⟩ := h
  by_contra hsome
  obtain ⟨⟨run, back⟩, hcut⟩ := Option.ne_none_iff_exists'.mp hsome
  have hwhole := takeValue_of_isRun hrun []
  rw [takeValue_eq_cut] at hcut hwhole
  rw [List.append_nil, cut_append hcut missing, Option.some.injEq, Prod.mk.injEq] at hwhole
  exact hmissing (List.append_eq_nil_iff.mp hwhole.2).2

/-! ### Lookahead in a queue -/

theorem cutFrom_behind (before rest : List Event) (e : Event) :
    cutFrom (before ++ e :: rest) (before.length + 1) Gatherer.advance .fresh true =
      match takeValue rest with
      | some (run, after) => .ok (run, before ++ e :: after)
      | none => .error .endOfQueue := by
  have hdrop : (before ++ e :: rest).drop (before.length + 1) = rest := by
    simp [List.drop_append]
  have htake : (before ++ e :: rest).take (before.length + 1) = before ++ [e] := by
    simp [List.take_append]
  rw [cutFrom, if_neg (by simp), hdrop, htake, takeValue_eq_cut]
  cases cut Gatherer.advance true .fresh rest with
  | none => rfl
  | some split => simp

theorem peekValue_eq (q : Queue Event) (index : Nat) :
    q.peekValue index =
      (cutFrom q.toList (index + 1) Gatherer.advance .fresh true).map (·.1) := by
  rw [cutFrom_eq, Queue.peekValue, Queue.peekUntilFrom]
  cases q.runEnd (index + 1) Gatherer.advance Gatherer.fresh true <;> rfl

/-- Takes the key at the front and its value one after the other, the value first. What has been
taken is gone, also where the second step is refused. -/
def takeKey (q : Queue Event) : Answer Event × Queue Event :=
  match taken q .run (q.consumeUntilFrom 1 Gatherer.advance .fresh true) with
  | (.run value, left) => taken left (fun key => .run (key :: value)) left.popFront
  | refused => refused

/-- The second step is never refused, so a refusal changes nothing. -/
theorem takeKey_eq (q : Queue Event) : takeKey q = taken q .run q.consumeKey := by
  rw [takeKey, Queue.consumeKey]
  obtain ⟨run, left, hok, hcut, -⟩ | ⟨e, herror, -⟩ :=
    consumeUntilFrom_cases q 1 Gatherer.advance .fresh true
  · have hleft : left.toList ≠ [] := by
      obtain ⟨front, back, hfront, -, hlist⟩ := exists_of_cutFrom hcut
      rw [hlist]
      exact List.append_ne_nil_of_left_ne_nil (List.ne_nil_of_length_pos (by omega)) back
    obtain ⟨item, left', hpop, -⟩ | ⟨-, hnil⟩ := popFront_cases left
    · simp [hok, hpop, taken, bind, Except.bind, pure, Except.pure]
    · exact absurd hnil hleft
  · simp [herror, taken, bind, Except.bind]

theorem consumeKey_of_takeValue {q : Queue Event} {e : Event} {rest run after : List Event}
    (hq : q.toList = e :: rest) (h : takeValue rest = some (run, after)) :
    ∃ left, q.consumeKey = .ok (e :: run, left) ∧ left.toList = after ∧
      left.capacity = q.capacity := by
  have hcut : cutFrom q.toList 1 Gatherer.advance .fresh true = .ok (run, e :: after) := by
    rw [hq]
    simpa [h] using cutFrom_behind [] rest e
  obtain ⟨run', left, hok, hcut', hcapacity⟩ | ⟨_, -, hcut'⟩ :=
    consumeUntilFrom_cases q 1 Gatherer.advance .fresh true
  · obtain ⟨rfl, hleft⟩ : run = run' ∧ e :: after = left.toList := by simpa [hcut] using hcut'
    obtain ⟨item, left', hpop, hlist, hcapacity'⟩ | ⟨-, hnil⟩ := popFront_cases left
    · obtain ⟨rfl, rfl⟩ : e = item ∧ after = left'.toList := by simpa [← hleft] using hlist
      refine ⟨left', ?_, rfl, hcapacity'.trans hcapacity⟩
      simp [Queue.consumeKey, hok, hpop, bind, Except.bind, pure, Except.pure]
    · rw [hnil] at hleft
      cases hleft
  · rw [hcut] at hcut'
    cases hcut'

theorem consumeKey_of_takeValue_eq_none {q : Queue Event} {e : Event} {rest : List Event}
    (hq : q.toList = e :: rest) (h : takeValue rest = none) :
    q.consumeKey = .error .endOfQueue := by
  have hcut : cutFrom q.toList 1 Gatherer.advance .fresh true = .error .endOfQueue := by
    rw [hq]
    simpa [h] using cutFrom_behind [] rest e
  obtain ⟨_, _, -, hcut', -⟩ | ⟨fault, herror, hcut'⟩ :=
    consumeUntilFrom_cases q 1 Gatherer.advance .fresh true
  · rw [hcut] at hcut'
    cases hcut'
  · obtain rfl : QueueError.endOfQueue = fault := Except.error.inj (hcut.symm.trans hcut')
    simp [Queue.consumeKey, herror, bind, Except.bind]

/-- Behind a key at any place of a queue the lookahead sees exactly the comments and the value that
stand there, and a key at the front is taken with exactly these. Where they are cut off by the end
of the queue both are refused, and nothing has been taken. -/
theorem lookahead_exact (q : Queue Event) (before rest : List Event) (key : MappingKey)
    (hq : q.toList = before ++ .key key :: rest) :
    (∀ run after, IsRun run → rest = run ++ after →
      q.peekValue before.length = .ok run ∧
        (before = [] → ∃ left, q.consumeKey = .ok (.key key :: run, left) ∧
          takeKey q = (.run (.key key :: run), left) ∧ left.toList = after ∧
          left.capacity = q.capacity)) ∧
      (IsCutOff rest →
        q.peekValue before.length = .error .endOfQueue ∧
          (before = [] → q.consumeKey = .error .endOfQueue ∧
            takeKey q = (.refused .endOfQueue, q))) := by
  constructor
  · rintro run after hrun rfl
    have htake := takeValue_of_isRun hrun after
    refine ⟨?_, ?_⟩
    · rw [peekValue_eq, hq, cutFrom_behind, htake]
      rfl
    · rintro rfl
      obtain ⟨left, hconsume, hleft, hcapacity⟩ := consumeKey_of_takeValue hq htake
      refine ⟨left, hconsume, ?_, hleft, hcapacity⟩
      rw [takeKey_eq, hconsume]
      rfl
  · intro hcut
    have htake := takeValue_of_isCutOff hcut
    refine ⟨?_, ?_⟩
    · rw [peekValue_eq, hq, cutFrom_behind, htake]
      rfl
    · rintro rfl
      have hconsume := consumeKey_of_takeValue_eq_none hq htake
      refine ⟨hconsume, ?_⟩
      rw [takeKey_eq, hconsume]
      rfl

/-- A key whose value is a list with a comment, a map and an empty list in it. -/
def rules : MappingKey := .plain "rules" ⟨["rules"]⟩ .sequence

def rulesRun : List Event :=
  [.comment "first", .start .sequence, .comment "second", .start .mapping,
    .key (.plain "id" ⟨["rules", "0", "id"]⟩ .value), .scalar .null, .stop .mapping,
    .start .sequence, .stop .sequence, .stop .sequence]

theorem isRun_rulesRun : IsRun rulesRun := by
  refine ⟨[.comment "first"], _, rfl, by simp [Event.isComment], ?_⟩
  have hlist : WellNested [.start .sequence, .stop .sequence] := .group .sequence .nil .nil
  have hmap : WellNested [.key (.plain "id" ⟨["rules", "0", "id"]⟩ .value), .scalar .null] :=
    .neutral rfl (.neutral rfl .nil)
  exact .group .sequence (.neutral rfl (.group .mapping hmap hlist))

/-- The queue with a key, of whose value the last stop may be lacking. -/
def rulesQueue (rest : List Event) (h : (Event.key rules :: rest).length ≤ 16) : Queue Event :=
  .ofList (.key rules :: rest) 16 h (by decide)

theorem lookahead_exact_rules :
    (rulesQueue (rulesRun ++ [.stop .mapping]) (by decide)).toList =
        .key rules :: (rulesRun ++ [.stop .mapping]) ∧
      IsRun rulesRun ∧
      (rulesQueue (rulesRun ++ [.stop .mapping]) (by decide)).peekValue 0 = .ok rulesRun ∧
      IsCutOff rulesRun.dropLast ∧
      takeKey (rulesQueue rulesRun.dropLast (by decide)) =
        (.refused .endOfQueue, rulesQueue rulesRun.dropLast (by decide)) := by
  have hcut : IsCutOff rulesRun.dropLast := ⟨[.stop .sequence], by simp, isRun_rulesRun⟩
  refine ⟨by simp [rulesQueue], isRun_rulesRun, ?_, hcut, ?_⟩
  · exact ((lookahead_exact (rulesQueue (rulesRun ++ [.stop .mapping]) (by decide)) []
      (rulesRun ++ [.stop .mapping]) rules (by simp [rulesQueue])).1 _ _ isRun_rulesRun rfl).1
  · exact (((lookahead_exact (rulesQueue rulesRun.dropLast (by decide)) [] _ rules
      (by simp [rulesQueue])).2 hcut).2 rfl).2

end StackExport.Proofs.ValueLookahead
