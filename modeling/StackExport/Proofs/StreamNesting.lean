import StackExport.Resource.Writer
/-!
How the events of a stream nest, and where the value behind a key ends.

`Balanced` is the checker's answer without its event numbers, `WellNested` the grammar of what it
accepts, and `takeValue_of_isValue` says that the lookahead takes one complete value and no more.
-/
namespace StackExport.Proofs.StreamNesting

open StackExport
open StackExport.Resource

/-- The rest of a stream closes the given levels, the innermost first, and what it opens itself. -/
def Balanced (opened : List Group) (events : List Event) : Prop :=
  checkFrom 0 opened events = .ok ()

theorem checkFrom_eq_ok_iff (events : List Event) (opened : List Group) (i j : Nat) :
    checkFrom i opened events = .ok () ↔ checkFrom j opened events = .ok () := by
  induction events generalizing opened i j with
  | nil => cases opened <;> simp [checkFrom]
  | cons e rest ih =>
      cases e with
      | start o => simpa [checkFrom] using ih _ (i + 1) (j + 1)
      | stop g =>
          cases opened with
          | nil => simp [checkFrom]
          | cons h outer =>
              by_cases hgh : h = g
              · simpa [checkFrom, hgh] using ih outer (i + 1) (j + 1)
              · simp [checkFrom, hgh]
      | comment text => cases opened <;> simpa [checkFrom] using ih _ (i + 1) (j + 1)
      | key key => cases opened <;> simpa [checkFrom] using ih _ (i + 1) (j + 1)
      | scalar s => cases opened <;> simpa [checkFrom] using ih _ (i + 1) (j + 1)

theorem checkBalance_eq_ok_iff (events : List Event) :
    checkBalance events = .ok () ↔ Balanced [] events :=
  Iff.rfl

@[simp] theorem balanced_nil_iff {opened : List Group} :
    Balanced opened [] ↔ opened = [] := by
  cases opened <;> simp [Balanced, checkFrom]

@[simp] theorem balanced_start_iff {opened : List Group} {o : Opening} {rest : List Event} :
    Balanced opened (.start o :: rest) ↔ Balanced (o.group :: opened) rest := by
  simpa [Balanced, checkFrom] using checkFrom_eq_ok_iff rest (o.group :: opened) 1 0

theorem balanced_stop_iff {opened : List Group} {g : Group} {rest : List Event} :
    Balanced opened (.stop g :: rest) ↔
      ∃ outer, opened = g :: outer ∧ Balanced outer rest := by
  cases opened with
  | nil => simp [Balanced, checkFrom]
  | cons h outer =>
      by_cases hgh : h = g
      · simpa [Balanced, checkFrom, hgh] using checkFrom_eq_ok_iff rest outer 1 0
      · simp [Balanced, checkFrom, hgh]

@[simp] theorem balanced_cons_stop_iff {opened : List Group} {g : Group} {rest : List Event} :
    Balanced (g :: opened) (.stop g :: rest) ↔ Balanced opened rest := by
  simp [balanced_stop_iff]

/-- Comments, keys and scalars neither open nor close a level. -/
theorem balanced_neutral_iff {opened : List Group} {e : Event} {rest : List Event}
    (h : e.nesting = 0) : Balanced opened (e :: rest) ↔ Balanced opened rest := by
  cases e with
  | start o => simp [Event.nesting] at h
  | stop g => simp [Event.nesting] at h
  | comment text =>
      cases opened <;> simpa [Balanced, checkFrom] using checkFrom_eq_ok_iff rest _ 1 0
  | key key =>
      cases opened <;> simpa [Balanced, checkFrom] using checkFrom_eq_ok_iff rest _ 1 0
  | scalar s =>
      cases opened <;> simpa [Balanced, checkFrom] using checkFrom_eq_ok_iff rest _ 1 0

/-! ### Well-nested runs and complete values -/

/-- The runs of events in which every start is closed by the stop of its own group. -/
inductive WellNested : List Event → Prop where
  | nil : WellNested []
  | neutral {e : Event} {rest : List Event} (h : e.nesting = 0) (hrest : WellNested rest) :
      WellNested (e :: rest)
  | group (o : Opening) {body rest : List Event} (hbody : WellNested body)
      (hrest : WellNested rest) :
      WellNested (.start o :: (body ++ .stop o.group :: rest))

theorem WellNested.append {run run' : List Event} (h : WellNested run) (h' : WellNested run') :
    WellNested (run ++ run') := by
  induction h with
  | nil => exact h'
  | neutral he _ ih => exact .neutral he ih
  | group o hbody _ _ ih =>
      have := WellNested.group o hbody ih
      simpa using this

theorem WellNested.balanced_append_iff {run : List Event} (h : WellNested run)
    (opened : List Group) (rest : List Event) :
    Balanced opened (run ++ rest) ↔ Balanced opened rest := by
  induction h generalizing opened rest with
  | nil => exact Iff.rfl
  | neutral he _ ih => exact (balanced_neutral_iff he).trans (ih opened rest)
  | group o _ _ ihBody ihRest =>
      rw [List.cons_append, balanced_start_iff, List.append_assoc, ihBody, List.cons_append,
        balanced_cons_stop_iff, ihRest]

theorem WellNested.balanced {run : List Event} (h : WellNested run) : Balanced [] run := by
  have := (h.balanced_append_iff [] []).2 (by simp)
  simpa using this

/-- The nesting depth that a run adds. -/
def depth : List Event → Int
  | [] => 0
  | e :: rest => e.nesting + depth rest

@[simp] theorem depth_nil : depth [] = 0 := rfl

@[simp] theorem depth_cons (e : Event) (rest : List Event) :
    depth (e :: rest) = e.nesting + depth rest := rfl

@[simp] theorem depth_append (run run' : List Event) :
    depth (run ++ run') = depth run + depth run' := by
  induction run with
  | nil => simp
  | cons e rest ih =>
      rw [List.cons_append, depth_cons, depth_cons, ih]
      omega

theorem WellNested.depth_eq_zero {run : List Event} (h : WellNested run) : depth run = 0 := by
  induction h with
  | nil => rfl
  | neutral he _ ih => simp [he, ih]
  | group o _ _ ihBody ihRest => simp [Event.nesting, ihBody, ihRest]

/-- A well-nested run never falls below the level at which it starts. -/
theorem WellNested.depth_take_nonneg {run : List Event} (h : WellNested run) (n : Nat) :
    0 ≤ depth (run.take n) := by
  induction h generalizing n with
  | nil => simp
  | neutral he _ ih =>
      cases n with
      | zero => simp
      | succ n => simpa [he] using ih n
  | @group o body rest hbody _ ihBody ihRest =>
      cases n with
      | zero => simp
      | succ n =>
          rw [List.take_succ_cons, depth_cons, List.take_append, depth_append]
          have hstart : (Event.start o).nesting = 1 := rfl
          have hin := ihBody n
          cases hk : n - body.length with
          | zero => simp only [List.take_zero, depth_nil]; omega
          | succ k =>
              have hout := ihRest k
              have hfull : body.take n = body := List.take_of_length_le (by omega)
              have hstop : (Event.stop o.group).nesting = -1 := rfl
              rw [List.take_succ_cons, depth_cons, hfull, hbody.depth_eq_zero]
              omega

/-- One complete value: a scalar, or a start event through the stop that closes it. -/
inductive IsValue : List Event → Prop where
  | scalar (s : Scalar) : IsValue [.scalar s]
  | group (o : Opening) {body : List Event} (hbody : WellNested body) :
      IsValue (.start o :: (body ++ [.stop o.group]))

theorem IsValue.wellNested {value : List Event} (h : IsValue value) : WellNested value := by
  cases h with
  | scalar s => exact .neutral rfl .nil
  | group o hbody => exact .group o hbody .nil

/-! ### Lookahead -/

theorem firstHit_wellNested {run : List Event} (h : WellNested run) (rest : List Event)
    {k : Int} (hk : 0 < k) :
    Queue.firstHit Gatherer.advance ⟨k, true⟩ (run ++ rest) =
      (Queue.firstHit Gatherer.advance ⟨k, true⟩ rest).map (· + run.length) := by
  induction h generalizing rest k with
  | nil => simp
  | @neutral e run he _ ih =>
      have hstep : Gatherer.advance ⟨k, true⟩ e = (⟨k, true⟩, false) := by
        cases hc : e.isComment <;> simp [Gatherer.advance, hc, he, hk]
      rw [List.cons_append, Queue.firstHit, hstep]
      simp only [ih rest hk, Option.map_map, List.length_cons]
      rfl
  | @group o body run _ _ ihBody ihRest =>
      have hopen : Gatherer.advance ⟨k, true⟩ (.start o) = (⟨k + 1, true⟩, false) := by
        have : ¬ k + 1 ≤ 0 := by omega
        simp [Gatherer.advance, Event.isComment, Event.nesting, this]
      have hclose : Gatherer.advance ⟨k + 1, true⟩ (.stop o.group) = (⟨k, true⟩, false) := by
        have : k + 1 + -1 = k := by omega
        simp [Gatherer.advance, Event.isComment, Event.nesting, this, hk]
      rw [List.cons_append, Queue.firstHit, hopen]
      simp only [List.append_assoc, List.cons_append]
      rw [ihBody _ (by omega), Queue.firstHit, hclose]
      simp only [ihRest rest hk, Option.map_map, List.length_cons, List.length_append]
      congr 1
      funext n
      simp only [Function.comp_apply]
      omega

/-- An event that opens nothing and is no comment ends the lookahead at once. -/
theorem takeValue_of_nesting_le_zero {e : Event} (hc : e.isComment = false)
    (he : e.nesting ≤ 0) (rest : List Event) : takeValue (e :: rest) = some ([e], rest) := by
  simp [takeValue, Queue.firstHit, Gatherer.advance, Gatherer.fresh, hc, he]

/-- The lookahead takes a complete value, whatever follows. -/
theorem takeValue_of_isValue {value : List Event} (h : IsValue value) (rest : List Event) :
    takeValue (value ++ rest) = some (value, rest) := by
  cases h with
  | scalar s => exact takeValue_of_nesting_le_zero rfl (by simp [Event.nesting]) rest
  | @group o body hbody =>
      have hhit : Queue.firstHit Gatherer.advance .fresh
          (.start o :: (body ++ [.stop o.group]) ++ rest) = some (body.length + 1) := by
        simp only [List.cons_append, List.append_assoc, List.nil_append]
        change (Queue.firstHit Gatherer.advance ⟨1, true⟩
          (body ++ .stop o.group :: rest)).map (· + 1) = _
        have hstop : Queue.firstHit Gatherer.advance ⟨1, true⟩ (.stop o.group :: rest) =
            some 0 := by
          simp [Queue.firstHit, Gatherer.advance, Event.isComment, Event.nesting]
        rw [firstHit_wellNested hbody _ (by omega), hstop]
        simp
      have hlen : body.length + 1 + 1 =
          (Event.start o :: (body ++ [.stop o.group])).length := by simp
      rw [takeValue, hhit, Option.map_some, List.splitAt_eq, hlen, List.take_left,
        List.drop_left]

theorem takeValue_comment (text : String) (rest : List Event) :
    takeValue (.comment text :: rest) =
      (takeValue rest).map fun split => (.comment text :: split.1, split.2) := by
  have hhit : Queue.firstHit Gatherer.advance .fresh (.comment text :: rest) =
      (Queue.firstHit Gatherer.advance .fresh rest).map (· + 1) := rfl
  rw [takeValue, takeValue, hhit, Option.map_map, Option.map_map]
  congr 1
  funext n
  simp [List.splitAt_eq]

/-- A value comes next, comments aside: the next event is a scalar or a start. -/
def ValueAhead : List Event → Prop
  | .comment _ :: rest => ValueAhead rest
  | .scalar _ :: _ | .start _ :: _ => True
  | _ => False

/-- The stop of the level around comes next, comments aside. -/
def StopAhead : List Event → Prop
  | .comment _ :: rest => StopAhead rest
  | .stop _ :: _ => True
  | _ => False

theorem IsValue.valueAhead_append {value : List Event} (h : IsValue value) (rest : List Event) :
    ValueAhead (value ++ rest) := by
  cases h <;> trivial

theorem not_stopAhead_of_valueAhead {events : List Event} (h : ValueAhead events) :
    ¬ StopAhead events := by
  induction events with
  | nil => exact h.elim
  | cons e rest ih =>
      cases e with
      | comment text => exact ih h
      | scalar s => exact id
      | start o => exact id
      | key key => exact h.elim
      | stop g => exact h.elim

/-- Behind the stop that ends the lookahead the levels around it are open again. -/
theorem balanced_drop_of_firstHit {events : List Event} {inner opened : List Group} {n : Nat}
    (hinner : inner ≠ []) (hb : Balanced (inner ++ opened) events)
    (hn : Queue.firstHit Gatherer.advance ⟨inner.length, true⟩ events = some n) :
    Balanced opened (events.drop (n + 1)) := by
  induction events generalizing inner n with
  | nil => simp [Queue.firstHit] at hn
  | cons e rest ih =>
      have hpos : 0 < inner.length := List.length_pos_iff.2 hinner
      -- an event that leaves the level open goes on to the rest
      have hgo : ∀ inner' : List Group, inner' ≠ [] → Balanced (inner' ++ opened) rest →
          Gatherer.advance ⟨inner.length, true⟩ e = (⟨inner'.length, true⟩, false) →
          Balanced opened ((e :: rest).drop (n + 1)) := by
        intro inner' hne hb' hadvance
        rw [Queue.firstHit, hadvance] at hn
        obtain ⟨m, hm, rfl⟩ := Option.map_eq_some_iff.1 hn
        simpa using ih hne hb' hm
      have hneutral : e.nesting = 0 → Balanced opened ((e :: rest).drop (n + 1)) := by
        intro he
        refine hgo inner hinner ((balanced_neutral_iff he).1 hb) ?_
        have : ¬ (inner.length : Int) ≤ 0 := by omega
        cases hc : e.isComment <;> simp [Gatherer.advance, hc, he, hinner]
      cases e with
      | comment text => exact hneutral rfl
      | key key => exact hneutral rfl
      | scalar s => exact hneutral rfl
      | start o =>
          refine hgo (o.group :: inner) (by simp) (balanced_start_iff.1 hb) ?_
          have : ¬ (inner.length : Int) + 1 ≤ 0 := by omega
          simp [Gatherer.advance, Event.isComment, Event.nesting, this]
      | stop g =>
          obtain ⟨outer, houter, hb'⟩ := balanced_stop_iff.1 hb
          obtain ⟨h, tail, rfl⟩ := List.exists_cons_of_ne_nil hinner
          rw [List.cons_append, List.cons.injEq] at houter
          obtain ⟨-, rfl⟩ := houter
          cases tail with
          | nil =>
              have hn0 : n = 0 := by
                simpa [Queue.firstHit, Gatherer.advance, Event.isComment, Event.nesting,
                  eq_comm] using hn
              subst hn0
              simpa using hb'
          | cons h' tail =>
              refine hgo (h' :: tail) (by simp) hb' ?_
              have hdepth : ((tail.length : Int) + 1 + 1) + -1 = tail.length + 1 := by omega
              have : ¬ (tail.length : Int) + 1 ≤ 0 := by omega
              simp [Gatherer.advance, Event.isComment, Event.nesting, hdepth, this]

/-- What the lookahead takes in a balanced stream is balanced itself, unless it meets the stop of
the level around: that level is then closed without notice. -/
theorem balanced_of_takeValue {events value tail : List Event} {opened : List Group}
    (hb : Balanced opened events) (ht : takeValue events = some (value, tail)) :
    (¬ StopAhead events → Balanced opened tail) ∧
      (StopAhead events → ∃ g outer, opened = g :: outer ∧ Balanced outer tail) := by
  induction events generalizing value with
  | nil => simp [takeValue, Queue.firstHit] at ht
  | cons e rest ih =>
      cases e with
      | comment text =>
          rw [takeValue_comment] at ht
          obtain ⟨⟨value', tail'⟩, ht', heq⟩ := Option.map_eq_some_iff.1 ht
          obtain rfl : tail' = tail := congrArg Prod.snd heq
          exact ih ((balanced_neutral_iff rfl).1 hb) ht'
      | scalar s =>
          have hsplit := takeValue_of_nesting_le_zero (e := .scalar s) rfl
            (by simp [Event.nesting]) rest
          obtain rfl : rest = tail := congrArg Prod.snd (Option.some.inj (hsplit.symm.trans ht))
          exact ⟨fun _ => (balanced_neutral_iff rfl).1 hb, fun h => h.elim⟩
      | key key =>
          have hsplit := takeValue_of_nesting_le_zero (e := .key key) rfl
            (by simp [Event.nesting]) rest
          obtain rfl : rest = tail := congrArg Prod.snd (Option.some.inj (hsplit.symm.trans ht))
          exact ⟨fun _ => (balanced_neutral_iff rfl).1 hb, fun h => h.elim⟩
      | stop g =>
          have hsplit := takeValue_of_nesting_le_zero (e := .stop g) rfl
            (by simp [Event.nesting]) rest
          obtain rfl : rest = tail := congrArg Prod.snd (Option.some.inj (hsplit.symm.trans ht))
          obtain ⟨outer, rfl, hb'⟩ := balanced_stop_iff.1 hb
          exact ⟨fun h => (h trivial).elim, fun _ => ⟨g, outer, rfl, hb'⟩⟩
      | start o =>
          refine ⟨fun _ => ?_, fun h => h.elim⟩
          obtain ⟨n, hn, hsplit⟩ := Option.map_eq_some_iff.1 ht
          change (Queue.firstHit Gatherer.advance ⟨1, true⟩ rest).map (· + 1) = some n at hn
          obtain ⟨m, hm, rfl⟩ := Option.map_eq_some_iff.1 hn
          rw [List.splitAt_eq, Prod.mk.injEq, List.drop_succ_cons] at hsplit
          have hb' : Balanced ([o.group] ++ opened) rest := balanced_start_iff.1 hb
          exact hsplit.2 ▸ balanced_drop_of_firstHit (by simp) hb' hm

/-! ### Keys and their values -/

/-- Every key stands directly before one complete value, and something other than a value follows
that. -/
def KeysFed : List Event → Prop
  | [] => True
  | .key _ :: rest =>
    (∃ value e tail, rest = value ++ e :: tail ∧ IsValue value ∧ ¬ ValueAhead [e]) ∧
      KeysFed rest
  | _ :: rest => KeysFed rest

theorem KeysFed.of_append {before after : List Event} (h : KeysFed (before ++ after)) :
    KeysFed after := by
  induction before with
  | nil => exact h
  | cons e before ih =>
      cases e with
      | key _ => exact ih h.2
      | comment text => exact ih h
      | scalar s => exact ih h
      | start o => exact ih h
      | stop g => exact ih h

end StackExport.Proofs.StreamNesting
