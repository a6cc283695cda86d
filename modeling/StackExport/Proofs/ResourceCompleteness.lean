import Mathlib
import StackExport.Proofs.WriterRun
/-!
When the text of a resource is complete.

The writer trusts the lookahead to show it a value behind every key. A key directly before the stop
of its level breaks that trust: written, it is left without a value; left out, it takes the stop
along. `writtenCompletely_iff` says that nothing else can leave a resource half written.
-/
namespace StackExport.Proofs.ResourceCompleteness

open Relation
open StackExport
open StackExport.Resource
open StackExport.Proofs.StreamNesting
open StackExport.Proofs.WriterRun

variable {c : Context} {d d' : Draft} {key : MappingKey} {events rest : List Event}
  {a b : Draft × List Event} {k : Nat}

/-- What is known while the events of a resource are written. -/
def contextOf (traits : ResourceTraits) (events : List Event) : Context :=
  ⟨traits, match populatedPaths traits events with
    | .ok populated => populated
    | .error _ => []⟩

/-- The writer comes to a draft and a rest of the stream. -/
def Reaches (traits : ResourceTraits) (events : List Event) (d : Draft) (rest : List Event) :
    Prop :=
  ReflTransGen (Step (contextOf traits events)) (.empty, events) (d, rest)

/-- What holds before the stream is read and is kept by every step on the way holds wherever the
writer comes. -/
theorem Reaches.invariant {traits : ResourceTraits} {P : Draft × List Event → Prop}
    (h : Reaches traits events d rest) (hstart : P (.empty, events))
    (hstep : ∀ a b, Reaches traits events a.1 a.2 → Step (contextOf traits events) a b →
      P a → P b) : P (d, rest) := by
  unfold Reaches at h
  generalize (d, rest) = b at h
  induction h with
  | refl => exact hstart
  | tail hreach step ih => exact hstep _ _ hreach step ih

/-- A key at the front of the stream is written. -/
def Writes (c : Context) (d : Draft) (key : MappingKey) (rest : List Event) : Prop :=
  d.filters? = some false ∨
    d.filters? = some true ∧ c.shouldWrite key (c.applyDefault key rest) = .ok true

/-- A key at the front of the stream is left out. -/
def LeavesOut (c : Context) (d : Draft) (key : MappingKey) (rest : List Event) : Prop :=
  d.filters? = some true ∧ c.shouldWrite key (c.applyDefault key rest) = .ok false

/-- A resource is written completely: in the end no level is open, no block is pending and no key
waits for its value, and at every moment the value of a waiting key comes next. -/
def WrittenCompletely (traits : ResourceTraits) (events : List Event) (text : String) : Prop :=
  ∃ d, Reaches traits events d [] ∧ d.text = text ∧ Rests d [] ∧
    ∀ d' rest, Reaches traits events d' rest → Waiting d' → ValueAhead rest

/-- Behind every key that is written comes a value, and no key that is left out stands directly
before the stop of its level. -/
def KeysAnswered (traits : ResourceTraits) (events : List Event) : Prop :=
  ∀ d key rest, Reaches traits events d (.key key :: rest) →
    (Writes (contextOf traits events) d key rest → ValueAhead rest) ∧
      (LeavesOut (contextOf traits events) d key rest → ¬ StopAhead rest)

/-! ### Defaults change no structure -/

theorem applyDefault_cases (c : Context) (key : MappingKey) (rest : List Event) :
    c.applyDefault key rest = rest ∨
      ∃ s s' tail, rest = .scalar s :: tail ∧ c.applyDefault key rest = .scalar s' :: tail := by
  unfold Context.applyDefault
  split
  case h_1 tail => exact .inr ⟨_, _, tail, rfl, rfl⟩
  case h_2 => exact .inl rfl

theorem applyDefault_append (c : Context) (key : MappingKey) {value : List Event}
    (hv : IsValue value) (rest : List Event) :
    c.applyDefault key (value ++ rest) = value ++ rest ∨
      ∃ s s', value = [.scalar s] ∧
        c.applyDefault key (value ++ rest) = [.scalar s'] ++ rest := by
  rcases applyDefault_cases c key (value ++ rest) with h | ⟨s, s', tail, heq, h⟩
  · exact .inl h
  · cases hv with
    | scalar s₀ =>
        obtain ⟨-, rfl⟩ := List.cons.inj heq
        exact .inr ⟨s₀, s', rfl, h⟩
    | group o hbody => cases heq

theorem balanced_applyDefault_iff {opened : List Group} :
    Balanced opened (c.applyDefault key rest) ↔ Balanced opened rest := by
  rcases applyDefault_cases c key rest with h | ⟨s, s', tail, rfl, h⟩
  · rw [h]
  · rw [h, balanced_neutral_iff rfl, balanced_neutral_iff rfl]

theorem valueAhead_applyDefault_iff : ValueAhead (c.applyDefault key rest) ↔ ValueAhead rest := by
  rcases applyDefault_cases c key rest with h | ⟨s, s', tail, rfl, h⟩
  · rw [h]
  · rw [h]; exact Iff.rfl

theorem stopAhead_applyDefault_iff : StopAhead (c.applyDefault key rest) ↔ StopAhead rest := by
  rcases applyDefault_cases c key rest with h | ⟨s, s', tail, rfl, h⟩
  · rw [h]
  · rw [h]; exact Iff.rfl

theorem keysFed_applyDefault_iff : KeysFed (c.applyDefault key rest) ↔ KeysFed rest := by
  rcases applyDefault_cases c key rest with h | ⟨s, s', tail, rfl, h⟩
  · rw [h]
  · rw [h]; exact Iff.rfl

/-! ### Levels of the text and of the stream -/

/-- The text has `k` more open levels than the stream. -/
def Levels (k : Nat) (a : Draft × List Event) : Prop :=
  ∃ opened, Balanced opened a.2 ∧ a.1.frames.length = opened.length + k

theorem dropStop_eq_some_iff {o : Opening} {tail : List Event} :
    dropStop o rest = some tail ↔ rest = .stop o.group :: tail := by
  unfold dropStop
  split
  case h_1 g tail' => simp only [Option.ite_none_right_eq_some, Option.some.injEq,
    List.cons.injEq, Event.stop.injEq]
  case h_2 h =>
      constructor
      · intro hn
        cases hn
      · intro hr
        exact (h _ _ hr).elim

/-- The lookahead of a key that is left out takes a stop along if nothing else comes first. -/
theorem levels_of_takeValue {value tail : List Event}
    (hl : Levels k (d, .key key :: rest))
    (ht : takeValue (c.applyDefault key rest) = some (value, tail)) :
    (¬ StopAhead rest → Levels k (d, tail)) ∧ (StopAhead rest → Levels (k + 1) (d, tail)) := by
  obtain ⟨opened, hb, hlen⟩ := hl
  have hb : Balanced opened (c.applyDefault key rest) :=
    balanced_applyDefault_iff.2 ((balanced_neutral_iff rfl).1 hb)
  obtain ⟨hkeep, hlose⟩ := balanced_of_takeValue hb ht
  rw [stopAhead_applyDefault_iff] at hkeep hlose
  refine ⟨fun hs => ⟨opened, hkeep hs, hlen⟩, fun hs => ?_⟩
  obtain ⟨g, outer, rfl, hb'⟩ := hlose hs
  refine ⟨outer, hb', ?_⟩
  simp only [List.length_cons] at hlen
  simp only
  omega

/-- A step keeps the levels of text and stream in step, unless it leaves out a key that stands
before a stop. -/
theorem levels_of_step (h : Step c a b) (hl : Levels k a) :
    Levels k b ∨ Levels (k + 1) b ∧
      ∃ d key rest, a = (d, .key key :: rest) ∧ LeavesOut c d key rest ∧ StopAhead rest := by
  cases h with
  | @leaveOut d key rest value tail hf hw ht =>
      obtain ⟨hkeep, hlose⟩ := levels_of_takeValue hl ht
      by_cases hs : StopAhead rest
      · exact .inr ⟨hlose hs, _, _, _, rfl, ⟨hf, hw⟩, hs⟩
      · exact .inl (hkeep hs)
  | comment d text rest =>
      obtain ⟨opened, hb, hlen⟩ := hl
      exact .inl ⟨opened, (balanced_neutral_iff rfl).1 hb, hlen⟩
  | scalar rest hd =>
      obtain ⟨opened, hb, hlen⟩ := hl
      refine .inl ⟨opened, (balanced_neutral_iff rfl).1 hb, ?_⟩
      simpa only [(of_scalar_eq_ok hd).2.1] using hlen
  | swallow hs ht hd =>
      obtain ⟨opened, hb, hlen⟩ := hl
      obtain rfl := dropStop_eq_some_iff.1 ht
      refine .inl ⟨opened, by simpa using hb, ?_⟩
      simpa only [frames_of_start_swallow_eq_ok hs hd] using hlen
  | start hs hd =>
      obtain ⟨opened, hb, hlen⟩ := hl
      obtain ⟨f, -, hf⟩ := exists_frame_of_start_eq_ok hd
      refine .inl ⟨_, balanced_start_iff.1 hb, ?_⟩
      simp only [hf, List.length_cons]
      simp only at hlen
      omega
  | stop rest hd =>
      obtain ⟨opened, hb, hlen⟩ := hl
      obtain ⟨f, outer, hf, -, hf', -⟩ := of_stop_eq_ok hd
      obtain ⟨opened', rfl, hb'⟩ := balanced_stop_iff.1 hb
      refine .inl ⟨opened', hb', ?_⟩
      simp only [hf, List.length_cons] at hlen
      simp only [hf']
      omega
  | datum rest hf =>
      obtain ⟨opened, hb, hlen⟩ := hl
      exact .inl ⟨opened, (balanced_neutral_iff rfl).1 hb, by simpa using hlen⟩
  | write hf hw =>
      obtain ⟨opened, hb, hlen⟩ := hl
      exact .inl ⟨opened, balanced_applyDefault_iff.2 ((balanced_neutral_iff rfl).1 hb),
        by simpa using hlen⟩

/-- A level that the stream has closed without notice stays open in the text. -/
theorem levels_of_steps (h : ReflTransGen (Step c) a b) (hl : Levels k a) :
    ∃ k', k ≤ k' ∧ Levels k' b := by
  induction h with
  | refl => exact ⟨k, Nat.le_refl k, hl⟩
  | tail _ hstep ih =>
      obtain ⟨k', hk, hl'⟩ := ih
      rcases levels_of_step hstep hl' with h | ⟨h, -⟩
      · exact ⟨k', hk, h⟩
      · exact ⟨k' + 1, by omega, h⟩

theorem levels_nil (h : Levels k (d, [])) : d.frames.length = k := by
  obtain ⟨opened, hb, hlen⟩ := h
  obtain rfl := balanced_nil_iff.1 hb
  simpa using hlen

/-! ### Keys waiting for their values -/

/-- What every step keeps as long as each key that is written has a value ahead. -/
structure Sound (d : Draft) (rest : List Event) : Prop where
  pending_place : d.pending.isSome → d.inline = false ∧ d.filters?.isSome
  inline_place : d.inline = true → d.frames.head? = some .json ∨ d.filters?.isSome
  answered : Waiting d → ValueAhead rest

theorem sound_of_idle (hp : d.pending = none) (hi : d.inline = false) : Sound d rest where
  pending_place h := by simp [hp] at h
  inline_place h := by simp [hi] at h
  answered h := by simp [Waiting, hp, hi] at h

theorem filters?_congr (h : d'.frames = d.frames) : d'.filters? = d.filters? := by
  simp only [Draft.filters?, h]

namespace Sound

theorem pending_eq_none_of_ready (hs : Sound d rest) (hr : Ready d) : d.pending = none := by
  by_contra hp
  obtain ⟨hi, hf⟩ := hs.pending_place (Option.isSome_iff_ne_none.2 hp)
  rw [inline_of_ready_of_filters? hf hr] at hi
  cases hi

/-- Where no value comes next, no key waits. -/
theorem idle_of_not_valueAhead (hs : Sound d rest) (hv : ¬ ValueAhead rest) :
    d.pending = none ∧ (d.inline = true → d.frames.head? = some .json) := by
  have hw : ¬ Waiting d := fun h => hv (hs.answered h)
  unfold Waiting at hw
  push Not at hw
  exact ⟨by simpa using hw.1, hw.2⟩

/-- Before a key no line is open. -/
theorem idle_of_filters? {filtered : Bool} (hs : Sound d (.key key :: rest))
    (hf : d.filters? = some filtered) : d.pending = none ∧ d.inline = false := by
  obtain ⟨hp, hi⟩ := hs.idle_of_not_valueAhead id
  obtain ⟨f, outer, hframes, hjson, -⟩ := exists_frame_of_filters? (d := d) (by simp [hf])
  refine ⟨hp, Bool.eq_false_iff.2 fun h => ?_⟩
  have := hi h
  simp [hframes, hjson] at this

theorem writeKey {filtered : Bool} (hs : Sound d (.key key :: rest))
    (hf : d.filters? = some filtered) {ahead : List Event} (hv : ValueAhead ahead) :
    Sound (d.writeKey key) ahead := by
  obtain ⟨hp, hi⟩ := hs.idle_of_filters? hf
  have hplace : (d.writeKey key).filters?.isSome := by
    rw [filters?_congr (writeKey_frames d key), hf]
    rfl
  rcases writeKey_cases d key with ⟨-, -, -, hi'⟩ | ⟨-, hp', -⟩
  · exact ⟨fun _ => ⟨hi'.trans hi, hplace⟩, fun _ => .inr hplace, fun _ => hv⟩
  · refine ⟨fun h => ?_, fun _ => .inr hplace, fun _ => hv⟩
    rw [hp', hp] at h
    cases h

theorem start {o : Opening} {isEmpty : Bool} (hs : Sound d (.start o :: rest))
    (h : d.start o isEmpty = .ok d') {ahead : List Event} : Sound d' ahead := by
  cases o with
  | resource type name =>
      obtain ⟨hframes, -, hp', hi'⟩ := of_start_resource_eq_ok h
      have hf : ¬ d.filters?.isSome := by simp [Draft.filters?, hframes]
      refine sound_of_idle (hp'.trans ?_) (hi'.trans ?_)
      · by_contra hp
        exact hf (hs.pending_place (Option.isSome_iff_ne_none.2 hp)).2
      · refine Bool.eq_false_iff.2 fun hi => ?_
        rcases hs.inline_place hi with hj | hj
        · simp [hframes] at hj
        · exact hf hj
  | sequence =>
      obtain ⟨hp', ⟨hp, -, hi'⟩ | ⟨-, -, hi', -⟩⟩ := of_start_sequence_eq_ok h
      · exact sound_of_idle hp' (hi'.trans (hs.pending_place (by simp [hp])).1)
      · exact sound_of_idle hp' hi'
  | mapping =>
      obtain ⟨hr, hp', hi', -⟩ := of_start_mapping_eq_ok h
      exact sound_of_idle (hp'.trans (hs.pending_eq_none_of_ready hr)) hi'
  | block name =>
      obtain ⟨hplace, -, hp', hi'⟩ := of_start_block_eq_ok h
      refine sound_of_idle hp' (hi'.trans ?_)
      rcases hplace with hb | hp
      · -- a key waiting on the line would stand in a body, not among blocks
        refine Bool.eq_false_iff.2 fun hi => ?_
        rcases hs.inline_place hi with hj | hj
        · simp [hb] at hj
        · obtain ⟨f, outer, hframes, -, -, hne⟩ := exists_frame_of_filters? hj
          simp [hframes, hne] at hb
      · exact (hs.pending_place (by simp [hp])).1
  | json =>
      obtain ⟨hr, hframes, hp', -⟩ := of_start_json_eq_ok h
      have hp : d'.pending = none := hp'.trans (hs.pending_eq_none_of_ready hr)
      have hhead : d'.frames.head? = some .json := by rw [hframes]; rfl
      refine ⟨fun hp'' => by simp [hp] at hp'', fun _ => .inl hhead, fun hw => ?_⟩
      simp [Waiting, hp, hhead] at hw

theorem stop {g : Group} (hs : Sound d (.stop g :: rest)) (h : d.stop g = .ok d') :
    Sound d' rest := by
  obtain ⟨hp, hi⟩ := hs.idle_of_not_valueAhead id
  obtain ⟨f, outer, hf, -, -, hp', hi'⟩ := of_stop_eq_ok h
  refine sound_of_idle (hp'.trans hp) (Bool.eq_false_iff.2 fun hinline => ?_)
  obtain ⟨hd, hne⟩ := hi' hinline
  have := hi hd
  simp [hf, hne] at this

end Sound

theorem sound_of_step (h : Step c a b) (hs : Sound a.1 a.2)
    (hkey : ∀ key rest, a.2 = .key key :: rest → Writes c a.1 key rest → ValueAhead rest) :
    Sound b.1 b.2 := by
  cases h with
  | comment d text rest => exact ⟨hs.pending_place, hs.inline_place, hs.answered⟩
  | scalar rest h =>
      obtain ⟨hr, -, hp', hi'⟩ := of_scalar_eq_ok h
      exact sound_of_idle (hp'.trans (hs.pending_eq_none_of_ready hr)) hi'
  | swallow _ _ h => exact hs.start h
  | start _ h => exact hs.start h
  | stop rest h => exact hs.stop h
  | datum rest hf => exact hs.writeKey hf (hkey _ _ rfl (.inl hf))
  | write hf hw =>
      exact hs.writeKey hf (valueAhead_applyDefault_iff.2 (hkey _ _ rfl (.inr ⟨hf, hw⟩)))
  | leaveOut hf hw ht =>
      obtain ⟨hp, hi⟩ := hs.idle_of_filters? hf
      exact sound_of_idle hp hi

/-! ### Complete resources -/

theorem write_eq_ok_iff {traits : ResourceTraits} {text : String} :
    write traits events = .ok text ↔
      Balanced [] events ∧ (∃ populated, populatedPaths traits events = .ok populated) ∧
        ∃ d, Reaches traits events d [] ∧ d.text = text := by
  constructor
  · intro h
    unfold write at h
    split at h
    case h_2 => cases h
    case h_1 d hd =>
        cases h
        unfold draft at hd
        split at hd
        case h_1 => cases hd
        case h_2 hb =>
            obtain ⟨populated, hp, hd⟩ := exists_of_bind_eq_ok hd
            refine ⟨hb, ⟨populated, hp⟩, d, ?_, rfl⟩
            have hc : contextOf traits events = ⟨traits, populated⟩ := by
              simp only [contextOf, hp]
            rw [Reaches, hc]
            exact writeEvents_eq_ok_iff.1 hd
  · rintro ⟨hb, ⟨populated, hp⟩, d, hd, rfl⟩
    have hc : contextOf traits events = ⟨traits, populated⟩ := by
      simp only [contextOf, hp]
    rw [Reaches, hc] at hd
    have hb : checkBalance events = .ok () := hb
    have hdraft : draft traits events = .ok d := by
      rw [draft, hb]
      simp only [hp, bind, Except.bind]
      exact writeEvents_eq_ok_iff.2 hd
    rw [write, hdraft]

/-- All runs of the writer go to the same end. -/
theorem reaches_end {traits : ResourceTraits} (h : Reaches traits events d' rest)
    (hend : Reaches traits events d []) :
    ReflTransGen (Step (contextOf traits events)) (d', rest) (d, []) := by
  rw [← writeEvents_eq_ok_iff]
  have hall := writeEvents_eq_ok_iff.2 hend
  exact (writeEvents_eq_of_steps h).symm.trans hall

theorem levels_of_reaches {traits : ResourceTraits} (hb : Balanced [] events)
    (h : Reaches traits events d rest) : ∃ k, Levels k (d, rest) := by
  have hstart : Levels 0 (Draft.empty, events) := ⟨[], hb, rfl⟩
  obtain ⟨k, -, hk⟩ := levels_of_steps h hstart
  exact ⟨k, hk⟩

/-- While every key is answered the levels of text and stream stay in step and no key is left
waiting. -/
theorem invariant_of_reaches {traits : ResourceTraits} (hb : Balanced [] events)
    (hk : KeysAnswered traits events) (h : Reaches traits events d rest) :
    Levels 0 (d, rest) ∧ Sound d rest := by
  refine h.invariant (P := fun a => Levels 0 a ∧ Sound a.1 a.2)
    ⟨⟨[], hb, rfl⟩, sound_of_idle rfl rfl⟩ ?_
  rintro a b hreach hstep ⟨hl, hs⟩
  have hka : ∀ key rest, a.2 = .key key :: rest →
      (Writes (contextOf traits events) a.1 key rest → ValueAhead rest) ∧
        (LeavesOut (contextOf traits events) a.1 key rest → ¬ StopAhead rest) := by
    intro key rest ha
    refine hk a.1 key rest ?_
    rw [← ha]
    exact hreach
  refine ⟨?_, sound_of_step hstep hs fun key rest ha => (hka key rest ha).1⟩
  rcases levels_of_step hstep hl with h | ⟨-, d, key, rest, rfl, hout, hstop⟩
  · exact h
  · exact absurd hstop ((hka key rest rfl).2 hout)

theorem waiting_writeKey (hf : d.filters?.isSome) : Waiting (d.writeKey key) := by
  rcases writeKey_cases d key with ⟨-, -, hp, -⟩ | ⟨-, -, hi⟩
  · exact .inl (by simp [hp])
  · obtain ⟨f, outer, hframes, hjson, -⟩ := exists_frame_of_filters? hf
    exact .inr ⟨hi, by simp [hframes, hjson]⟩

/-- Every key that is written waits for its value in the next draft. -/
theorem exists_waiting_of_writes (hw : Writes c d key rest) :
    ∃ ahead, Step c (d, .key key :: rest) (d.writeKey key, ahead) ∧
      Waiting (d.writeKey key) ∧ (ValueAhead ahead → ValueAhead rest) := by
  rcases hw with hf | ⟨hf, hw⟩
  · exact ⟨rest, .datum rest hf, waiting_writeKey (by simp [hf]), id⟩
  · exact ⟨_, .write hf hw, waiting_writeKey (by simp [hf]), valueAhead_applyDefault_iff.1⟩

theorem takeValue_of_step_of_leavesOut (h : Step c (d, .key key :: rest) b)
    (hout : LeavesOut c d key rest) :
    ∃ value tail, takeValue (c.applyDefault key rest) = some (value, tail) ∧ b = (d, tail) := by
  obtain ⟨hf, hw⟩ := hout
  cases h with
  | datum _ hf' => simp [hf] at hf'
  | write _ hw' => simp [hw] at hw'
  | leaveOut _ _ ht => exact ⟨_, _, ht, rfl⟩

/-- A level that a key takes along when it is left out is never closed in the text. -/
theorem frames_ne_nil_of_leavesOut {traits : ResourceTraits} (hb : Balanced [] events)
    (hreach : Reaches traits events d' (.key key :: rest))
    (hout : LeavesOut (contextOf traits events) d' key rest) (hstop : StopAhead rest)
    (hend : Reaches traits events d []) : d.frames ≠ [] := by
  intro hframes
  obtain ⟨k, hl⟩ := levels_of_reaches hb hreach
  rcases (reaches_end hreach hend).cases_head with heq | ⟨next, hstep, hsteps⟩
  · cases heq
  · obtain ⟨value, tail, ht, rfl⟩ := takeValue_of_step_of_leavesOut hstep hout
    have hlost : Levels (k + 1) (d', tail) := (levels_of_takeValue hl ht).2 hstop
    obtain ⟨k', hk, hl'⟩ := levels_of_steps hsteps hlost
    have hlen := levels_nil hl'
    rw [hframes, List.length_nil] at hlen
    omega

theorem keysAnswered_of_writtenCompletely {traits : ResourceTraits} {text : String}
    (hb : Balanced [] events) (h : WrittenCompletely traits events text) :
    KeysAnswered traits events := by
  obtain ⟨d, hend, -, hrests, hwait⟩ := h
  intro d' key rest hreach
  constructor
  · intro hw
    obtain ⟨ahead, hstep, hwaiting, hahead⟩ := exists_waiting_of_writes hw
    exact hahead (hwait _ _ (ReflTransGen.tail hreach hstep) hwaiting)
  · intro hout hstop
    exact frames_ne_nil_of_leavesOut hb hreach hout hstop hend hrests.frames_eq

theorem writtenCompletely_of_keysAnswered {traits : ResourceTraits} (hb : Balanced [] events)
    (hd : Reaches traits events d []) (hk : KeysAnswered traits events) :
    WrittenCompletely traits events d.text := by
  obtain ⟨hl, hs⟩ := invariant_of_reaches hb hk hd
  have hframes : d.frames = [] := List.length_eq_zero_iff.1 (levels_nil hl)
  obtain ⟨hp, hi⟩ := hs.idle_of_not_valueAhead id
  refine ⟨d, hd, rfl, ⟨hframes, hp, ?_⟩, ?_⟩
  · refine Bool.eq_false_iff.2 fun h => ?_
    have := hi h
    simp [hframes] at this
  · intro d' rest hreach hw
    exact (invariant_of_reaches hb hk hreach).2.answered hw

theorem keysFed_of_step (h : Step c a b) (hfed : KeysFed a.2) : KeysFed b.2 := by
  cases h with
  | comment | scalar | start | stop => exact hfed
  | swallow _ ht =>
      obtain rfl := dropStop_eq_some_iff.1 ht
      exact hfed
  | datum => exact hfed.2
  | write => exact keysFed_applyDefault_iff.2 hfed.2
  | @leaveOut d key rest value' tail' _ _ ht =>
      obtain ⟨⟨value, e, tail, rfl, hv, -⟩, hrest⟩ := hfed
      -- the lookahead takes the value of the key, or the default in its place
      obtain ⟨value'', hahead, hv'⟩ : ∃ value'',
          c.applyDefault key (value ++ e :: tail) = value'' ++ e :: tail ∧ IsValue value'' := by
        rcases applyDefault_append c key hv (e :: tail) with h | ⟨s, s', rfl, h⟩
        · exact ⟨value, h, hv⟩
        · exact ⟨[.scalar s'], h, .scalar s'⟩
      rw [hahead, takeValue_of_isValue hv'] at ht
      obtain ⟨rfl, rfl⟩ := Prod.mk.inj (Option.some.inj ht)
      exact hrest.of_append

/-- Where each key has its value in the stream the writer finds it. -/
theorem keysAnswered_of_keysFed {traits : ResourceTraits} (h : KeysFed events) :
    KeysAnswered traits events := by
  have hrun : ∀ a, ReflTransGen (Step (contextOf traits events)) (.empty, events) a →
      KeysFed a.2 := by
    intro a hreach
    induction hreach with
    | refl => exact h
    | tail _ hstep ih => exact keysFed_of_step hstep ih
  intro d key rest hreach
  obtain ⟨⟨value, e, tail, rfl, hv, -⟩, -⟩ := hrun _ hreach
  have hahead : ValueAhead (value ++ e :: tail) := hv.valueAhead_append _
  exact ⟨fun _ => hahead, fun _ => not_stopAhead_of_valueAhead hahead⟩

/-- A resource that is written at all is written completely exactly when all its keys are
answered. -/
theorem writtenCompletely_iff {traits : ResourceTraits} {events : List Event} {text : String}
    (h : write traits events = .ok text) :
    WrittenCompletely traits events text ↔ KeysAnswered traits events := by
  obtain ⟨hb, -, d, hd, rfl⟩ := write_eq_ok_iff.1 h
  exact ⟨keysAnswered_of_writtenCompletely hb, writtenCompletely_of_keysAnswered hb hd⟩

/-- A resource with the one attribute `a`, required or computed, whose value is given by its
events. -/
def oneAttribute (required : Bool) (value : List Event) : List Event :=
  .start (.resource "t" "n") ::
    .key ⟨"a", ⟨["a"]⟩, .value, !required, required, []⟩ :: (value ++ [.stop .resource])

theorem writtenCompletely_iff_required_attribute :
    write (.none "t") (oneAttribute true [.scalar (.bool true)]) =
        .ok "resource \"t\" \"n\" \x7b\n  a = true\n\x7d\n\n" ∧
      (WrittenCompletely (.none "t") (oneAttribute true [.scalar (.bool true)])
          "resource \"t\" \"n\" \x7b\n  a = true\n\x7d\n\n" ↔
        KeysAnswered (.none "t") (oneAttribute true [.scalar (.bool true)])) :=
  ⟨by cbv, writtenCompletely_iff (by cbv)⟩

theorem reaches_required_without_value :
    Reaches (.none "t") (oneAttribute true [])
      ⟨[], none, true, "resource \"t\" \"n\" \x7b\n  a = \x7d\n\n"⟩ [] :=
  writeEvents_eq_ok_iff.1 (by cbv)

theorem reaches_computed_without_value :
    Reaches (.none "t") (oneAttribute false [])
      ⟨[.resource], none, false, "resource \"t\" \"n\" \x7b\n"⟩ [] := by
  have hc : contextOf (.none "t") (oneAttribute false []) = ⟨.none "t", []⟩ := by cbv
  have hstart : Draft.empty.start (.resource "t" "n") false =
      .ok ⟨[.resource], none, false, "resource \"t\" \"n\" \x7b\n"⟩ := by cbv
  have htake : takeValue [.stop .resource] = some ([.stop .resource], []) :=
    takeValue_of_nesting_le_zero rfl (by decide) []
  have hleave : Context.shouldWrite ⟨.none "t", []⟩ ⟨"a", ⟨["a"]⟩, .value, true, false, []⟩
      [.stop .resource] = .ok false := by
    simp [Context.shouldWrite, contentAt, htake, Context.isRequired, ResourceTraits.isRequired,
      ResourceTraits.none, Path.isLikeAny, bind, Except.bind, pure, Except.pure]
  rw [Reaches, hc]
  refine ReflTransGen.head (Step.start (by decide) hstart) ?_
  exact ReflTransGen.single (Step.leaveOut rfl hleave htake)

/-- A required key before the end of its resource is written without a value, and a computed one
that is left out there takes the end of the resource along. -/
theorem half_written_without_value :
    (write (.none "t") (oneAttribute true []) =
        .ok "resource \"t\" \"n\" \x7b\n  a = \x7d\n\n" ∧
      ¬ WrittenCompletely (.none "t") (oneAttribute true [])
        "resource \"t\" \"n\" \x7b\n  a = \x7d\n\n") ∧
    (write (.none "t") (oneAttribute false []) = .ok "resource \"t\" \"n\" \x7b\n" ∧
      ¬ WrittenCompletely (.none "t") (oneAttribute false [])
        "resource \"t\" \"n\" \x7b\n") := by
  have hwritten : ∀ required d, Reaches (.none "t") (oneAttribute required []) d [] →
      write (.none "t") (oneAttribute required []) = .ok d.text := by
    intro required d hd
    refine write_eq_ok_iff.2 ⟨by cases required <;> rfl, ⟨[], ?_⟩, d, hd, rfl⟩
    cases required <;> cbv
  have hcomplete : ∀ required d text, Reaches (.none "t") (oneAttribute required []) d [] →
      WrittenCompletely (.none "t") (oneAttribute required []) text → Rests d [] := by
    rintro required d text hd ⟨d', hd', -, hrests, -⟩
    have heq := (writeEvents_eq_ok_iff.2 hd').symm.trans (writeEvents_eq_ok_iff.2 hd)
    exact Except.ok.inj heq ▸ hrests
  refine ⟨⟨hwritten _ _ reaches_required_without_value, fun h => ?_⟩,
    hwritten _ _ reaches_computed_without_value, fun h => ?_⟩
  · have hrests := hcomplete _ _ _ reaches_required_without_value h
    exact absurd hrests.inline_eq (by decide)
  · have hrests := hcomplete _ _ _ reaches_computed_without_value h
    exact absurd hrests.frames_eq (by decide)

end StackExport.Proofs.ResourceCompleteness
