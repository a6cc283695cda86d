import Mathlib.Logic.Relation
import Mathlib.Tactic.Common
import StackExport.Proofs.StreamNesting
/-!
The writer of a resource as a sequence of steps.

A step takes the front of what is left of the stream, and `writeEvents_eq_ok_iff` says that writing
succeeds exactly when steps lead to the end of the stream. What an operation on a draft can do is
said once for each operation, in terms of the open levels, the pending block and the open line.
-/
namespace StackExport.Proofs.WriterRun

open Relation
open StackExport
open StackExport.Resource
open StackExport.Proofs.StreamNesting

variable {d d' : Draft} {s : Scalar} {g : Group} {key : MappingKey}

theorem exists_of_bind_eq_ok {ε α β : Type} {x : Except ε α} {f : α → Except ε β} {r : β}
    (h : (x >>= f) = .ok r) : ∃ a, x = .ok a ∧ f a = .ok r := by
  cases x with
  | error e => cases h
  | ok a => exact ⟨a, rfl, h⟩

/-! ### What an operation does to a draft -/

/-- The group that a level of the text comes from. -/
def groupOf : Frame → Group
  | .resource => .resource
  | .block => .block
  | .blockList | .sequence => .sequence
  | .mapping _ => .mapping
  | .json => .json

/-- A value may be written next: it goes on behind its key, or starts a line of its own. -/
def Ready (d : Draft) : Prop :=
  d.inline = true ∨ d.frames.head? = some .sequence ∨ d.frames.head? = some .json

/-- A key has been written and its value has not begun. Behind `jsonencode(` no key waits. -/
def Waiting (d : Draft) : Prop :=
  d.pending.isSome ∨ d.inline = true ∧ d.frames.head? ≠ some .json

/-- The open line is behind a value, and the levels are the ones given. -/
structure Rests (d : Draft) (frames : List Frame) : Prop where
  frames_eq : d.frames = frames
  pending_eq : d.pending = none
  inline_eq : d.inline = false

@[simp] theorem finishValue_frames (d : Draft) : d.finishValue.frames = d.frames := by
  simp only [Draft.finishValue]
  split <;> rfl

@[simp] theorem finishValue_pending (d : Draft) : d.finishValue.pending = d.pending := by
  simp only [Draft.finishValue]
  split <;> rfl

@[simp] theorem finishValue_inline (d : Draft) : d.finishValue.inline = false := by
  simp only [Draft.finishValue]
  split <;> rfl

theorem of_beginValue_eq_ok {e : Event} (h : d.beginValue e = .ok d') :
    Ready d ∧ d'.frames = d.frames ∧ d'.pending = d.pending ∧ d'.inline = false := by
  unfold Draft.beginValue at h
  split at h
  case isTrue hi =>
      cases h
      exact ⟨.inl hi, rfl, rfl, rfl⟩
  case isFalse hi =>
      split at h
      case h_1 heq =>
          cases h
          exact ⟨.inr (.inl (by simp [heq])), rfl, rfl, by simpa [Draft.put] using hi⟩
      case h_2 heq =>
          cases h
          exact ⟨.inr (.inr (by simp [heq])), rfl, rfl, by simpa [Draft.put] using hi⟩
      case h_3 => cases h

theorem beginValue_ok (h : Ready d) (e : Event) : ∃ d', d.beginValue e = .ok d' := by
  unfold Draft.beginValue
  split
  case isTrue => exact ⟨_, rfl⟩
  case isFalse hi =>
      rcases h with h | h | h
      · exact absurd h hi
      · obtain ⟨outer, ho⟩ := List.head?_eq_some_iff.1 h
        exact ⟨d.put d.indent, by rw [ho]⟩
      · obtain ⟨outer, ho⟩ := List.head?_eq_some_iff.1 h
        exact ⟨d.put d.indent, by rw [ho]⟩

theorem of_scalar_eq_ok (h : d.scalar s = .ok d') :
    Ready d ∧ d'.frames = d.frames ∧ d'.pending = d.pending ∧ d'.inline = false := by
  obtain ⟨d₁, hb, h⟩ := exists_of_bind_eq_ok h
  obtain ⟨hr, hf, hp, -⟩ := of_beginValue_eq_ok hb
  cases h
  exact ⟨hr, by simpa [Draft.put] using hf, by simpa [Draft.put] using hp, by simp⟩

theorem scalar_ok (h : Ready d) (s : Scalar) : ∃ d', d.scalar s = .ok d' := by
  obtain ⟨d₁, hb⟩ := beginValue_ok h (.scalar s)
  exact ⟨_, by rw [Draft.scalar, hb]; rfl⟩

theorem of_openCollection_eq_ok {e : Event} {isEmpty : Bool} {left right : String} {f : Frame}
    (h : d.openCollection e isEmpty left right f = .ok d') :
    Ready d ∧ d'.frames = (if isEmpty then d.frames else f :: d.frames) ∧
      d'.pending = d.pending ∧ d'.inline = false := by
  obtain ⟨d₁, hb, h⟩ := exists_of_bind_eq_ok h
  obtain ⟨hr, hf, hp, hi⟩ := of_beginValue_eq_ok hb
  cases isEmpty with
  | false =>
      cases h
      exact ⟨hr, by simpa [Draft.put, Draft.push] using hf, hp, hi⟩
  | true =>
      cases h
      exact ⟨hr, by simpa [Draft.put] using hf, by simpa [Draft.put] using hp, by simp⟩

theorem openCollection_ok (h : Ready d) (e : Event) (isEmpty : Bool) (left right : String)
    (f : Frame) : ∃ d', d.openCollection e isEmpty left right f = .ok d' := by
  obtain ⟨d₁, hb⟩ := beginValue_ok h e
  unfold Draft.openCollection
  cases isEmpty <;> exact ⟨_, by rw [hb]; rfl⟩

/-! ### Starts -/

theorem of_start_resource_eq_ok {type name : String} {isEmpty : Bool}
    (h : d.start (.resource type name) isEmpty = .ok d') :
    d.frames = [] ∧ d'.frames = [.resource] ∧ d'.pending = d.pending ∧ d'.inline = d.inline := by
  simp only [Draft.start] at h
  split at h
  case isTrue hf =>
      cases h
      have hf : d.frames = [] := by simpa using hf
      exact ⟨hf, by simp [Draft.push, Draft.put, hf], rfl, rfl⟩
  case isFalse => cases h

theorem of_start_sequence_eq_ok {isEmpty : Bool} (h : d.start .sequence isEmpty = .ok d') :
    d'.pending = none ∧
      (d.pending = some .blockList ∧ d'.frames = .blockList :: d.frames ∧
          d'.inline = d.inline ∨
        d.pending ≠ some .blockList ∧ Ready d ∧ d'.inline = false ∧
          d'.frames = if isEmpty then d.frames else .sequence :: d.frames) := by
  simp only [Draft.start] at h
  split at h
  case isTrue hp =>
      cases h
      exact ⟨rfl, .inl ⟨hp, rfl, rfl⟩⟩
  case isFalse hp =>
      obtain ⟨hr, hf, hp', hi⟩ := of_openCollection_eq_ok h
      exact ⟨hp', .inr ⟨hp, hr, hi, hf⟩⟩

theorem start_sequence_ok (hp : d.pending ≠ some .blockList) (hr : Ready d) (isEmpty : Bool) :
    ∃ d', d.start .sequence isEmpty = .ok d' := by
  simp only [Draft.start, hp, if_false]
  exact openCollection_ok (d := { d with pending := none }) hr _ _ _ _ _

theorem start_blockList_ok (hp : d.pending = some .blockList) (isEmpty : Bool) :
    ∃ d', d.start .sequence isEmpty = .ok d' := by
  simp only [Draft.start, hp, if_true]
  exact ⟨_, rfl⟩

theorem start_mapping_ok (hr : Ready d) (isEmpty : Bool) :
    ∃ d', d.start .mapping isEmpty = .ok d' :=
  openCollection_ok hr _ _ _ _ _

theorem of_start_mapping_eq_ok {isEmpty : Bool} (h : d.start .mapping isEmpty = .ok d') :
    Ready d ∧ d'.pending = d.pending ∧ d'.inline = false ∧
      ∃ filtered, d'.frames = if isEmpty then d.frames else .mapping filtered :: d.frames := by
  obtain ⟨hr, hf, hp, hi⟩ := of_openCollection_eq_ok h
  exact ⟨hr, hp, hi, _, hf⟩

theorem of_start_block_eq_ok {name : String} {isEmpty : Bool}
    (h : d.start (.block name) isEmpty = .ok d') :
    (d.frames.head? = some .blockList ∨ d.pending = some .blockObject) ∧
      d'.frames = .block :: d.frames ∧ d'.pending = none ∧ d'.inline = d.inline := by
  simp only [Draft.start] at h
  split at h
  case isTrue hb =>
      cases h
      exact ⟨by simpa using hb, rfl, rfl, rfl⟩
  case isFalse => cases h

theorem start_block_ok (h : d.frames.head? = some .blockList ∨ d.pending = some .blockObject)
    (name : String) (isEmpty : Bool) : ∃ d', d.start (.block name) isEmpty = .ok d' := by
  simp only [Draft.start]
  rw [if_pos (by simpa using h)]
  exact ⟨_, rfl⟩

theorem of_start_json_eq_ok {isEmpty : Bool} (h : d.start .json isEmpty = .ok d') :
    Ready d ∧ d'.frames = .json :: d.frames ∧ d'.pending = d.pending ∧ d'.inline = true := by
  obtain ⟨d₁, hb, h⟩ := exists_of_bind_eq_ok h
  obtain ⟨hr, hf, hp, -⟩ := of_beginValue_eq_ok hb
  cases h
  exact ⟨hr, by simpa [Draft.put, Draft.push] using hf, hp, rfl⟩

theorem start_json_ok (h : Ready d) (isEmpty : Bool) : ∃ d', d.start .json isEmpty = .ok d' := by
  obtain ⟨d₁, hb⟩ := beginValue_ok h (.start .json)
  exact ⟨_, by simp only [Draft.start, hb]; rfl⟩

/-- A start that does not take its stop with it opens one level, of its own group. -/
theorem exists_frame_of_start_eq_ok {o : Opening} (h : d.start o false = .ok d') :
    ∃ f, groupOf f = o.group ∧ d'.frames = f :: d.frames := by
  cases o with
  | resource type name =>
      obtain ⟨hf, hf', -⟩ := of_start_resource_eq_ok h
      exact ⟨.resource, rfl, by rw [hf', hf]⟩
  | sequence =>
      rcases (of_start_sequence_eq_ok h).2 with ⟨-, hf, -⟩ | ⟨-, -, -, hf⟩
      · exact ⟨.blockList, rfl, hf⟩
      · exact ⟨.sequence, rfl, hf⟩
  | mapping =>
      obtain ⟨-, -, -, filtered, hf⟩ := of_start_mapping_eq_ok h
      exact ⟨.mapping filtered, rfl, hf⟩
  | block name => exact ⟨.block, rfl, (of_start_block_eq_ok h).2.1⟩
  | json => exact ⟨.json, rfl, (of_start_json_eq_ok h).2.1⟩

/-- A start that takes its stop with it leaves the levels as they are. -/
theorem frames_of_start_swallow_eq_ok {o : Opening} (hs : d.swallows o = true)
    (h : d.start o true = .ok d') : d'.frames = d.frames := by
  cases o with
  | sequence =>
      rcases (of_start_sequence_eq_ok h).2 with ⟨hp, -⟩ | ⟨-, -, -, hf⟩
      · simp [Draft.swallows, hp] at hs
      · exact hf
  | mapping =>
      obtain ⟨-, -, -, filtered, hf⟩ := of_start_mapping_eq_ok h
      exact hf
  | resource type name => simp [Draft.swallows] at hs
  | block name => simp [Draft.swallows] at hs
  | json => simp [Draft.swallows] at hs

/-! ### Stops and keys -/

theorem stop_ok {f : Frame} {outer : List Frame} (hf : d.frames = f :: outer) :
    ∃ d', d.stop (groupOf f) = .ok d' ∧ d'.frames = outer ∧ d'.pending = d.pending ∧
      (d'.inline = true → d.inline = true ∧ f ≠ .json) := by
  cases f <;>
    simp [Draft.stop, Draft.pop, Draft.put, groupOf, hf, bind, Except.bind, pure, Except.pure]

theorem exists_frame_of_stop_eq_ok (h : d.stop g = .ok d') :
    ∃ f outer, d.frames = f :: outer ∧ groupOf f = g := by
  cases hf : d.frames with
  | nil => cases g <;> simp [Draft.stop, Draft.pop, hf, bind, Except.bind] at h
  | cons f outer =>
      refine ⟨f, outer, rfl, ?_⟩
      cases g <;> cases f <;>
        simp_all [Draft.stop, Draft.pop, groupOf, bind, Except.bind]

theorem of_stop_eq_ok (h : d.stop g = .ok d') :
    ∃ f outer, d.frames = f :: outer ∧ groupOf f = g ∧ d'.frames = outer ∧
      d'.pending = d.pending ∧ (d'.inline = true → d.inline = true ∧ f ≠ .json) := by
  obtain ⟨f, outer, hf, rfl⟩ := exists_frame_of_stop_eq_ok h
  obtain ⟨d₁, h₁, hrest⟩ := stop_ok hf
  obtain rfl : d₁ = d' := Except.ok.inj (h₁.symm.trans h)
  exact ⟨f, outer, hf, rfl, hrest⟩

@[simp] theorem writeKey_frames (d : Draft) (key : MappingKey) :
    (d.writeKey key).frames = d.frames := by
  simp only [Draft.writeKey]
  split <;> rfl

/-- A key waits for its value: as a pending block, or on the open line. -/
theorem writeKey_cases (d : Draft) (key : MappingKey) :
    (key.shape.isBlock = true ∧ d.inJson = false ∧ (d.writeKey key).pending = some key.shape ∧
        (d.writeKey key).inline = d.inline) ∨
      (¬ (key.shape.isBlock = true ∧ d.inJson = false) ∧
        (d.writeKey key).pending = d.pending ∧ (d.writeKey key).inline = true) := by
  simp only [Draft.writeKey]
  split
  case isTrue h =>
      simp only [Bool.and_eq_true, Bool.not_eq_true'] at h
      exact .inl ⟨h.1, h.2, rfl, rfl⟩
  case isFalse h =>
      simp only [Bool.and_eq_true, Bool.not_eq_true'] at h
      exact .inr ⟨h, rfl, rfl⟩

/-- Keys stand in bodies and maps only. -/
theorem exists_frame_of_filters? (h : d.filters?.isSome) :
    ∃ f outer, d.frames = f :: outer ∧ f ≠ .json ∧ f ≠ .sequence ∧ f ≠ .blockList := by
  unfold Draft.filters? at h
  split at h <;> simp_all

/-- Where keys stand, a value needs one. -/
theorem inline_of_ready_of_filters? (hf : d.filters?.isSome) (hr : Ready d) :
    d.inline = true := by
  obtain ⟨f, outer, hframes, hjson, hsequence, -⟩ := exists_frame_of_filters? hf
  rcases hr with h | h | h
  · exact h
  · simp [hframes, hsequence] at h
  · simp [hframes, hjson] at h

/-! ### Steps -/

/-- One step of the writer: from a draft and what is left of the stream to the next ones. -/
inductive Step (c : Context) : Draft × List Event → Draft × List Event → Prop where
  | comment (d : Draft) (text : String) (rest : List Event) :
      Step c (d, .comment text :: rest) (d.put (d.indent ++ "# " ++ text ++ "\n"), rest)
  | scalar {d d' : Draft} {s : Scalar} (rest : List Event) (h : d.scalar s = .ok d') :
      Step c (d, .scalar s :: rest) (d', rest)
  /-- A list or map without content, written on one line with its stop. -/
  | swallow {d d' : Draft} {o : Opening} {rest tail : List Event} (hs : d.swallows o = true)
      (ht : dropStop o rest = some tail) (h : d.start o true = .ok d') :
      Step c (d, .start o :: rest) (d', tail)
  | start {d d' : Draft} {o : Opening} {rest : List Event}
      (hs : d.swallows o = true → dropStop o rest = none) (h : d.start o false = .ok d') :
      Step c (d, .start o :: rest) (d', rest)
  | stop {d d' : Draft} {g : Group} (rest : List Event) (h : d.stop g = .ok d') :
      Step c (d, .stop g :: rest) (d', rest)
  /-- A key of a map that holds data. -/
  | datum {d : Draft} {key : MappingKey} (rest : List Event) (hf : d.filters? = some false) :
      Step c (d, .key key :: rest) (d.writeKey key, rest)
  /-- A key of a body that is written, perhaps with a default for its value. -/
  | write {d : Draft} {key : MappingKey} {rest : List Event} (hf : d.filters? = some true)
      (h : c.shouldWrite key (c.applyDefault key rest) = .ok true) :
      Step c (d, .key key :: rest) (d.writeKey key, c.applyDefault key rest)
  /-- A key of a body that is left out with what the lookahead takes for its value. -/
  | leaveOut {d : Draft} {key : MappingKey} {rest value tail : List Event}
      (hf : d.filters? = some true)
      (h : c.shouldWrite key (c.applyDefault key rest) = .ok false)
      (ht : takeValue (c.applyDefault key rest) = some (value, tail)) :
      Step c (d, .key key :: rest) (d, tail)

theorem writeEvents_eq_of_step {c : Context} {a b : Draft × List Event} (h : Step c a b) :
    writeEvents c a.1 a.2 = writeEvents c b.1 b.2 := by
  cases h with
  | comment d text rest => rw [writeEvents]
  | scalar rest h => rw [writeEvents, h]; rfl
  | swallow hs ht h =>
      rw [writeEvents]
      split
      case h_1 tail htail =>
          obtain rfl := Option.some.inj ((by simpa [hs] using htail : _ = some tail).symm.trans ht)
          rw [h]; rfl
      case h_2 hnone => simp [hs, ht] at hnone
  | @start d d' o rest hs h =>
      rw [writeEvents]
      split
      case h_1 tail htail =>
          have hnone : (if d.swallows o then dropStop o rest else none) = none := by
            simpa using hs
          simp [hnone] at htail
      case h_2 => rw [h]; rfl
  | stop rest h => rw [writeEvents, h]; rfl
  | datum rest hf => rw [writeEvents, hf]
  | write hf h => rw [writeEvents, hf]; simp only [h]
  | leaveOut hf h ht =>
      rw [writeEvents, hf]
      simp only [h]
      split
      case h_1 value' tail' ht' =>
          obtain rfl := congrArg Prod.snd (Option.some.inj (ht'.symm.trans ht))
          rfl
      case h_2 hnone => simp [ht] at hnone

theorem writeEvents_eq_of_steps {c : Context} {a b : Draft × List Event}
    (h : ReflTransGen (Step c) a b) : writeEvents c a.1 a.2 = writeEvents c b.1 b.2 := by
  induction h with
  | refl => rfl
  | tail _ hstep ih => exact ih.trans (writeEvents_eq_of_step hstep)

/-- Writing succeeds exactly when steps lead to the end of the stream. -/
theorem writeEvents_eq_ok_iff {c : Context} {events : List Event} :
    writeEvents c d events = .ok d' ↔ ReflTransGen (Step c) (d, events) (d', []) := by
  constructor
  · intro h
    fun_induction writeEvents c d events with
    | case1 d => cases h; exact .refl
    | case2 d key rest hf => cases h
    | case3 d key rest hf ih => exact .head (.datum rest hf) (ih h)
    | case4 d key rest hf ahead e hw => cases h
    | case5 d key rest hf ahead hw ih => exact .head (.write hf hw) (ih h)
    | case6 d key rest hf ahead hw value tail ht _ ih =>
        exact .head (.leaveOut hf hw ht) (ih h)
    | case7 d key rest hf ahead hw ht => cases h
    | case8 d text rest ih => exact .head (.comment d text rest) (ih h)
    | case9 d s rest ih =>
        obtain ⟨d₁, h₁, h₂⟩ := exists_of_bind_eq_ok h
        exact .head (.scalar rest h₁) (ih d₁ h₂)
    | case10 d o rest tail ht _ ih =>
        obtain ⟨d₁, h₁, h₂⟩ := exists_of_bind_eq_ok h
        obtain ⟨hs, ht⟩ : d.swallows o = true ∧ dropStop o rest = some tail := by
          simpa using ht
        exact .head (.swallow hs ht h₁) (ih d₁ h₂)
    | case11 d o rest ht ih =>
        obtain ⟨d₁, h₁, h₂⟩ := exists_of_bind_eq_ok h
        exact .head (.start (by simpa using ht) h₁) (ih d₁ h₂)
    | case12 d g rest ih =>
        obtain ⟨d₁, h₁, h₂⟩ := exists_of_bind_eq_ok h
        exact .head (.stop rest h₁) (ih d₁ h₂)
  · intro h
    rw [writeEvents_eq_of_steps h, writeEvents]

end StackExport.Proofs.WriterRun
