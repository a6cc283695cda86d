import StackExport.Proofs.BodyLines
/-!
Where the writer finds keys that may be left out.

A key that may be left out stands outside of documents: the levels that hold attributes are never
open inside one.
-/
namespace StackExport.Proofs.AttributePlaces

open Relation
open StackExport
open StackExport.Resource
open StackExport.Proofs.StreamNesting
open StackExport.Proofs.WriterRun
open StackExport.Proofs.ResourceCompleteness
open StackExport.Proofs.WritableStream
open StackExport.Proofs.SerializedResource
open StackExport.Proofs.WrittenText
open StackExport.Proofs.EmbeddedDocument
open StackExport.Proofs.BodyLines

variable {c : Context} {d d' : Draft} {key : MappingKey} {rest : List Event}
  {a b : Draft × List Event}

/-! ### Levels of attributes -/

/-- True for the levels in which attributes stand, directly or in blocks. -/
def holdsAttributes : Frame → Bool
  | .resource | .block | .blockList | .mapping true => true
  | _ => false

/-- No level of attributes is open inside a document, and no block is pending there. -/
structure Placed (d : Draft) : Prop where
  levels : d.frames.Pairwise fun f outer => holdsAttributes f = true → outer ≠ .json
  pending : d.pending.isSome → d.inJson = false

theorem inJson_eq_false_iff : d.inJson = false ↔ ∀ f ∈ d.frames, f ≠ .json := by
  simp only [Draft.inJson, List.contains_eq_mem, decide_eq_false_iff_not]
  exact ⟨fun h f hf hj => h (hj ▸ hf), fun h hf => h _ hf rfl⟩

theorem Placed.of_eq (h : Placed d) (hf : d'.frames = d.frames) (hp : d'.pending = d.pending) :
    Placed d' where
  levels := hf ▸ h.levels
  pending hs := (inJson_congr hf).trans (h.pending (hp ▸ hs))

/-- A level that opens keeps the places, if one of attributes opens outside documents. -/
theorem Placed.push {f : Frame} (h : Placed d) (hf : d'.frames = f :: d.frames)
    (hout : holdsAttributes f = true → d.inJson = false) (hp : d'.pending = none) : Placed d' where
  levels := by
    rw [hf, List.pairwise_cons]
    exact ⟨fun outer ho hattributes => inJson_eq_false_iff.1 (hout hattributes) outer ho, h.levels⟩
  pending hs := by simp [hp] at hs

/-- Outside documents is everything below a level of attributes. -/
theorem Placed.outside_of_head {f : Frame} (h : Placed d) (hf : d.frames.head? = some f)
    (hattributes : holdsAttributes f = true) : d.inJson = false := by
  obtain ⟨outer, ho⟩ := List.head?_eq_some_iff.1 hf
  have hlevels := h.levels
  rw [ho, List.pairwise_cons] at hlevels
  rw [inJson_eq_false_iff, ho, List.forall_mem_cons]
  refine ⟨?_, fun g hg => hlevels.1 g hg hattributes⟩
  rintro rfl
  cases hattributes

theorem Placed.writeKey (h : Placed d) (key : MappingKey) : Placed (d.writeKey key) where
  levels := by simpa using h.levels
  pending hs := by
    rw [inJson_congr (writeKey_frames d key)]
    rcases writeKey_cases d key with ⟨-, hj, -⟩ | ⟨-, hp, -⟩
    · exact hj
    · exact h.pending (hp ▸ hs)

theorem Placed.start {o : Opening} (h : Placed d) (hs : Sound d (.start o :: rest))
    (hd : d.start o false = .ok d') : Placed d' := by
  cases o with
  | resource type name =>
      obtain ⟨hnil, hf, hp, -⟩ := of_start_resource_eq_ok hd
      refine ⟨by rw [hf]; exact List.pairwise_singleton _ _, fun _ => ?_⟩
      rw [inJson_eq_false_iff, hf]
      simp
  | sequence =>
      obtain ⟨hp, ⟨hpending, hf, -⟩ | ⟨-, -, -, hf⟩⟩ := of_start_sequence_eq_ok hd
      · exact h.push hf (fun _ => h.pending (by simp [hpending])) hp
      · exact h.push hf (absurd · Bool.false_ne_true) hp
  | mapping =>
      obtain ⟨hready, hp, -, -⟩ := of_start_mapping_eq_ok hd
      rw [start_mapping_eq hready] at hd
      obtain rfl := Except.ok.inj hd
      refine h.push rfl (fun hattributes => ?_) (hp.trans (hs.pending_eq_none_of_ready hready))
      -- a map whose keys are attributes is an item outside documents
      have hitem : isItem d = true := by
        cases hi : isItem d with
        | false => rw [hi] at hattributes; cases hattributes
        | true => rfl
      simp only [isItem, Bool.and_eq_true, Bool.not_eq_true'] at hitem
      exact hitem.2
  | block name =>
      obtain ⟨hplace, hf, hp, -⟩ := of_start_block_eq_ok hd
      refine h.push hf (fun _ => ?_) hp
      rcases hplace with hhead | hpending
      · exact h.outside_of_head hhead rfl
      · exact h.pending (by simp [hpending])
  | json =>
      obtain ⟨hready, hf, hp, -⟩ := of_start_json_eq_ok hd
      exact h.push hf (absurd · Bool.false_ne_true)
        (hp.trans (hs.pending_eq_none_of_ready hready))

theorem placed_of_step (h : Step c a b) (hs : Sound a.1 a.2) (hp : Placed a.1) : Placed b.1 := by
  cases h with
  | comment => exact hp.of_eq rfl rfl
  | scalar rest h =>
      obtain ⟨-, hf, hpending, -⟩ := of_scalar_eq_ok h
      exact hp.of_eq hf hpending
  | @swallow d d' o rest tail hswallows _ h =>
      refine ⟨?_, fun hpending => ?_⟩
      · rw [frames_of_start_swallow_eq_ok hswallows h]
        exact hp.levels
      · rw [inJson_congr (frames_of_start_swallow_eq_ok hswallows h)]
        cases o with
        | sequence => simp [(of_start_sequence_eq_ok h).1] at hpending
        | mapping => exact hp.pending ((of_start_mapping_eq_ok h).2.1 ▸ hpending)
        | _ => cases hswallows
  | start _ h => exact hp.start hs h
  | @stop d d' g rest h =>
      obtain ⟨f, outer, hf, -, hf', hpending, -⟩ := of_stop_eq_ok h
      have hlevels := hp.levels
      rw [hf, List.pairwise_cons] at hlevels
      refine ⟨hf' ▸ hlevels.2, fun hsome => ?_⟩
      have hout := hp.pending (hpending ▸ hsome)
      rw [inJson_eq_false_iff, hf, List.forall_mem_cons] at hout
      rw [inJson_eq_false_iff, hf']
      exact hout.2
  | datum => exact hp.writeKey _
  | write => exact hp.writeKey _
  | leaveOut => exact hp

/-! ### On the way through a serialized resource -/

variable {traits : ResourceTraits} {schema : ResourceSchema} {type name : String}
  {attributes : AttributeTree}

theorem placed_of_reaches
    (h : Reaches traits (Rules.events ⟨traits, schema⟩ type name attributes) d rest) :
    Placed d := by
  refine h.invariant (P := fun a => Placed a.1) ⟨.nil, fun _ => rfl⟩ ?_
  intro a b hreach hstep
  exact placed_of_step hstep (sound_of_reaches hreach)

/-- Where keys may be left out, attributes stand, unless a value comes next. -/
theorem atAttributes_of_reaches
    (h : Reaches traits (Rules.events ⟨traits, schema⟩ type name attributes) d rest)
    (hrest : ¬ ValueAhead rest) (hf : d.filters? = some true) : AtAttributes d := by
  obtain ⟨hp, hi⟩ := (sound_of_reaches h).idle_of_not_valueAhead hrest
  obtain ⟨f, outer, hframes, hjson, -⟩ := exists_frame_of_filters? (d := d) (by simp [hf])
  have hinline : d.inline = false := Bool.eq_false_iff.2 fun hinline => by
    have hhead := hi hinline
    rw [hframes] at hhead
    exact hjson (Option.some.inj hhead)
  refine ⟨hp, hinline, hf, (placed_of_reaches h).outside_of_head (f := f) (by rw [hframes]; rfl) ?_⟩
  rw [Draft.filters?, hframes] at hf
  cases f with
  | mapping filtered =>
      obtain rfl := Option.some.inj hf
      rfl
  | resource | block => rfl
  | _ => cases hf

end StackExport.Proofs.AttributePlaces
