import StackExport.Proofs.BodyLines
/-!
What comments have no part in.

Only the text of a comment is looked at nowhere but where it is written: values are found, judged and
left out behind other comments as they were. `silenced` takes the text of comments away, and every
answer about a stream is the same about the silenced stream.
-/
namespace StackExport.Proofs.CommentIndependence

open StackExport
open StackExport.Resource
open StackExport.Proofs.ResourceCompleteness
open StackExport.Proofs.WrittenText
open StackExport.Proofs.BodyLines

variable {events others : List Event}

/-! ### Events -/

/-- An event without the text of a comment. -/
def silenced : Event → Event
  | .comment _ => .comment ""
  | e => e

@[simp] theorem nesting_silenced (e : Event) : (silenced e).nesting = e.nesting := by
  cases e <;> rfl

@[simp] theorem isComment_silenced (e : Event) : (silenced e).isComment = e.isComment := by
  cases e <;> rfl

theorem advance_silenced (g : Gatherer) (e : Event) : g.advance (silenced e) = g.advance e := by
  rw [Gatherer.advance, Gatherer.advance, isComment_silenced, nesting_silenced]

/-- Streams without comments are as they were. -/
theorem map_silenced_of_no_comment (h : ∀ e ∈ events, e.isComment = false) :
    events.map silenced = events := by
  have hself : ∀ e ∈ events, silenced e = id e := fun e he => by
    cases e with
    | comment text => cases h _ he
    | _ => rfl
  rw [List.map_congr_left hself, List.map_id]

theorem isComment_of_map_silenced (h : events.map silenced = others.map silenced)
    (hothers : ∀ e ∈ others, e.isComment = false) : ∀ e ∈ events, e.isComment = false := by
  intro e he
  obtain ⟨e', he', heq⟩ := List.mem_map.1 (h ▸ List.mem_map_of_mem he)
  rw [← isComment_silenced, ← heq, isComment_silenced, hothers e' he']

/-! ### Looking ahead -/

theorem firstHit_silenced (g : Gatherer) (events : List Event) :
    Queue.firstHit Gatherer.advance g (events.map silenced) =
      Queue.firstHit Gatherer.advance g events := by
  induction events generalizing g with
  | nil => rfl
  | cons e rest ih =>
      rw [List.map_cons, Queue.firstHit, Queue.firstHit, advance_silenced]
      simp only [ih]

theorem takeValue_silenced (events : List Event) :
    takeValue (events.map silenced) =
      (takeValue events).map fun p => (p.1.map silenced, p.2.map silenced) := by
  rw [takeValue, takeValue, firstHit_silenced, Option.map_map]
  congr 1
  funext n
  simp only [List.splitAt_eq, Function.comp_apply, List.map_take, List.map_drop]

theorem contentOf_silenced (traits : ResourceTraits) (key : MappingKey) (value : List Event) :
    contentOf traits key (value.map silenced) = contentOf traits key value := by
  obtain _ | ⟨e, rest⟩ := value
  · rfl
  · cases e with
    | start o =>
        cases o with
        | json =>
            obtain _ | ⟨inner, rest⟩ := rest
            · rfl
            · cases inner <;> simp [contentOf, silenced]
        | _ => simp [contentOf, silenced]
    | _ => rfl

theorem contentAt_silenced (traits : ResourceTraits) (key : MappingKey) (rest : List Event) :
    contentAt traits key (rest.map silenced) = contentAt traits key rest := by
  rw [contentAt, contentAt, takeValue_silenced]
  cases takeValue rest with
  | none => rfl
  | some p => exact congrArg Except.ok (contentOf_silenced traits key p.1)

theorem populatedPaths_silenced (traits : ResourceTraits) (events : List Event) :
    populatedPaths traits (events.map silenced) = populatedPaths traits events := by
  induction events with
  | nil => rfl
  | cons e rest ih =>
      cases e with
      | key key =>
          change populatedPaths traits (.key key :: rest.map silenced) = _
          rw [populatedPaths, populatedPaths, contentAt_silenced, ih]
      | _ => exact ih

theorem contextOf_silenced (traits : ResourceTraits) (events : List Event) :
    contextOf traits (events.map silenced) = contextOf traits events := by
  rw [contextOf, contextOf, populatedPaths_silenced]

section

variable {c : Context} {key : MappingKey} {value : List Event}

theorem hasOutput_silenced (c : Context) (events : List Event) :
    c.hasOutput (events.map silenced) = c.hasOutput events := by
  induction events with
  | nil => rfl
  | cons e rest ih =>
      cases e with
      | key key =>
          change c.hasOutput (.key key :: rest.map silenced) = _
          rw [Context.hasOutput, Context.hasOutput, contentAt_silenced, ih]
      | _ => exact ih

theorem applyDefault_silenced (c : Context) (key : MappingKey) (value : List Event) :
    c.applyDefault key (value.map silenced) = (c.applyDefault key value).map silenced := by
  obtain _ | ⟨e, rest⟩ := value
  · rfl
  · cases e with
    | scalar s => cases s <;> rfl
    | _ => rfl

theorem isWritten_silenced (c : Context) (key : MappingKey) (value : List Event) :
    isWritten c key (value.map silenced) = isWritten c key value := by
  rw [isWritten, isWritten, isKept, isKept, contentOf_silenced, foresees, foresees,
    hasOutput_silenced]

end

/-- Streams that differ in comments alone are written with the same context. -/
theorem contextOf_eq (traits : ResourceTraits) (h : events.map silenced = others.map silenced) :
    contextOf traits events = contextOf traits others := by
  rw [← contextOf_silenced traits events, h, contextOf_silenced]

/-- A key is written in front of one value when it is written in front of another that differs from
it in comments alone. -/
theorem isWritten_applyDefault_eq (c : Context) (key : MappingKey)
    (h : events.map silenced = others.map silenced) :
    isWritten c key (c.applyDefault key events) = isWritten c key (c.applyDefault key others) := by
  rw [← isWritten_silenced c key (c.applyDefault key events), ← applyDefault_silenced, h,
    applyDefault_silenced, isWritten_silenced]

/-! ### Lines -/

mutual

/-- A line without the text of its comments. -/
def silencedLine : Line → Line
  | .comment _ => .comment ""
  | .assignment name value => .assignment name value
  | .block name body => .block name (silencedLines body)

def silencedLines : List Line → List Line
  | [] => []
  | line :: rest => silencedLine line :: silencedLines rest

end

theorem silencedLines_append (lines rest : List Line) :
    silencedLines (lines ++ rest) = silencedLines lines ++ silencedLines rest := by
  induction lines with
  | nil => rfl
  | cons line lines ih =>
      rw [List.cons_append, silencedLines, ih, silencedLines, List.cons_append]

end StackExport.Proofs.CommentIndependence
