import StackExport.Proofs.WritableStream
/-!
What the writer adds to the text as it goes through the events of a value.

A value begins where its key left the line, or on a line of its own, and ends as the level around it
ends its lines. What stands between depends on the depth alone.
-/
namespace StackExport.Proofs.WrittenText

open Relation
open StackExport
open StackExport.Resource
open StackExport.Proofs.StreamNesting
open StackExport.Proofs.WriterRun
open StackExport.Proofs.ResourceCompleteness
open StackExport.Proofs.WritableStream

variable {c : Context} {d d' : Draft} {key : MappingKey} {run rest value : List Event}

/-- The draft after some text, where no line is open for a value. -/
def after (d : Draft) (s : String) : Draft := { d with inline := false, text := d.text ++ s }

/-- What stands in front of a value. -/
def lead (d : Draft) : String := if d.inline then "" else d.indent

/-- How the lines of values end in a level. -/
def trail : List Frame → String
  | .sequence :: _ => ",\n"
  | .json :: _ => ""
  | _ => "\n"

@[simp] theorem after_frames (d : Draft) (s : String) : (after d s).frames = d.frames := rfl

theorem after_after (d : Draft) (s s' : String) : after (after d s) s' = after d (s ++ s') := by
  simp only [after, String.append_assoc]

theorem after_empty (h : d.inline = false) : after d "" = d := by
  cases d
  cases h
  simp only [after, String.append_empty]

/-! ### Operations -/

theorem beginValue_eq (h : Ready d) (e : Event) : d.beginValue e = .ok (after d (lead d)) := by
  unfold Draft.beginValue lead after
  split
  case isTrue => simp only [String.append_empty]
  case isFalse hi =>
      rw [Bool.not_eq_true] at hi
      split
      case h_1 | h_2 => simp only [Draft.put, hi]
      case h_3 hsequence hjson =>
          rcases h with h | h | h
          · rw [hi] at h
            cases h
          · obtain ⟨outer, ho⟩ := List.head?_eq_some_iff.1 h
            exact absurd ho (hsequence outer)
          · obtain ⟨outer, ho⟩ := List.head?_eq_some_iff.1 h
            exact absurd ho (hjson outer)

theorem finishValue_eq (d : Draft) : d.finishValue = after d (trail d.frames) := by
  obtain ⟨frames, pending, inline, text⟩ := d
  cases frames with
  | nil => rfl
  | cons f outer =>
      cases f with
      | json => simp only [Draft.finishValue, trail, after, String.append_empty]
      | _ => rfl

theorem put_after (d : Draft) (s s' : String) : (after d s).put s' = after d (s ++ s') := by
  simp only [after, Draft.put, String.append_assoc]

theorem finishValue_put (d : Draft) (s s' : String) :
    ((after d s).put s').finishValue = after d (s ++ s' ++ trail d.frames) := by
  rw [put_after, finishValue_eq, after_after, after_frames]

theorem scalar_eq (h : Ready d) (s : Scalar) :
    d.scalar s = .ok (after d (lead d ++ s.text ++ trail d.frames)) := by
  rw [Draft.scalar, beginValue_eq h]
  exact congrArg Except.ok (finishValue_put d _ _)

/-- The draft inside a level that has just been opened. -/
def inside (d : Draft) (s : String) (f : Frame) : Draft := (after d s).push f

theorem openCollection_eq (h : Ready d) (e : Event) (isEmpty : Bool) (left right : String)
    (f : Frame) :
    d.openCollection e isEmpty left right f = .ok (if isEmpty then
      after d (lead d ++ (left ++ right) ++ trail d.frames)
    else inside d (lead d ++ (left ++ "\n")) f) := by
  rw [Draft.openCollection, beginValue_eq h]
  cases isEmpty with
  | false =>
      change Except.ok (Draft.push _ f) = _
      rw [put_after]
      rfl
  | true =>
      exact congrArg Except.ok (finishValue_put d _ _)

theorem start_json_eq (h : Ready d) (isEmpty : Bool) :
    d.start .json isEmpty =
      .ok { inside d (lead d ++ "jsonencode(") .json with inline := true } := by
  rw [Draft.start, beginValue_eq h]
  change Except.ok _ = _
  rw [put_after]
  rfl

theorem start_sequence_eq (hp : d.pending = none) (h : Ready d) (isEmpty : Bool) :
    d.start .sequence isEmpty = .ok (if isEmpty then
      after d (lead d ++ ("[" ++ "]") ++ trail d.frames)
    else inside d (lead d ++ ("[" ++ "\n")) .sequence) := by
  have hcleared : { d with pending := none } = d := by
    cases d
    cases hp
    rfl
  have hne : d.pending ≠ some .blockList := by simp [hp]
  simp only [Draft.start, hne, if_false, hcleared]
  exact openCollection_eq h _ _ _ _ _

/-- True of an object that is directly an item of an attribute's list. -/
def isItem (d : Draft) : Bool := d.frames.head? = some .sequence && !d.inJson

theorem start_mapping_eq (h : Ready d) (isEmpty : Bool) :
    d.start .mapping isEmpty = .ok (if isEmpty then
      after d (lead d ++ ("\x7b" ++ "\x7d") ++ trail d.frames)
    else inside d (lead d ++ ("\x7b" ++ "\n")) (.mapping (isItem d))) :=
  openCollection_eq h _ _ _ _ _

theorem finishValue_put_inside (d : Draft) (s s' close : String) :
    ((after (after d s) s').put close).finishValue =
      after d (s ++ s' ++ close ++ trail d.frames) := by
  rw [after_after, finishValue_put]

theorem stop_sequence_eq (d : Draft) (s s' : String) :
    (after (inside d s .sequence) s').stop .sequence =
      .ok (after d (s ++ s' ++ (d.indent ++ "]") ++ trail d.frames)) :=
  congrArg Except.ok (finishValue_put_inside d s s' _)

theorem stop_mapping_eq (d : Draft) (s s' : String) (filtered : Bool) :
    (after (inside d s (.mapping filtered)) s').stop .mapping =
      .ok (after d (s ++ s' ++ (d.indent ++ "\x7d") ++ trail d.frames)) :=
  congrArg Except.ok (finishValue_put_inside d s s' _)

theorem stop_json_eq (d : Draft) (s s' : String) :
    (after { inside d s .json with inline := true } s').stop .json =
      .ok (after d (s ++ s' ++ ")" ++ trail d.frames)) :=
  congrArg Except.ok (finishValue_put_inside d s s' _)

/-- The draft behind a key that waits for its value on the line. -/
def keyed (d : Draft) (name : String) : Draft :=
  { after d (d.indent ++ Text.objectKey name ++ " = ") with inline := true }

theorem writeKey_eq (h : key.shape.isBlock = false) (d : Draft) :
    d.writeKey key = keyed d key.name := by
  simp only [Draft.writeKey, h, Bool.false_and, Bool.false_eq_true, if_false]
  rfl

theorem after_keyed (d : Draft) (name s : String) :
    after (keyed d name) s = after d (d.indent ++ Text.objectKey name ++ " = " ++ s) := by
  simp only [keyed, after, String.append_assoc]

/-! ### Runs of events -/

/-- Going through a run adds a text, and nothing stays open. -/
def Adds (c : Context) (d : Draft) (run : List Event) (s : String) : Prop :=
  ∀ rest, ReflTransGen (Step c) (d, run ++ rest) (after d s, rest)

theorem adds_nil (h : d.inline = false) : Adds c d [] "" := by
  intro rest
  rw [after_empty h]
  exact .refl

theorem Adds.append {run' : List Event} {s s' : String} (h : Adds c d run s)
    (h' : Adds c (after d s) run' s') : Adds c d (run ++ run') (s ++ s') := by
  intro rest
  rw [List.append_assoc, ← after_after]
  exact (h _).trans (h' rest)

theorem adds_scalar (h : Ready d) (s : Scalar) :
    Adds c d [.scalar s] (lead d ++ s.text ++ trail d.frames) :=
  fun rest => .single (.scalar rest (scalar_eq h s))

theorem adds_noItems (hp : d.pending = none) (h : Ready d) :
    Adds c d [.start .sequence, .stop .sequence] (lead d ++ ("[" ++ "]") ++ trail d.frames) := by
  intro rest
  have hswallows : d.swallows .sequence = true := by simp [Draft.swallows, hp]
  have hstop : dropStop .sequence (.stop .sequence :: rest) = some rest :=
    dropStop_eq_some_iff.2 rfl
  exact .single (.swallow hswallows hstop (start_sequence_eq hp h true))

theorem adds_noEntries (h : Ready d) :
    Adds c d [.start .mapping, .stop .mapping]
      (lead d ++ ("\x7b" ++ "\x7d") ++ trail d.frames) := by
  intro rest
  have hstop : dropStop .mapping (.stop .mapping :: rest) = some rest :=
    dropStop_eq_some_iff.2 rfl
  exact .single (.swallow rfl hstop (start_mapping_eq h true))

/-- A level adds what its start, its content and its stop add. -/
theorem adds_group {o : Opening} {d₁ : Draft} {s s' : String}
    (hs : d.swallows o = true → ∀ rest, dropStop o (run ++ rest) = none)
    (hstart : d.start o false = .ok d₁) (hrun : Adds c d₁ run s)
    (hstop : (after d₁ s).stop o.group = .ok (after d s')) :
    Adds c d (.start o :: (run ++ [.stop o.group])) s' := by
  intro rest
  simp only [List.cons_append, List.append_assoc, List.nil_append]
  exact .head (.start (fun h => hs h _) hstart) (.tail (hrun _) (.stop rest hstop))

theorem adds_list {s : String} (hp : d.pending = none) (h : Ready d) (hn : WellNested run)
    (hne : run ≠ []) (hrun : Adds c (inside d (lead d ++ ("[" ++ "\n")) .sequence) run s) :
    Adds c d (.start .sequence :: (run ++ [.stop .sequence]))
      (lead d ++ ("[" ++ "\n") ++ s ++ (d.indent ++ "]") ++ trail d.frames) :=
  adds_group (o := .sequence) (fun _ => dropStop_eq_none hn hne) (start_sequence_eq hp h false)
    hrun (stop_sequence_eq d _ s)

theorem adds_object {s : String} (h : Ready d) (hn : WellNested run) (hne : run ≠ [])
    (hrun : Adds c (inside d (lead d ++ ("\x7b" ++ "\n")) (.mapping (isItem d))) run s) :
    Adds c d (.start .mapping :: (run ++ [.stop .mapping]))
      (lead d ++ ("\x7b" ++ "\n") ++ s ++ (d.indent ++ "\x7d") ++ trail d.frames) :=
  adds_group (o := .mapping) (fun _ => dropStop_eq_none hn hne) (start_mapping_eq h false)
    hrun (stop_mapping_eq d _ s _)

theorem adds_call {s : String} (h : Ready d)
    (hrun : Adds c { inside d (lead d ++ "jsonencode(") .json with inline := true } run s) :
    Adds c d (.start .json :: (run ++ [.stop .json]))
      (lead d ++ "jsonencode(" ++ s ++ ")" ++ trail d.frames) :=
  adds_group (o := .json) (by simp [Draft.swallows]) (start_json_eq h false) hrun
    (stop_json_eq d _ s)

/-! ### Entries -/

/-- Whether a key that is no block is written, told from its value. -/
def isKept (c : Context) (key : MappingKey) (value : List Event) : Bool :=
  c.isRequired key || !key.computedOnly &&
    c.traits.shouldEmit key.path (contentOf c.traits key value) c.populated

theorem shouldWrite_eq (hk : key.shape.isBlock = false) (hv : IsValue value) (rest : List Event) :
    c.shouldWrite key (value ++ rest) = .ok (isKept c key value) := by
  unfold Context.shouldWrite isKept
  rw [contentAt_of_isValue c.traits key hv]
  simp only [bind, Except.bind, pure, Except.pure, hk]
  cases c.isRequired key <;> cases key.computedOnly <;>
    cases c.traits.shouldEmit key.path (contentOf c.traits key value) c.populated <;> rfl

theorem applyDefault_isValue (c : Context) (key : MappingKey) (hv : IsValue value) :
    IsValue (c.applyDefault key value) ∧
      ∀ rest, c.applyDefault key (value ++ rest) = c.applyDefault key value ++ rest := by
  cases hv with
  | scalar s =>
      cases s with
      | null => exact ⟨.scalar _, fun _ => rfl⟩
      | _ => exact ⟨.scalar _, fun _ => rfl⟩
  | group o hbody => exact ⟨.group o hbody, fun _ => rfl⟩

/-- A key is judged by its value with the default in it, whatever follows. -/
theorem shouldWrite_applyDefault (c : Context) (hk : key.shape.isBlock = false)
    (hv : IsValue value) (rest : List Event) :
    c.shouldWrite key (c.applyDefault key (value ++ rest)) =
      .ok (isKept c key (c.applyDefault key value)) := by
  obtain ⟨hv', hahead⟩ := applyDefault_isValue c key hv
  rw [hahead, shouldWrite_eq hk hv']

theorem adds_datum {s : String} (hf : d.filters? = some false) (hk : key.shape.isBlock = false)
    (h : Adds c (keyed d key.name) value s) :
    Adds c d (.key key :: value) (d.indent ++ Text.objectKey key.name ++ " = " ++ s) := by
  intro rest
  have hvalue := h rest
  rw [after_keyed] at hvalue
  refine .head (.datum (value ++ rest) hf) ?_
  rw [writeKey_eq hk]
  exact hvalue

theorem adds_kept {s : String} (hf : d.filters? = some true) (hk : key.shape.isBlock = false)
    (hv : IsValue value) (hkept : isKept c key (c.applyDefault key value) = true)
    (h : Adds c (keyed d key.name) (c.applyDefault key value) s) :
    Adds c d (.key key :: value) (d.indent ++ Text.objectKey key.name ++ " = " ++ s) := by
  intro rest
  have hwrite := shouldWrite_applyDefault c hk hv rest
  rw [hkept] at hwrite
  have hvalue := h rest
  rw [after_keyed, ← (applyDefault_isValue c key hv).2, ← writeKey_eq hk] at hvalue
  exact .head (.write hf hwrite) hvalue

theorem adds_leftOut (hi : d.inline = false) (hf : d.filters? = some true)
    (hk : key.shape.isBlock = false) (hv : IsValue value)
    (hkept : isKept c key (c.applyDefault key value) = false) :
    Adds c d (.key key :: value) "" := by
  intro rest
  have hwrite := shouldWrite_applyDefault c hk hv rest
  rw [hkept] at hwrite
  obtain ⟨hv', hahead⟩ := applyDefault_isValue c key hv
  have htake := takeValue_of_isValue hv' rest
  rw [← hahead] at htake
  rw [after_empty hi]
  exact .single (.leaveOut hf hwrite htake)

/-- Behind a key that is written the writer comes to its value, if that is no scalar. -/
theorem reaches_value {traits : ResourceTraits} {events : List Event} {o : Opening}
    (h : Reaches traits events d (.key key :: .start o :: rest)) (hk : key.shape.isBlock = false)
    (hw : Writes (contextOf traits events) d key (.start o :: rest)) :
    Reaches traits events (keyed d key.name) (.start o :: rest) := by
  rw [← writeKey_eq hk]
  rcases hw with hf | ⟨hf, hw⟩
  · exact h.tail (.datum _ hf)
  · exact h.tail (.write hf hw)

/-! ### The text only grows -/

def Extends (d d' : Draft) : Prop := ∃ s, d'.text = d.text ++ s

theorem Extends.trans {d₁ d₂ d₃ : Draft} (h : Extends d₁ d₂) (h' : Extends d₂ d₃) :
    Extends d₁ d₃ := by
  obtain ⟨s, hs⟩ := h
  obtain ⟨s', hs'⟩ := h'
  exact ⟨s ++ s', by rw [hs', hs, String.append_assoc]⟩

theorem extends_of_eq (h : d'.text = d.text) : Extends d d' := ⟨"", by rw [h, String.append_empty]⟩

theorem extends_after (d : Draft) (s : String) : Extends d (after d s) := ⟨s, rfl⟩

theorem extends_writeKey (d : Draft) (key : MappingKey) : Extends d (d.writeKey key) := by
  unfold Draft.writeKey
  split
  · exact extends_of_eq rfl
  · exact ⟨_, rfl⟩

theorem extends_openCollection {e : Event} {isEmpty : Bool} {left right : String} {f : Frame}
    (h : d.openCollection e isEmpty left right f = .ok d') : Extends d d' := by
  have hready := (of_openCollection_eq_ok h).1
  rw [openCollection_eq hready] at h
  obtain rfl := Except.ok.inj h
  cases isEmpty <;> exact ⟨_, rfl⟩

theorem extends_start {o : Opening} {isEmpty : Bool} (h : d.start o isEmpty = .ok d') :
    Extends d d' := by
  cases o with
  | resource type name =>
      simp only [Draft.start] at h
      split at h
      · obtain rfl := Except.ok.inj h
        exact ⟨_, rfl⟩
      · cases h
  | sequence =>
      simp only [Draft.start] at h
      split at h
      · obtain rfl := Except.ok.inj h
        exact extends_of_eq rfl
      · exact extends_openCollection (d := { d with pending := none }) h
  | mapping => exact extends_openCollection h
  | block name =>
      simp only [Draft.start] at h
      split at h
      · obtain rfl := Except.ok.inj h
        exact ⟨_, rfl⟩
      · cases h
  | json =>
      rw [start_json_eq (of_start_json_eq_ok h).1] at h
      obtain rfl := Except.ok.inj h
      exact ⟨_, rfl⟩

theorem extends_stop {g : Group} (h : d.stop g = .ok d') : Extends d d' := by
  obtain ⟨f, outer, hf, rfl, -⟩ := of_stop_eq_ok h
  cases f <;> simp only [Draft.stop, Draft.pop, groupOf, hf, if_true, bind, Except.bind, pure,
    Except.pure, Except.ok.injEq] at h <;> subst h
  case resource | block => exact ⟨_, rfl⟩
  case blockList => exact extends_of_eq rfl
  all_goals
    rw [finishValue_eq]
    exact ⟨_, String.append_assoc⟩

theorem extends_of_step {a b : Draft × List Event} (h : Step c a b) : Extends a.1 b.1 := by
  cases h with
  | comment d text rest => exact ⟨_, rfl⟩
  | scalar rest h =>
      rw [scalar_eq (of_scalar_eq_ok h).1] at h
      obtain rfl := Except.ok.inj h
      exact extends_after _ _
  | swallow _ _ h => exact extends_start h
  | start _ h => exact extends_start h
  | stop rest h => exact extends_stop h
  | datum => exact extends_writeKey _ _
  | write => exact extends_writeKey _ _
  | leaveOut => exact extends_of_eq rfl

theorem extends_of_steps {a b : Draft × List Event} (h : ReflTransGen (Step c) a b) :
    Extends a.1 b.1 := by
  induction h with
  | refl => exact extends_of_eq rfl
  | tail _ hstep ih => exact ih.trans (extends_of_step hstep)

/-- What a run adds where the writer comes to it stands in the text of the resource. -/
theorem exists_text_of_adds {traits : ResourceTraits} {events : List Event} {text s : String}
    (hw : write traits events = .ok text) (h : Reaches traits events d (run ++ rest))
    (hadds : Adds (contextOf traits events) d run s) : ∃ behind, text = d.text ++ s ++ behind := by
  obtain ⟨-, -, dend, hend, rfl⟩ := write_eq_ok_iff.1 hw
  exact extends_of_steps (reaches_end (h.trans (hadds rest)) hend)

end StackExport.Proofs.WrittenText
