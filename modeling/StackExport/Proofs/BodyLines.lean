import StackExport.Proofs.MapData
/-!
The bodies of a resource, line by line.

An attribute of a body is written as an assignment, as blocks or not at all. Which of these it is
can be told from the events of its value, and `events_text` says that the text of a serialized
resource is made of the lines of its attributes and of nothing else.
-/
namespace StackExport.Proofs.BodyLines

open Relation
open StackExport
open StackExport.Resource
open StackExport.Proofs.StreamNesting
open StackExport.Proofs.WriterRun
open StackExport.Proofs.ResourceCompleteness
open StackExport.Proofs.WritableStream
open StackExport.Proofs.SerializedResource
open StackExport.Proofs.LiteralReading
open StackExport.Proofs.LayoutReading
open StackExport.Proofs.WrittenText
open StackExport.Proofs.ValueLayout
open StackExport.Proofs.MapData

variable {c : Context} {d : Draft} {key : MappingKey} {value run rest : List Event} {r : Rules}
  {path : Path} {name : String} {tree : AttributeTree}

/-! ### Lines -/

/-- What a body is made of. -/
inductive Line where
  | comment (text : String)
  | assignment (name : String) (value : Layout)
  | block (name : String) (body : List Line)

mutual

/-- The text of a line under a number of levels. -/
def lineText (n : Nat) : Line → String
  | .comment text => indentation n ++ "# " ++ text ++ "\n"
  | .assignment name value =>
    indentation n ++ Text.objectKey name ++ " = " ++ (textOf (written n value) ++ "\n")
  | .block name body =>
    indentation n ++ name ++ " \x7b\n" ++ linesText (n + 1) body ++ (indentation n ++ "\x7d\n")

def linesText (n : Nat) : List Line → String
  | [] => ""
  | line :: rest => lineText n line ++ linesText n rest

end

theorem linesText_append (n : Nat) (lines others : List Line) :
    linesText n (lines ++ others) = linesText n lines ++ linesText n others := by
  induction lines with
  | nil => exact String.empty_append.symm
  | cons line rest ih => rw [List.cons_append, linesText, linesText, ih, String.append_assoc]

theorem linesText_singleton (n : Nat) (line : Line) : linesText n [line] = lineText n line :=
  String.append_empty

/-! ### Whether a key is written -/

/-- The answer of the lookahead over the events of a block. -/
def foresees (c : Context) (events : List Event) : Bool :=
  match c.hasOutput events with
  | .ok answer => answer
  | .error _ => false

/-- Whether a key is written, told from its value. -/
def isWritten (c : Context) (key : MappingKey) (value : List Event) : Bool :=
  isKept c key value && (c.isRequired key || !key.shape.isBlock || foresees c value)

theorem hasOutput_eq (h : KeysFed run) : c.hasOutput run = .ok (foresees c run) := by
  obtain ⟨answer, ha⟩ := hasOutput_ok c h
  rw [foresees, ha]

theorem blockHasOutput_eq (hv : IsValue value) (hfed : KeysFed value) (rest : List Event) :
    c.blockHasOutput (value ++ rest) = .ok (foresees c value) := by
  rw [Context.blockHasOutput, takeValue_of_isValue hv]
  exact hasOutput_eq hfed

theorem shouldWrite_eq_isWritten (hv : IsValue value) (hfed : KeysFed value) (rest : List Event) :
    c.shouldWrite key (value ++ rest) = .ok (isWritten c key value) := by
  unfold Context.shouldWrite isWritten isKept
  rw [contentAt_of_isValue c.traits key hv, blockHasOutput_eq hv hfed]
  simp only [bind, Except.bind, pure, Except.pure]
  cases c.isRequired key <;> cases key.computedOnly <;>
    cases c.traits.shouldEmit key.path (contentOf c.traits key value) c.populated <;>
    cases key.shape.isBlock <;> cases foresees c value <;> rfl

/-- A key of a body is judged by its value with the default in it, whatever follows. -/
theorem shouldWrite_ahead (c : Context) (key : MappingKey) (hv : IsValue value)
    (hfed : KeysFed value) (rest : List Event) :
    c.shouldWrite key (c.applyDefault key (value ++ rest)) =
      .ok (isWritten c key (c.applyDefault key value)) := by
  obtain ⟨hv', hahead⟩ := applyDefault_isValue c key hv
  rw [hahead, shouldWrite_eq_isWritten hv' (keysFed_applyDefault_iff.2 hfed)]

theorem isWritten_of_not_block (h : key.shape.isBlock = false) :
    isWritten c key value = isKept c key value := by
  rw [isWritten, h, Bool.not_false, Bool.or_true, Bool.true_or, Bool.and_true]

/-- A key that is not written leaves no trace of its value. -/
theorem adds_unwritten (hi : d.inline = false) (hf : d.filters? = some true) (hv : IsValue value)
    (hfed : KeysFed value) (h : isWritten c key (c.applyDefault key value) = false) :
    Adds c d (.key key :: value) "" := by
  intro rest
  have hwrite := shouldWrite_ahead c key hv hfed rest
  rw [h] at hwrite
  obtain ⟨hv', hahead⟩ := applyDefault_isValue c key hv
  have htake := takeValue_of_isValue hv' rest
  rw [← hahead] at htake
  rw [after_empty hi]
  exact .single (.leaveOut hf hwrite htake)

/-! ### Blocks -/

theorem writeKey_block_eq (hk : key.shape.isBlock = true) (hj : d.inJson = false) :
    d.writeKey key = { d with pending := some key.shape } := by
  simp only [Draft.writeKey, hk, hj, Bool.not_false, Bool.and_self, if_true]

/-- The line on which a block begins. -/
def opening (d : Draft) (name : String) : String := d.indent ++ name ++ " \x7b\n"

theorem start_block_eq (hp : d.pending = none) (hi : d.inline = false)
    (hf : d.frames.head? = some .blockList) (name : String) (isEmpty : Bool) :
    d.start (.block name) isEmpty = .ok (inside d (opening d name) .block) := by
  obtain ⟨frames, pending, inline, text⟩ := d
  cases hp
  cases hi
  have hplace : (decide (frames.head? = some .blockList) || decide (none = some Shape.blockObject)) =
      true := by simpa using hf
  simp only [Draft.start, hplace, if_true]
  rfl

theorem start_pending_block_eq (hi : d.inline = false) (name : String) (isEmpty : Bool)
    (hp : d.pending = none) :
    Draft.start { d with pending := some .blockObject } (.block name) isEmpty =
      .ok (inside d (opening d name) .block) := by
  obtain ⟨frames, pending, inline, text⟩ := d
  cases hp
  cases hi
  simp only [Draft.start, decide_true, Bool.or_true, if_true]
  rfl

theorem stop_block_eq (d : Draft) (s s' : String) :
    (after (inside d s .block) s').stop .block =
      .ok (after d (s ++ s' ++ (d.indent ++ "\x7d\n"))) := by
  change Except.ok _ = Except.ok _
  simp only [after, inside, Draft.put, Draft.push, String.append_assoc]
  rfl

theorem adds_block {s : String} (hp : d.pending = none) (hi : d.inline = false)
    (hf : d.frames.head? = some .blockList) (name : String)
    (hrun : Adds c (inside d (opening d name) .block) run s) :
    Adds c d (.start (.block name) :: (run ++ [.stop .block]))
      (opening d name ++ s ++ (d.indent ++ "\x7d\n")) :=
  adds_group (o := .block name) (by simp [Draft.swallows]) (start_block_eq hp hi hf name false) hrun
    (stop_block_eq d _ s)

/-- A key that is written goes on with its value, in which its default has been put. -/
theorem adds_written {s : String} (hf : d.filters? = some true) (hv : IsValue value)
    (hfed : KeysFed value) (h : isWritten c key (c.applyDefault key value) = true)
    (hvalue : ∀ rest, ReflTransGen (Step c) (d.writeKey key, c.applyDefault key value ++ rest)
      (after d s, rest)) : Adds c d (.key key :: value) s := by
  intro rest
  have hwrite := shouldWrite_ahead c key hv hfed rest
  rw [h] at hwrite
  have hsteps := hvalue rest
  rw [← (applyDefault_isValue c key hv).2] at hsteps
  exact .head (.write hf hwrite) hsteps

/-- The blocks of a list stand at the level of their key. -/
theorem steps_blockList {s : String} (hp : d.pending = none) (hi : d.inline = false)
    (hrun : Adds c (inside d "" .blockList) run s) (rest : List Event) :
    ReflTransGen (Step c)
      ({ d with pending := some .blockList }, .start .sequence :: (run ++ [.stop .sequence]) ++ rest)
      (after d s, rest) := by
  have hinside : inside d "" .blockList = { d with frames := .blockList :: d.frames } := by
    rw [inside, after_empty hi, Draft.push]
  have hstart : Draft.start { d with pending := some .blockList } .sequence false =
      .ok (inside d "" .blockList) := by
    rw [hinside]
    obtain ⟨frames, pending, inline, text⟩ := d
    cases hp
    rfl
  have hstop : (after (inside d "" .blockList) s).stop .sequence = .ok (after d s) := by
    rw [hinside]
    rfl
  have hstep : Step c ({ d with pending := some .blockList },
      .start .sequence :: (run ++ .stop .sequence :: rest))
      (inside d "" .blockList, run ++ .stop .sequence :: rest) :=
    .start (by simp [Draft.swallows]) hstart
  simp only [List.cons_append, List.append_assoc, List.nil_append]
  exact .head hstep (.tail (hrun _) (.stop rest hstop))

theorem steps_blockObject {s : String} (hp : d.pending = none) (hi : d.inline = false)
    (hrun : Adds c (inside d (opening d name) .block) run s) (rest : List Event) :
    ReflTransGen (Step c)
      ({ d with pending := some .blockObject },
        .start (.block name) :: (run ++ [.stop .block]) ++ rest)
      (after d (opening d name ++ s ++ (d.indent ++ "\x7d\n")), rest) := by
  have hstep : Step c ({ d with pending := some .blockObject },
      .start (.block name) :: (run ++ .stop .block :: rest))
      (inside d (opening d name) .block, run ++ .stop .block :: rest) :=
    .start (by simp [Draft.swallows]) (start_pending_block_eq hi name false hp)
  simp only [List.cons_append, List.append_assoc, List.nil_append]
  exact .head hstep (.tail (hrun _) (.stop rest (stop_block_eq d _ s)))

/-! ### Lines of trees -/

/-- The key of an attribute in a body. -/
def bodyKey (r : Rules) (path : Path) (name : String) (tree : AttributeTree) : MappingKey :=
  r.key name path (r.classify path tree)

/-- The events of a body, with the required names that it lacks. -/
def bodyEvents (r : Rules) (path : Path) (entries : List (String × AttributeTree)) : List Event :=
  r.body path entries ++ r.missingEvents path (entries.map (·.1))

/-- The events behind the key of an attribute in a body. -/
def bodyValue (r : Rules) (path : Path) (name : String) : AttributeTree → List Event
  | .list items =>
    if r.classify path (.list items) = .blockList then
      .start .sequence :: (r.blocks path name 0 items ++ [.stop .sequence])
    else r.value path (.list items)
  | .object entries =>
    if r.classify path (.object entries) = .blockObject then
      .start (.block name) :: (bodyEvents r path entries ++ [.stop .block])
    else r.value path (.object entries)
  | leaf => r.value path leaf

/-- What stands in the place of a list element that is no block. -/
def skippedText (name : String) (index : Nat) (item : AttributeTree) : String :=
  name ++ "[" ++ toString index ++ "] skipped: " ++ item.toJson.compact

/-- The lines of the required names that a body lacks. -/
def missingLines (c : Context) (r : Rules) (path : Path) (present : List String) : List Line :=
  (r.missingRequired path present).map fun name =>
    .assignment name (.scalar (c.traits.applyDefault (path.child name) .null))

/-- A body lacks the names that some pattern requires of it and that it does not have. -/
theorem mem_missingRequired_iff {present : List String} :
    name ∈ r.missingRequired path present ↔
      name ∉ present ∧ ∃ pattern ∈ r.traits.required, Rules.requiredName? path pattern = some name := by
  rw [Rules.missingRequired]
  -- on the patterns read so far: the last one may add a name to those found before it
  induction r.traits.required using List.reverseRecOn with
  | nil => simp
  | append_singleton earlier pattern ih =>
      rw [List.foldl_append, List.foldl_cons, List.foldl_nil]
      generalize List.foldl _ [] earlier = missing at ih ⊢
      simp only [List.mem_append, List.mem_singleton, or_and_right, exists_or, exists_eq_left]
      cases Rules.requiredName? path pattern with
      | none => simpa only [reduceCtorEq, or_false] using ih
      | some found =>
          simp only [List.contains_iff_mem, Bool.or_eq_true, Option.some.injEq]
          split
          · grind
          · rw [List.mem_append, List.mem_singleton, ih]
            grind

mutual

/-- What is written for an attribute of a body if its key is. -/
def attributeLines (c : Context) (r : Rules) (path : Path) (name : String) :
    AttributeTree → List Line
  | .list items =>
    if r.classify path (.list items) = .blockList then blockLines c r path name 0 items
    else [.assignment name (layoutOf c r false path (.list items))]
  | .object entries =>
    if r.classify path (.object entries) = .blockObject then
      [.block name (bodyLines c r path entries ++ missingLines c r path (entries.map (·.1)))]
    else [.assignment name (layoutOf c r false path (.object entries))]
  | leaf =>
    [.assignment name
      (defaulted c (bodyKey r path name leaf) leaf (layoutOf c r false path leaf))]

def blockLines (c : Context) (r : Rules) (path : Path) (name : String) (index : Nat) :
    List AttributeTree → List Line
  | [] => []
  | .object entries :: rest =>
    .block name (bodyLines c r (path.element index) entries ++
        missingLines c r (path.element index) (entries.map (·.1))) ::
      blockLines c r path name (index + 1) rest
  | item :: rest =>
    .comment (skippedText name index item) :: blockLines c r path name (index + 1) rest

/-- The lines of the attributes in a body, without the required names that it lacks. -/
def bodyLines (c : Context) (r : Rules) (path : Path) : List (String × AttributeTree) → List Line
  | [] => []
  | (name, tree) :: rest =>
    let key := bodyKey r (path.child name) name tree
    let value := bodyValue r (path.child name) name tree
    (if isWritten c key (c.applyDefault key value) then
      attributeLines c r (path.child name) name tree
    else []) ++ bodyLines c r path rest

end

/-- The lines of an attribute in a body: none if its key is not written. -/
def keyedLines (c : Context) (r : Rules) (path : Path) (name : String) (tree : AttributeTree) :
    List Line :=
  if isWritten c (bodyKey r path name tree)
      (c.applyDefault (bodyKey r path name tree) (bodyValue r path name tree)) then
    attributeLines c r path name tree
  else []

/-- The lines of a resource. -/
def rootLines (c : Context) (r : Rules) : AttributeTree → List Line
  | .object entries =>
    bodyLines c r .root entries ++ missingLines c r .root (entries.map (·.1))
  | .null => missingLines c r .root []
  | _ => []

theorem bodyLines_cons (c : Context) (r : Rules) (path : Path) (name : String)
    (tree : AttributeTree) (rest : List (String × AttributeTree)) :
    bodyLines c r path ((name, tree) :: rest) =
      keyedLines c r (path.child name) name tree ++ bodyLines c r path rest :=
  rfl

theorem keyed_eq (r : Rules) (path : Path) (name : String) (tree : AttributeTree) :
    r.keyed path name tree = .key (bodyKey r path name tree) :: bodyValue r path name tree := by
  cases tree with
  | list items =>
      rw [Rules.keyed, bodyValue]
      rfl
  | object entries =>
      rw [Rules.keyed, bodyValue]
      rfl
  | _ => rfl

theorem blocks_cons_object (r : Rules) (path : Path) (name : String) (index : Nat)
    (entries : List (String × AttributeTree)) (rest : List AttributeTree) :
    r.blocks path name index (.object entries :: rest) =
      .start (.block name) :: (bodyEvents r (path.element index) entries ++ [.stop .block]) ++
        r.blocks path name (index + 1) rest := by
  rw [Rules.blocks, bodyEvents]
  simp only [List.cons_append, List.append_assoc, List.nil_append]

theorem bodyEvents_phrase (r : Rules) (path : Path) (entries : List (String × AttributeTree)) :
    Phrase .body (bodyEvents r path entries) :=
  body_append_phrase r path entries (missingEvents_phrase r path _)

/-- Behind the key of an attribute stands one complete value, whose own keys have values. -/
theorem bodyValue_fed (r : Rules) (path : Path) (name : String) (tree : AttributeTree) :
    IsValue (bodyValue r path name tree) ∧ KeysFed (bodyValue r path name tree) := by
  have hvalue (tree : AttributeTree) : IsValue (r.value path tree) ∧ KeysFed (r.value path tree) :=
    ⟨(value_phrase r path tree).isValue, (value_phrase r path tree).keysFed⟩
  cases tree with
  | list items =>
      rw [bodyValue]
      split
      · have hblocks := blocks_phrase r path name 0 items
        exact ⟨.group .sequence hblocks.wellNested, hblocks.keysFed_group .sequence .sequence⟩
      · exact hvalue _
  | object entries =>
      rw [bodyValue]
      split
      · have hbody := bodyEvents_phrase r path entries
        exact ⟨.group (.block name) hbody.wellNested, hbody.keysFed_group (.block name) .block⟩
      · exact hvalue _
  | _ => exact hvalue _

/-! ### The text of lines -/

/-- A draft in which the attributes of a body, or of an object in a list, come next. -/
structure AtAttributes (d : Draft) : Prop where
  pending_eq : d.pending = none
  inline_eq : d.inline = false
  filters_eq : d.filters? = some true
  outside : d.inJson = false

theorem AtAttributes.after (h : AtAttributes d) (s : String) : AtAttributes (after d s) :=
  ⟨h.pending_eq, rfl, h.filters_eq, h.outside⟩

/-- Behind a key that is no block's the writer completes the assignment. -/
theorem steps_assignment (h : AtAttributes d) (hk : key.shape.isBlock = false)
    (rest : List Event) :
    ReflTransGen (Step c) (d.writeKey key, c.applyDefault key (r.value path tree) ++ rest)
      (after d (lineText (depth d) (.assignment key.name
        (defaulted c key tree (layoutOf c r false path tree)))), rest) := by
  have hvalue := (defaulted_laidOut key (value_laidOut c r false path tree)).adds
    (d := keyed d key.name) h.pending_eq (.inl rfl) h.outside (isItem_of_filters? h.filters_eq) rest
  have htrail : trail (keyed d key.name).frames = "\n" := trail_of_filters? h.filters_eq
  rw [after_keyed, htrail, show lead (keyed d key.name) = "" from rfl, String.empty_append]
    at hvalue
  rw [writeKey_eq hk, lineText]
  exact hvalue

theorem missing_adds (h : AtAttributes d) (c : Context) (r : Rules) (path : Path)
    (present : List String) :
    Adds c d (r.missingEvents path present)
      (linesText (depth d) (missingLines c r path present)) := by
  unfold Rules.missingEvents missingLines
  generalize r.missingRequired path present = missing
  induction missing generalizing d with
  | nil => exact adds_nil h.inline_eq
  | cons name others ih =>
      let key : MappingKey := { r.key name (path.child name) .value with required := true }
      have hw : isWritten c key (c.applyDefault key (r.value (path.child name) .null)) = true := by
        simp [isWritten, isKept, Context.isRequired, key]
      have hvalue := value_phrase r (path.child name) .null
      have hline : Adds c d (.key key :: r.value (path.child name) .null) _ :=
        adds_written h.filters_eq hvalue.isValue hvalue.keysFed hw (steps_assignment h rfl)
      rw [List.map_cons, linesText, List.flatMap_cons]
      exact hline.append (ih (h.after _))

/-- A draft in which the blocks of a list come next. -/
structure AtBlocks (d : Draft) : Prop where
  pending_eq : d.pending = none
  inline_eq : d.inline = false
  frames_eq : d.frames.head? = some .blockList
  outside : d.inJson = false

theorem AtBlocks.after (h : AtBlocks d) (s : String) : AtBlocks (after d s) :=
  ⟨h.pending_eq, rfl, h.frames_eq, h.outside⟩

/-- Outside documents only a document's own level is inside one. -/
theorem inJson_inside {f : Frame} {s : String} (h : d.inJson = false) (hf : f ≠ .json) :
    (inside d s f).inJson = false := by
  simpa [Draft.inJson, inside, Draft.push, Ne.symm hf] using h

theorem AtAttributes.inBlock (h : AtAttributes d) (name : String) :
    AtAttributes (inside d (opening d name) .block) :=
  ⟨h.pending_eq, rfl, rfl, inJson_inside h.outside (by decide)⟩

theorem AtBlocks.inBlock (h : AtBlocks d) (name : String) :
    AtAttributes (inside d (opening d name) .block) :=
  ⟨h.pending_eq, rfl, rfl, inJson_inside h.outside (by decide)⟩

theorem AtAttributes.inBlocks (h : AtAttributes d) : AtBlocks (inside d "" .blockList) :=
  ⟨h.pending_eq, rfl, rfl, inJson_inside h.outside (by decide)⟩

theorem depth_inside_block (d : Draft) (s : String) : depth (inside d s .block) = depth d + 1 :=
  List.countP_cons_of_pos rfl

theorem depth_inside_blockList (d : Draft) (s : String) : depth (inside d s .blockList) = depth d :=
  List.countP_cons_of_neg (by decide)

theorem adds_comment (h : AtBlocks d) (text : String) :
    Adds c d [.comment text] (lineText (depth d) (.comment text)) := by
  intro rest
  have hstep : Step c (d, .comment text :: rest) (d.put (d.indent ++ "# " ++ text ++ "\n"), rest) :=
    .comment d text rest
  have hput : d.put (d.indent ++ "# " ++ text ++ "\n") =
      WrittenText.after d (lineText (depth d) (.comment text)) := by
    obtain ⟨frames, pending, inline, s⟩ := d
    cases h.inline_eq
    rfl
  rw [← hput]
  exact .single hstep

theorem isBlock_classify_list_iff {items : List AttributeTree} :
    (r.classify path (.list items)).isBlock = true ↔
      r.classify path (.list items) = .blockList := by
  rcases classify_list r path items with hshape | hshape <;> simp [hshape, Shape.isBlock]

theorem isBlock_classify_object_iff {entries : List (String × AttributeTree)} :
    (r.classify path (.object entries)).isBlock = true ↔
      r.classify path (.object entries) = .blockObject := by
  rcases classify_object r path entries with hshape | hshape <;> simp [hshape, Shape.isBlock]

/-- A body adds its lines with those of the required names that it lacks. -/
theorem bodyEvents_adds {entries : List (String × AttributeTree)} (h : AtAttributes d)
    (hbody : Adds c d (r.body path entries) (linesText (depth d) (bodyLines c r path entries))) :
    Adds c d (bodyEvents r path entries) (linesText (depth d)
      (bodyLines c r path entries ++ missingLines c r path (entries.map (·.1)))) := by
  rw [linesText_append]
  exact hbody.append (missing_adds (h.after _) c r path _)

mutual

/-- Behind the key of an attribute the writer adds what is written for the attribute. -/
theorem attribute_steps (c : Context) (r : Rules) (path : Path) (name : String) :
    ∀ tree, ∀ {d : Draft}, AtAttributes d → ∀ rest, ReflTransGen (Step c)
      (d.writeKey (bodyKey r path name tree),
        c.applyDefault (bodyKey r path name tree) (bodyValue r path name tree) ++ rest)
      (after d (linesText (depth d) (attributeLines c r path name tree)), rest)
  | .list items, d, h, rest => by
      by_cases hshape : r.classify path (.list items) = .blockList
      · have hblocks := blocks_adds c r path name 0 items h.inBlocks
        rw [depth_inside_blockList] at hblocks
        rw [bodyValue, attributeLines, if_pos hshape, if_pos hshape, bodyKey, hshape,
          writeKey_block_eq rfl h.outside]
        exact steps_blockList h.pending_eq h.inline_eq hblocks rest
      · rw [bodyValue, attributeLines, if_neg hshape, if_neg hshape, linesText_singleton]
        have hplain := Bool.eq_false_iff.2 (mt isBlock_classify_list_iff.1 hshape)
        exact steps_assignment h hplain rest
  | .object entries, d, h, rest => by
      by_cases hshape : r.classify path (.object entries) = .blockObject
      · have hbody := bodyEvents_adds (h.inBlock name)
          (body_adds c r path entries (h.inBlock name))
        rw [depth_inside_block] at hbody
        rw [bodyValue, attributeLines, if_pos hshape, if_pos hshape, linesText_singleton, lineText,
          bodyKey, hshape, writeKey_block_eq rfl h.outside]
        exact steps_blockObject h.pending_eq h.inline_eq hbody rest
      · rw [bodyValue, attributeLines, if_neg hshape, if_neg hshape, linesText_singleton]
        have hplain := Bool.eq_false_iff.2 (mt isBlock_classify_object_iff.1 hshape)
        exact steps_assignment h hplain rest
  | .null, d, h, rest | .bool _, d, h, rest | .number _, d, h, rest | .string _, d, h, rest
  | .reference _, d, h, rest | .document _, d, h, rest => by
      change ReflTransGen (Step c) _ (after d (linesText _ [_]), rest)
      rw [linesText_singleton]
      exact steps_assignment h rfl rest

theorem blocks_adds (c : Context) (r : Rules) (path : Path) (name : String) (index : Nat) :
    ∀ items, ∀ {d : Draft}, AtBlocks d →
      Adds c d (r.blocks path name index items)
        (linesText (depth d) (blockLines c r path name index items))
  | [], d, h => adds_nil h.inline_eq
  | .object entries :: rest, d, h => by
      have hbody := bodyEvents_adds (h.inBlock name)
        (body_adds c r (path.element index) entries (h.inBlock name))
      rw [depth_inside_block] at hbody
      have hblock := adds_block h.pending_eq h.inline_eq h.frames_eq name hbody
      have hadds := hblock.append (blocks_adds c r path name (index + 1) rest (h.after _))
      rw [blocks_cons_object]
      exact hadds
  | .null :: rest, d, h | .bool _ :: rest, d, h | .number _ :: rest, d, h
  | .string _ :: rest, d, h | .list _ :: rest, d, h | .reference _ :: rest, d, h
  | .document _ :: rest, d, h => by
      exact (adds_comment h _).append (blocks_adds c r path name (index + 1) rest (h.after _))

theorem body_adds (c : Context) (r : Rules) (path : Path) :
    ∀ entries, ∀ {d : Draft}, AtAttributes d →
      Adds c d (r.body path entries) (linesText (depth d) (bodyLines c r path entries))
  | [], d, h => adds_nil h.inline_eq
  | (name, tree) :: rest, d, h => by
      have hrest {s : String} := body_adds c r path rest (h.after s)
      have hfed := bodyValue_fed r (path.child name) name tree
      rw [Rules.body, keyed_eq, bodyLines, linesText_append]
      split
      case isTrue hw =>
        have hsteps := attribute_steps c r (path.child name) name tree h
        exact (adds_written h.filters_eq hfed.1 hfed.2 hw hsteps).append hrest
      case isFalse hw =>
        rw [Bool.not_eq_true] at hw
        exact (adds_unwritten h.inline_eq h.filters_eq hfed.1 hfed.2 hw).append hrest

end

theorem rootBody_adds (c : Context) (r : Rules) (attributes : AttributeTree)
    (h : AtAttributes d) :
    Adds c d (r.rootBody attributes) (linesText (depth d) (rootLines c r attributes)) := by
  cases attributes with
  | object entries => exact bodyEvents_adds h (body_adds c r .root entries h)
  | null => exact missing_adds h c r .root []
  | _ => exact adds_nil h.inline_eq

/-! ### The text of a resource -/

/-- The line on which a resource begins. -/
def resourceOpening (type name : String) : String :=
  "resource " ++ Text.quote type ++ " " ++ Text.quote name ++ " \x7b\n"

/-- The draft in which the body of a resource comes next. -/
def bodyDraft (type name : String) : Draft := ⟨[.resource], none, false, resourceOpening type name⟩

theorem bodyDraft_atAttributes (type name : String) : AtAttributes (bodyDraft type name) :=
  ⟨rfl, rfl, rfl, rfl⟩

/-- What is known while a serialized resource is written. -/
def resourceContext (r : Rules) (type name : String) (attributes : AttributeTree) : Context :=
  contextOf r.traits (r.events type name attributes)

/-- The writer comes to the body of the resource. -/
theorem reaches_rootBody (traits : ResourceTraits) (schema : ResourceSchema) (type name : String)
    (attributes : AttributeTree) :
    Reaches traits (Rules.events ⟨traits, schema⟩ type name attributes) (bodyDraft type name)
      (Rules.rootBody ⟨traits, schema⟩ attributes ++ [.stop .resource]) := by
  have hstart : Draft.empty.start (.resource type name) false = .ok (bodyDraft type name) := by
    change Except.ok _ = Except.ok _
    simp only [Draft.empty, Draft.put, Draft.push, String.empty_append]
    rfl
  exact .single (.start (by simp [Draft.swallows]) hstart)

/-- The text of a serialized resource is made of its lines. -/
theorem events_text (traits : ResourceTraits) (schema : ResourceSchema) (type name : String)
    (attributes : AttributeTree) :
    write traits (Rules.events ⟨traits, schema⟩ type name attributes) =
      .ok (resourceOpening type name ++
        linesText 1 (rootLines (resourceContext ⟨traits, schema⟩ type name attributes)
          ⟨traits, schema⟩ attributes) ++ "\x7d\n\n") := by
  obtain ⟨text, htext⟩ := exists_eventsText traits schema type name attributes
  obtain ⟨hb, hp, -⟩ := write_eq_ok_iff.1 htext
  have hbody := rootBody_adds (resourceContext ⟨traits, schema⟩ type name attributes)
    ⟨traits, schema⟩ attributes (bodyDraft_atAttributes type name) [.stop .resource]
  exact write_eq_ok_iff.2 ⟨hb, hp, _,
    ((reaches_rootBody traits schema type name attributes).trans hbody).tail (.stop [] rfl), rfl⟩

end StackExport.Proofs.BodyLines
