import StackExport.Proofs.StreamNesting
/-!
Reading a stream back into the tree that it describes.

The reader takes event after event and knows nothing of the rules: it keeps the open levels, the
innermost first, each with what it holds so far. A run of events is read alike on whatever levels
it stands.
-/
namespace StackExport.Proofs.StreamReading

open StackExport

/-- The tree that a stream describes. Blocks and mappings are objects, sequences are lists. -/
inductive ReadTree where
  | scalar (value : Scalar)
  | list (items : List ReadTree)
  | object (entries : List (String × ReadTree))
  | document (inner : ReadTree)
  /-- A comment that stands in the place of an item. -/
  | comment (text : String)

/-- A level that is not closed yet, with what it holds so far. -/
inductive OpenLevel where
  | items (taken : List ReadTree)
  /-- `key` waits for its value. -/
  | entries (group : Group) (taken : List (String × ReadTree)) (key : Option String)
  /-- A document, or the stream as a whole: one value and no more. -/
  | single (value : Option ReadTree)

namespace OpenLevel

/-- What a level holds at its start. -/
def opened : Group → OpenLevel
  | .sequence => .items []
  | .json => .single none
  | group => .entries group [] none

def put? (tree : ReadTree) : OpenLevel → Option OpenLevel
  | .items taken => some (.items (taken ++ [tree]))
  | .entries group taken (some key) => some (.entries group (taken ++ [(key, tree)]) none)
  | .single none => some (.single (some tree))
  | _ => none

def name? (key : String) : OpenLevel → Option OpenLevel
  | .entries group taken none => some (.entries group taken (some key))
  | _ => none

/-- Takes a comment. One that stands in no list tells nothing of the tree, so it is not read. -/
def remark? (text : String) : OpenLevel → Option OpenLevel
  | .items taken => some (.items (taken ++ [.comment text]))
  | _ => none

/-- What a level is at the stop of a group. -/
def close? : Group → OpenLevel → Option ReadTree
  | .sequence, .items taken => some (.list taken)
  | .json, .single (some inner) => some (.document inner)
  | group, .entries start taken none => if group = start then some (.object taken) else none
  | _, _ => none

end OpenLevel

/-- Takes an event into the innermost level, or opens or closes one. -/
def readEvent? : List OpenLevel → Event → Option (List OpenLevel)
  | levels, .start o => some (.opened o.group :: levels)
  | level :: outer, .key key => (level.name? key.name).map (· :: outer)
  | level :: outer, .scalar s => (level.put? (.scalar s)).map (· :: outer)
  | level :: outer, .comment text => (level.remark? text).map (· :: outer)
  | level :: around :: outer, .stop g =>
    ((level.close? g).bind around.put?).map (· :: outer)
  | _, _ => none

/-- The tree that a stream describes, if it describes one and nothing else. -/
def readBack? (events : List Event) : Option ReadTree :=
  match events.foldlM readEvent? [.single none] with
  | some [.single tree] => tree
  | _ => none

/-! ### Runs of events -/

variable {run run' : List Event} {level level' level'' : OpenLevel} {tree : ReadTree}
  {items : List ReadTree} {entries others : List (String × ReadTree)}

/-- A run turns one innermost level into another, whatever levels are around. -/
def Reads (run : List Event) (level level' : OpenLevel) : Prop :=
  ∀ outer, run.foldlM readEvent? (level :: outer) = some (level' :: outer)

theorem reads_nil (level : OpenLevel) : Reads [] level level := fun _ => rfl

theorem Reads.append (h : Reads run level level') (h' : Reads run' level' level'') :
    Reads (run ++ run') level level'' := by
  intro outer
  rw [List.foldlM_append, h outer]
  exact h' outer

theorem Reads.cons {e : Event} (he : Reads [e] level level') (h : Reads run level' level'') :
    Reads (e :: run) level level'' :=
  he.append h

theorem reads_scalar {s : Scalar} (h : level.put? (.scalar s) = some level') :
    Reads [.scalar s] level level' := by
  intro outer
  simp [readEvent?, h]

theorem reads_key {key : MappingKey} (h : level.name? key.name = some level') :
    Reads [.key key] level level' := by
  intro outer
  simp [readEvent?, h]

theorem reads_comment {text : String} (h : level.remark? text = some level') :
    Reads [.comment text] level level' := by
  intro outer
  simp [readEvent?, h]

/-- A group is read as its level is when it is closed. -/
theorem Reads.group {o : Opening} {inner : OpenLevel} (h : Reads run (.opened o.group) inner)
    (hclose : inner.close? o.group = some tree) (hput : level.put? tree = some level') :
    Reads (.start o :: (run ++ [.stop o.group])) level level' := by
  intro outer
  have hstop : [Event.stop o.group].foldlM readEvent? (inner :: level :: outer) =
      some (level' :: outer) := by
    simp [readEvent?, hclose, hput]
  calc (Event.start o :: (run ++ [.stop o.group])).foldlM readEvent? (level :: outer)
      = (run ++ [Event.stop o.group]).foldlM readEvent? (.opened o.group :: level :: outer) := rfl
    _ = [Event.stop o.group].foldlM readEvent? (inner :: level :: outer) := by
      rw [List.foldlM_append, h]
      rfl
    _ = some (level' :: outer) := hstop

/-! ### Values, items and entries -/

/-- A run is read as one value wherever a value may stand. -/
def Gives (run : List Event) (tree : ReadTree) : Prop :=
  ∀ level level', level.put? tree = some level' → Reads run level level'

def GivesItems (run : List Event) (items : List ReadTree) : Prop :=
  ∀ taken, Reads run (.items taken) (.items (taken ++ items))

def GivesEntries (run : List Event) (entries : List (String × ReadTree)) : Prop :=
  ∀ group taken, Reads run (.entries group taken none) (.entries group (taken ++ entries) none)

theorem gives_scalar (s : Scalar) : Gives [.scalar s] (.scalar s) := fun _ _ => reads_scalar

theorem givesItems_nil : GivesItems [] [] := by
  intro taken
  rw [List.append_nil]
  exact reads_nil _

theorem Gives.item (h : Gives run tree) (h' : GivesItems run' items) :
    GivesItems (run ++ run') (tree :: items) := by
  intro taken
  have hrest := h' (taken ++ [tree])
  rw [List.append_assoc] at hrest
  exact (h _ _ rfl).append hrest

theorem GivesItems.comment (text : String) (h : GivesItems run items) :
    GivesItems (.comment text :: run) (.comment text :: items) := by
  intro taken
  have hrest := h (taken ++ [.comment text])
  rw [List.append_assoc] at hrest
  exact (reads_comment rfl).cons hrest

theorem GivesItems.list (h : GivesItems run items) :
    Gives (.start .sequence :: (run ++ [.stop .sequence])) (.list items) :=
  fun _ _ hput => (h []).group (o := .sequence) rfl hput

theorem givesEntries_nil : GivesEntries [] [] := by
  intro group taken
  rw [List.append_nil]
  exact reads_nil _

theorem GivesEntries.append (h : GivesEntries run entries) (h' : GivesEntries run' others) :
    GivesEntries (run ++ run') (entries ++ others) := by
  intro group taken
  have hrest := h' group (taken ++ entries)
  rw [List.append_assoc] at hrest
  exact (h group taken).append hrest

theorem Gives.entry (h : Gives run tree) (key : MappingKey) :
    GivesEntries (.key key :: run) [(key.name, tree)] := by
  intro group taken
  have hkey : Reads [.key key] (.entries group taken none)
      (.entries group taken (some key.name)) := reads_key rfl
  exact hkey.cons (h _ _ rfl)

theorem GivesEntries.object {o : Opening} (h : GivesEntries run entries)
    (ho : OpenLevel.opened o.group = .entries o.group [] none) :
    Gives (.start o :: (run ++ [.stop o.group])) (.object entries) := by
  intro level level' hput
  have hclose : (OpenLevel.entries o.group entries none).close? o.group =
      some (.object entries) := by
    unfold OpenLevel.close?
    split <;> simp_all
  exact (ho ▸ h o.group []).group hclose hput

theorem Gives.document (h : Gives run tree) :
    Gives (.start .json :: (run ++ [.stop .json])) (.document tree) :=
  fun _ _ hput => (h (.single none) (.single (some tree)) rfl).group (o := .json) rfl hput

theorem Gives.readBack (h : Gives run tree) : readBack? run = some tree := by
  rw [readBack?, h (.single none) (.single (some tree)) rfl []]

end StackExport.Proofs.StreamReading
