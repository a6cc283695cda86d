import Mathlib
import StackExport.Document
import StackExport.Proofs.BodyLines
import StackExport.Proofs.EmitterIsolation
import StackExport.Proofs.EscapedText
import StackExport.Proofs.RepairIndependence
import StackExport.Proofs.VariableReferences
/-!
Every managed resource of a state has its block in the configuration.

The events of a resource are written whole, whatever its attributes are, so each entry adds its
block to what an assembly has. A line of the configuration stays as long as no default of a variable
stands in it as a literal.
-/
namespace StackExport.Proofs.WrittenResources

open StackExport
open StackExport.Emitter
open StackExport.Resource
open StackExport.Proofs.BodyLines
open StackExport.Proofs.EmitterIsolation
open StackExport.Proofs.EscapedText
open StackExport.Proofs.RepairIndependence
open StackExport.Proofs.SerializedResource
open StackExport.Proofs.StreamNesting
open StackExport.Proofs.VariableReferences
open StackExport.Proofs.WritableStream

/-! ### Lines of a text -/

/-- Nothing, or a text that ends with a line end. -/
def Ended (text : String) : Prop := text = "" ∨ ∃ front, text = front ++ "\n"

/-- A text has a line of its own. -/
def HasLine (text line : String) : Prop :=
  ∃ before after, text = before ++ line ++ "\n" ++ after ∧ Ended before

variable {a b text line : String}

theorem ended_of_newline (front : String) : Ended (front ++ "\n") := .inr ⟨front, rfl⟩

theorem ended_closing (front : String) : Ended (front ++ "\x7d\n\n") := by
  have hend : "\x7d\n\n" = "\x7d\n" ++ "\n" := by decide
  rw [hend, ← String.append_assoc]
  exact ended_of_newline _

theorem Ended.append (ha : Ended a) (hb : Ended b) : Ended (a ++ b) := by
  rcases hb with rfl | ⟨front, rfl⟩
  · rwa [String.append_empty]
  · rw [← String.append_assoc]
    exact ended_of_newline _

theorem ended_join {texts : List String} (h : ∀ t ∈ texts, Ended t) : Ended (String.join texts) := by
  induction texts with
  | nil => exact .inl rfl
  | cons t texts ih =>
      rw [String.join_cons]
      exact (h t List.mem_cons_self).append (ih fun u hu => h u (List.mem_cons_of_mem _ hu))

theorem HasLine.append_right (h : HasLine a line) (b : String) : HasLine (a ++ b) line := by
  obtain ⟨before, after, rfl, hended⟩ := h
  exact ⟨before, after ++ b, by simp only [String.append_assoc], hended⟩

theorem HasLine.append_left (ha : Ended a) (h : HasLine b line) : HasLine (a ++ b) line := by
  obtain ⟨before, after, rfl, hended⟩ := h
  exact ⟨a ++ before, after, by simp only [String.append_assoc], ha.append hended⟩

theorem mem_lines_of_hasLine (h : HasLine text line) (hline : IsLine line) :
    line ∈ (Script.ofText text).lines := by
  obtain ⟨before, after, rfl, hended⟩ := h
  have hcut (rest : List Char) : Text.splitWhere (· == '\n') (line.toList ++ '\n' :: rest) =
      line.toList :: Text.splitWhere (· == '\n') rest := by
    rw [Text.splitWhere_append, Text.splitWhere_of_not_mem hline.1, List.singleton_append]
  -- The line ends of the text before it and of its own cut the line out as a piece, which is not the
  -- last one, so the piece is a line whether or not the text goes on behind it.
  obtain ⟨first, hpieces⟩ : ∃ first, Text.splitWhere (· == '\n')
      (before ++ line ++ "\n" ++ after).toList =
      first ++ line.toList :: Text.splitWhere (· == '\n') after.toList := by
    rcases hended with rfl | ⟨front, rfl⟩
    · refine ⟨[], ?_⟩
      rw [← hcut]
      simp
    · refine ⟨Text.splitWhere (· == '\n') front.toList, ?_⟩
      rw [← hcut, ← Text.splitWhere_append]
      simp
  have hmem : line ∈ ((first ++ line.toList ::
      Text.splitWhere (· == '\n') after.toList).dropLast.map Text.dropReturn).map String.ofList := by
    refine List.mem_map.mpr ⟨line.toList, List.mem_map.mpr ⟨line.toList, ?_, ?_⟩, String.ofList_toList⟩
    · rw [List.dropLast_append_of_ne_nil (List.cons_ne_nil _ _),
        List.dropLast_cons_of_ne_nil (Text.splitWhere_ne_nil _ _)]
      exact List.mem_append_right _ List.mem_cons_self
    · exact dropReturn_of_isLine hline
  unfold Script.ofText Text.lines
  rw [hpieces]
  dsimp only
  split
  · exact hmem
  · exact hmem
  · rw [List.map_append]
    exact List.mem_append_left _ hmem

theorem hasLine_text {s : Script} (h : line ∈ s.lines) : HasLine s.text line := by
  obtain ⟨before, after, hlines⟩ := List.append_of_mem h
  refine ⟨String.join (before.map (· ++ "\n")), String.join (after.map (· ++ "\n")), ?_, ?_⟩
  · rw [Script.text, hlines, List.map_append, List.map_cons, String.join_append, String.join_cons]
    simp only [String.append_assoc]
  · refine ended_join fun t ht => ?_
    obtain ⟨front, -, rfl⟩ := List.mem_map.mp ht
    exact ended_of_newline front

/-- No default stands in a line as a literal. -/
def Untouched (inputs : List Variable) (line : String) : Prop :=
  ∀ v ∈ inputs, ∀ default ∈ v.default, Text.contains line ("\"" ++ default ++ "\"") = false

theorem mem_referTo {v : Variable} {s : Script} (h : line ∈ s.lines) (hv : Untouched [v] line) :
    line ∈ (s.referTo v).1.lines := by
  rcases referTo_cases v s with ⟨default, hdefault, hrefer⟩ | hrefer
  · rw [hrefer]
    refine List.mem_map.mpr ⟨line, h, ?_⟩
    have hcontains := hv v List.mem_cons_self default hdefault
    rw [referredLine, Script.referLine, hcontains, Bool.not_false, Bool.or_true, if_pos rfl,
      Option.getD_none]
  · rwa [hrefer]

theorem mem_referToAll {s : Script} {inputs : List Variable} (h : line ∈ s.lines)
    (hinputs : Untouched inputs line) : line ∈ (s.referToAll inputs).1.lines := by
  rw [fst_referToAll]
  induction inputs generalizing s with
  | nil => exact h
  | cons v rest ih =>
      rw [List.foldl_cons]
      refine ih (mem_referTo h ?_) fun u hu => hinputs u (List.mem_cons_of_mem _ hu)
      intro u hu
      obtain rfl := List.mem_singleton.mp hu
      exact hinputs u List.mem_cons_self

/-! ### The opening line of a resource -/

def opening (type name : String) : String :=
  "resource " ++ Text.quote type ++ " " ++ Text.quote name ++ " \x7b"

theorem resourceOpening_eq (type name : String) :
    resourceOpening type name = opening type name ++ "\n" := by
  have hend : " \x7b\n" = " \x7b" ++ "\n" := by decide
  rw [resourceOpening, hend, ← String.append_assoc, opening]

theorem newline_not_mem_quote (text : String) : '\n' ∉ (Text.quote text).toList := by
  rw [Text.quote, String.toList_append, String.toList_append, Text.escape, String.toList_ofList]
  simp [(break_not_mem_escapeChars text.toList).1]

theorem isLine_opening (type name : String) : IsLine (opening type name) := by
  have hbrace : (opening type name).toList =
      ("resource " ++ Text.quote type ++ " " ++ Text.quote name).toList ++ [' ', '{'] := by
    rw [opening, String.toList_append]
    rfl
  constructor
  · rw [hbrace]
    simp [newline_not_mem_quote]
  · rw [hbrace, List.getLast?_append_of_ne_nil _ (by simp)]
    decide

/-! ### One resource -/

theorem startsResource_eq_false {p : Part} {run : List Event} (h : Phrase p run) :
    ∀ e ∈ run, startsResource e = false := by
  induction h with
  | scalar => simp [startsResource]
  | noItem | noEntry | noKey | noBlock => exact List.forall_mem_nil _
  | _ => simp_all [startsResource, or_imp]

/-- A run that comes back to its level at its end and not before. -/
theorem closed?_eq_some {level : Int} {run : List Event} (hne : run ≠ [])
    (hinside : ∀ n, 0 < n → n < run.length → level + depth (run.take n) ≠ 0)
    (hend : level + depth run = 0) : closed? level run = some (run, []) := by
  -- The level is that of what has been cut off, so it changes with every event.
  induction run generalizing level with
  | nil => exact absurd rfl hne
  | cons e rest ih =>
      rw [closed?]
      cases rest with
      | nil =>
          rw [if_pos (by simpa using hend)]
      | cons next rest =>
          have hopen : level + e.nesting ≠ 0 := by simpa using hinside 1 (by simp) (by simp)
          have hrest : closed? (level + e.nesting) (next :: rest) = some (next :: rest, []) := by
            refine ih (by simp) (fun n hn hlt => ?_) ?_
            · have hdeeper := hinside (n + 1) (by simp) (by simpa using hlt)
              rw [List.take_succ_cons, depth_cons] at hdeeper
              omega
            · rw [depth_cons] at hend
              omega
          rw [if_neg hopen, hrest]
          rfl

/-- The events of a resource as a piece of a stream. -/
def pieceOf (rules : Rulebook) (r : StateResource) (attributes : AttributeTree) : Piece where
  type := r.type
  name := r.name
  body := Rules.rootBody ⟨rules.table.get r.type, rules.schema.resourceSchema r.type⟩ attributes ++
    [.stop .resource]
  no_start := by
    have hbody := startsResource_eq_false
      (rootBody_phrase ⟨rules.table.get r.type, rules.schema.resourceSchema r.type⟩ attributes)
    intro e he
    rcases List.mem_append.mp he with he | he
    · exact hbody e he
    · obtain rfl := List.mem_singleton.mp he
      rfl

theorem events_pieceOf (rules : Rulebook) (r : StateResource) (attributes : AttributeTree) :
    (pieceOf rules r attributes).events = rules.events r attributes := rfl

theorem split?_pieceOf (rules : Rulebook) (r : StateResource) (attributes : AttributeTree) :
    (pieceOf rules r attributes).split? = some (rules.events r attributes, []) := by
  have hnested := (rootBody_phrase
    ⟨rules.table.get r.type, rules.schema.resourceSchema r.type⟩ attributes).wellNested
  rw [Piece.split?, events_pieceOf]
  refine closed?_eq_some (List.cons_ne_nil _ _) (fun n h0 hn => ?_) ?_
  · have hinside := depth_take_group hnested (.resource r.type r.name) h0 hn
    have hsame : depth ((rules.events r attributes).take n) ≥ 1 := hinside
    omega
  · have hzero := (WellNested.group (.resource r.type r.name) hnested .nil).depth_eq_zero
    rw [zero_add]
    exact hzero

/-- The block of a resource between its first and its last line. -/
def blockText (rules : Rulebook) (r : StateResource) (attributes : AttributeTree) : String :=
  resourceOpening r.type r.name ++ linesText 1 (rootLines
    (resourceContext ⟨rules.table.get r.type, rules.schema.resourceSchema r.type⟩ r.type r.name
      attributes) ⟨rules.table.get r.type, rules.schema.resourceSchema r.type⟩ attributes) ++
    "\x7d\n\n"

/-- An emitter in which nothing is open writes a serialized resource whole. -/
theorem emitAll_events {e : Emitter} (he : Idle e) {rules : Rulebook} (htable : e.table = rules.table)
    (r : StateResource) (attributes : AttributeTree) :
    ∃ e', e.emitAll (rules.events r attributes) = (e', []) ∧ Idle e' ∧ e'.table = rules.table ∧
      e'.text = e.text ++ blockText rules r attributes := by
  have hsplit := split?_pieceOf rules r attributes
  have hwrite : Resource.write (rules.table.get r.type) (rules.events r attributes) =
      .ok (blockText rules r attributes) := events_text _ _ _ _ _
  have houtcome : (pieceOf rules r attributes).outcome e.table =
      (blockText rules r attributes, []) := by
    have htype : (pieceOf rules r attributes).type = r.type := rfl
    rw [Piece.outcome, hsplit, htable, htype]
    simp only [hwrite, strays, String.append_empty]
  obtain ⟨e', hrun, hafter⟩ := emitFrom_piece he (pieceOf rules r attributes)
  rw [houtcome, events_pieceOf] at hrun
  refine ⟨e', hrun, hafter.idle (by simp [hsplit]), hafter.table_eq.trans htable, ?_⟩
  rw [hafter.text_eq, houtcome]

theorem hasLine_blockText (rules : Rulebook) (r : StateResource) (attributes : AttributeTree) :
    HasLine (blockText rules r attributes) (opening r.type r.name) := by
  rw [blockText, resourceOpening_eq, String.append_assoc]
  exact ⟨"", _, by rw [String.empty_append], .inl rfl⟩

theorem ended_blockText (rules : Rulebook) (r : StateResource) (attributes : AttributeTree) :
    Ended (blockText rules r attributes) :=
  ended_closing _

/-! ### All resources -/

/-- Nothing is open, and what has been written ends with a line end. -/
structure Whole (rules : Rulebook) (a : Assembly) : Prop where
  idle : Idle a.emitter
  table_eq : a.emitter.table = rules.table
  ended : Ended a.emitter.text

/-- What an assembly has it keeps. -/
structure Grows (a b : Assembly) : Prop where
  lines : ∀ line, HasLine a.emitter.text line → HasLine b.emitter.text line
  diagnostics : a.diagnostics <+: b.diagnostics

theorem Grows.refl (a : Assembly) : Grows a a := ⟨fun _ => id, List.prefix_refl _⟩

theorem Grows.trans {a b d : Assembly} (h : Grows a b) (h' : Grows b d) : Grows a d :=
  ⟨fun line hline => h'.lines line (h.lines line hline), h.diagnostics.trans h'.diagnostics⟩

variable {rules : Rulebook} {c : RenderContext} {s : Stack}

/-- What resolution makes of an entry. One that belongs to no pair is left as it is. -/
def resolvedEntry (rules : Rulebook) (c : RenderContext) (s : Stack) (declarations : Declarations)
    (e : StackEntry) : Resolved :=
  match e.mapping with
  | some m => resolve c s m (rules.table.get e.resource.type) e.attributes declarations
  | none => ⟨e.attributes, declarations, [], 0⟩

theorem add_eq (rules : Rulebook) (c : RenderContext) (s : Stack) (x : Assembly) (e : StackEntry) :
    x.add rules c s e =
      let resolved := resolvedEntry rules c s x.declarations e
      let written := x.emitter.emitAll (rules.events e.resource resolved.attributes)
      ⟨written.1, resolved.declarations, x.diagnostics ++ resolved.warnings ++ written.2⟩ := by
  unfold Assembly.add resolvedEntry
  cases e.mapping <;> rfl

/-- The resource of an entry is added to what there is. -/
theorem whole_add {x : Assembly} (h : Whole rules x) (e : StackEntry) :
    Whole rules (x.add rules c s e) ∧ Grows x (x.add rules c s e) ∧
      HasLine (x.add rules c s e).emitter.text (opening e.resource.type e.resource.name) := by
  have hadd := add_eq rules c s x e
  obtain ⟨emitter, hrun, hidle, htable, htext⟩ := emitAll_events h.idle h.table_eq e.resource
    (resolvedEntry rules c s x.declarations e).attributes
  simp only [hrun, List.append_nil] at hadd
  rw [hadd]
  refine ⟨⟨hidle, htable, ?_⟩, ⟨fun line hline => ?_, List.prefix_append _ _⟩, ?_⟩
  · rw [htext]
    exact h.ended.append (ended_blockText _ _ _)
  · rw [htext]
    exact hline.append_right _
  · rw [htext]
    exact .append_left h.ended (hasLine_blockText _ _ _)

theorem whole_foldl {x : Assembly} (h : Whole rules x) (entries : List StackEntry) :
    Whole rules (entries.foldl (Assembly.add rules c s) x) ∧
      Grows x (entries.foldl (Assembly.add rules c s) x) ∧
      ∀ e ∈ entries, HasLine (entries.foldl (Assembly.add rules c s) x).emitter.text
        (opening e.resource.type e.resource.name) := by
  induction entries generalizing x with
  | nil => exact ⟨h, .refl x, nofun⟩
  | cons e entries ih =>
      obtain ⟨hadd, hgrows, hline⟩ := whole_add (c := c) (s := s) h e
      obtain ⟨hall, hgrows', hlines⟩ := ih hadd
      refine ⟨hall, hgrows.trans hgrows', ?_⟩
      exact List.forall_mem_cons.mpr ⟨hgrows'.lines _ hline, hlines⟩

theorem finish_of_whole {x : Assembly} (h : Whole rules x) :
    x.finish = (x.emitter.text, []) := by
  rw [Assembly.finish, Emitter.finish, h.idle.depth_eq]
  rfl

theorem whole_fresh (rules : Rulebook) (declarations : Declarations)
    (diagnostics : Diagnostics) : Whole rules ⟨.fresh rules.table, declarations, diagnostics⟩ :=
  ⟨idle_fresh _, rfl, .inl rfl⟩

/-! ### The whole configuration -/

section

variable (rules : Rulebook) (settings : Settings) (i : StackInputs)

/-- The context in which the calls of a stack are rendered. -/
def contextOf : RenderContext := ⟨i.template, i.mappings, rules.table, i.modules⟩

/-- The stack that the entries of the exported module make up. -/
def exportedStack : Stack :=
  i.stackOf rules.table settings.pseudoValues (i.entries settings.module)

/-- The configuration when all resources have been written. -/
def assembled : Assembly :=
  (i.entries settings.module).foldl
    (Assembly.add rules (contextOf rules i) (exportedStack rules settings i))
    ⟨.fresh rules.table, .ofTemplate i.template, i.missingWarnings settings.module⟩

/-- The configuration before variables take the place of literals. -/
def draft (provider : String) : String :=
  provider ++ (assembled rules settings i).declarations.blocks ++
    Locals.block i.template.mappings ++ (assembled rules settings i).finish.1 ++
    String.join ((resolveOutputs i.mappings (exportedStack rules settings i)).map fun o =>
      o.block ++ "\n")

end

theorem ended_block {region : String} {tag : Option String} {text : String}
    (h : Provider.block region tag = .ok text) : Ended text := by
  unfold Provider.block at h
  split at h
  · cases h
  · cases h
    exact ended_closing _

theorem ended_declarations (ds : Declarations) : Ended ds.blocks := by
  refine Ended.append (ended_join fun t ht => ?_) (ended_join fun t ht => ?_)
  · obtain ⟨v, -, rfl⟩ := List.mem_map.mp ht
    exact ended_of_newline _
  · obtain ⟨d, -, rfl⟩ := List.mem_map.mp ht
    exact ended_of_newline _

theorem ended_locals (tables : List (String × Json)) : Ended (Locals.block tables) := by
  unfold Locals.block
  split
  · exact .inl rfl
  · have hend : "\n\x7d\n\n" = "\n\x7d\n" ++ "\n" := by decide
    rw [hend, ← String.append_assoc]
    exact ended_of_newline _

variable {settings : Settings} {i : StackInputs} {docs : Documents}

theorem exists_draft (h : writeDocuments rules settings i = .ok docs) :
    ∃ provider, Ended provider ∧
      (docs.main = draft rules settings i provider ∨
        docs.main = ((Script.ofText (draft rules settings i provider)).referToAll
          (assembled rules settings i).declarations.inputs).1.text) ∧
      docs.diagnostics =
        (assembled rules settings i).diagnostics ++ (assembled rules settings i).finish.2 := by
  unfold writeDocuments at h
  rcases hprovider : Provider.block settings.region
    (if settings.addDefaultTag then some settings.stackName else none) with fault | provider
  · rw [hprovider] at h
    cases h
  · rw [hprovider] at h
    cases h
    refine ⟨provider, ended_block hprovider, ?_, rfl⟩
    dsimp only
    split_ifs
    · exact .inr rfl
    · exact .inl rfl

theorem hasLine_main (h : writeDocuments rules settings i = .ok docs)
    (hline : HasLine (assembled rules settings i).emitter.text line) (hone : IsLine line)
    (huntouched : Untouched (assembled rules settings i).declarations.inputs line)
    (hwhole : Whole rules (assembled rules settings i)) : HasLine docs.main line := by
  obtain ⟨provider, hended, hmain, -⟩ := exists_draft h
  have hdraft : HasLine (draft rules settings i provider) line := by
    rw [draft, finish_of_whole hwhole]
    refine HasLine.append_right (.append_left ?_ hline) _
    exact (hended.append (ended_declarations _)).append (ended_locals _)
  rcases hmain with hmain | hmain
  · rwa [hmain]
  · rw [hmain]
    exact hasLine_text (mem_referToAll (mem_lines_of_hasLine hdraft hone) huntouched)

theorem assembled_spec (rules : Rulebook) (settings : Settings) (i : StackInputs) :
    Whole rules (assembled rules settings i) ∧
      i.missingWarnings settings.module <+: (assembled rules settings i).diagnostics ∧
      ∀ e ∈ i.entries settings.module, HasLine (assembled rules settings i).emitter.text
        (opening e.resource.type e.resource.name) := by
  obtain ⟨hwhole, hgrows, hlines⟩ := whole_foldl (c := contextOf rules i)
    (s := exportedStack rules settings i) (whole_fresh rules (.ofTemplate i.template)
      (i.missingWarnings settings.module)) (i.entries settings.module)
  exact ⟨hwhole, hgrows.diagnostics, hlines⟩

/-- A managed resource of the exported module has its block in the configuration, unless a default
stands in the line that opens the block, and what is missing from the state is reported. -/
theorem opening_written (h : writeDocuments rules settings i = .ok docs) :
    (∀ r ∈ i.state.managed settings.module,
        Untouched (assembled rules settings i).declarations.inputs (opening r.type r.name) →
          HasLine docs.main (opening r.type r.name)) ∧
      ∀ d ∈ i.missingWarnings settings.module, d ∈ docs.diagnostics := by
  obtain ⟨hwhole, hwarned, hlines⟩ := assembled_spec rules settings i
  constructor
  · intro r hr huntouched
    have hentry : StackEntry.ofResource i.mappings r ∈ i.entries settings.module :=
      List.mem_mergeSort.mpr (List.mem_map_of_mem hr)
    have hline := hlines _ hentry
    exact hasLine_main h hline (isLine_opening _ _) huntouched hwhole
  · intro d hd
    obtain ⟨-, -, -, hdiagnostics⟩ := exists_draft h
    rw [hdiagnostics]
    exact List.mem_append_left _ (hwarned.subset hd)

end StackExport.Proofs.WrittenResources
