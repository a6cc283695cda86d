import StackExport.Proofs.AttributePlaces
/-!
Attributes that the provider computes.

The serializer marks the keys of a body that the provider computes, and the writer leaves out those
and the ones that the rules call unconfigurable, with all that stands behind them.
`computed_left_out_iff` says where that fails: the keys of an object in a list are marked as data,
and a key put in for a required name passes for required even where no rule matches its path.
-/
namespace StackExport.Proofs.ComputedAttributes

open Relation
open StackExport
open StackExport.Resource
open StackExport.Proofs.StreamNesting
open StackExport.Proofs.WriterRun
open StackExport.Proofs.ResourceCompleteness
open StackExport.Proofs.WritableStream
open StackExport.Proofs.SerializedResource
open StackExport.Proofs.WrittenText
open StackExport.Proofs.EmbeddedDocument
open StackExport.Proofs.BodyLines
open StackExport.Proofs.AttributePlaces

variable {c : Context} {d : Draft} {key : MappingKey} {run rest value : List Event} {r : Rules}
  {path : Path} {name : String} {opened : List Group} {a b : Draft × List Event}

/-! ### What keys say -/

/-- A key stands for a name that some pattern requires of the body around it. -/
def IsPutIn (r : Rules) (key : MappingKey) : Prop :=
  ∃ path pattern, pattern ∈ r.traits.required ∧ Rules.requiredName? path pattern = some key.name ∧
    key.path = path.child key.name

/-- What rules and schema have to do with a key that stands in a group of a given kind. -/
structure Marked (r : Rules) (g : Group) (key : MappingKey) : Prop where
  computedOnly_eq : key.computedOnly =
    if g = .mapping then false else (r.schema.attributeByPath key.path).isComputedOnly
  isBlock_eq : g = .mapping → key.shape.isBlock = false
  required : key.required = true →
    (r.schema.attributeByPath key.path).info.required = true ∨ g ≠ .mapping ∧ IsPutIn r key

/-- Every key in the rest of a stream is marked as its group asks, while some groups are open. -/
def KeysMarked (r : Rules) : (opened : List Group) → List Event → Prop
  | _, [] => True
  | opened, .start o :: rest => KeysMarked r (o.group :: opened) rest
  | opened, .stop _ :: rest => KeysMarked r opened.tail rest
  | opened, .key key :: rest =>
    (∀ g, opened.head? = some g → Marked r g key) ∧ KeysMarked r opened rest
  | opened, _ :: rest => KeysMarked r opened rest

theorem keysMarked_of_append (hn : WellNested run) (h : KeysMarked r opened (run ++ rest)) :
    KeysMarked r opened rest := by
  induction hn generalizing opened rest with
  | nil => exact h
  | @neutral e run he _ ih =>
      cases e with
      | key key => exact ih h.2
      | comment text => exact ih h
      | scalar s => exact ih h
      | start o => cases he
      | stop g => cases he
  | @group o body run _ _ ihBody ihRest =>
      rw [List.cons_append, List.append_assoc, KeysMarked] at h
      have hbehind : KeysMarked r (o.group :: opened) (.stop o.group :: run ++ rest) := ihBody h
      exact ihRest hbehind

theorem keysMarked_applyDefault (h : KeysMarked r opened rest) :
    KeysMarked r opened (c.applyDefault key rest) := by
  rcases applyDefault_cases c key rest with heq | ⟨s, s', tail, rfl, heq⟩
  · rwa [heq]
  · rw [heq]
    exact h

/-- What the lookahead takes in a stream whose keys have values is a complete value. -/
theorem exists_value_of_takeValue {tail : List Event}
    (hfed : KeysFed (.key key :: rest))
    (ht : takeValue (c.applyDefault key rest) = some (value, tail)) :
    IsValue value ∧ ∃ value', IsValue value' ∧ rest = value' ++ tail := by
  obtain ⟨⟨value', e, tail', rfl, hv, -⟩, -⟩ := hfed
  obtain ⟨hahead, heq⟩ := applyDefault_isValue c key hv
  rw [heq, takeValue_of_isValue hahead] at ht
  obtain ⟨rfl, rfl⟩ := Prod.mk.inj (Option.some.inj ht)
  exact ⟨hahead, value', hv, rfl⟩

/-- The groups of the open levels. -/
def groups (d : Draft) : List Group := d.frames.map groupOf

theorem keysMarked_of_step (h : Step c a b) (hfed : KeysFed a.2)
    (hm : KeysMarked r (groups a.1) a.2) : KeysMarked r (groups b.1) b.2 := by
  cases h with
  | comment => exact hm
  | scalar rest h =>
      rw [groups, (of_scalar_eq_ok h).2.1]
      exact hm
  | swallow hs ht h =>
      obtain rfl := dropStop_eq_some_iff.1 ht
      rw [groups, frames_of_start_swallow_eq_ok hs h]
      exact hm
  | start _ h =>
      obtain ⟨f, hgroup, hf⟩ := exists_frame_of_start_eq_ok h
      rw [groups, hf, List.map_cons, hgroup]
      exact hm
  | @stop d d' g rest h =>
      obtain ⟨f, outer, hf, -, hf', -⟩ := of_stop_eq_ok h
      have htail : (groups d).tail = groups d' := by
        rw [groups, groups, hf, hf']
        rfl
      exact htail ▸ hm
  | datum =>
      rw [groups, writeKey_frames]
      exact hm.2
  | write =>
      rw [groups, writeKey_frames]
      exact keysMarked_applyDefault hm.2
  | leaveOut hf hw ht =>
      obtain ⟨-, value', hv, rfl⟩ := exists_value_of_takeValue hfed ht
      exact keysMarked_of_append hv.wellNested hm.2

/-! ### Keys of a serialized resource -/

/-- A run keeps what follows it marked, and its own keys are. -/
def Marks (r : Rules) (opened : List Group) (run : List Event) : Prop :=
  ∀ rest, KeysMarked r opened rest → KeysMarked r opened (run ++ rest)

theorem marks_nil : Marks r opened [] := fun _ h => h

theorem marks_scalar (s : Scalar) : Marks r opened [.scalar s] := fun _ h => h

theorem marks_comment (text : String) : Marks r opened [.comment text] := fun _ h => h

theorem Marks.append {run' : List Event} (h : Marks r opened run) (h' : Marks r opened run') :
    Marks r opened (run ++ run') := by
  intro rest hrest
  rw [List.append_assoc]
  exact h _ (h' rest hrest)

theorem marks_group {o : Opening} (h : Marks r (o.group :: opened) run) :
    Marks r opened (.start o :: (run ++ [.stop o.group])) := by
  intro rest hrest
  rw [List.cons_append, List.append_assoc]
  exact h _ hrest

theorem marks_key {g : Group} (hk : Marked r g key) (h : Marks r (g :: opened) value) :
    Marks r (g :: opened) (.key key :: value) :=
  fun rest hrest => ⟨fun _ hg => Option.some.inj hg ▸ hk, h rest hrest⟩

/-- In a map a key is marked as data. -/
theorem marked_dataKey (r : Rules) (name : String) (path : Path) (tree : AttributeTree) :
    Marked r .mapping (r.dataKey name path (dataShape tree)) :=
  ⟨rfl, fun _ => isBlock_dataShape tree, .inl⟩

theorem marked_plain (r : Rules) (name : String) (path : Path) (tree : AttributeTree) :
    Marked r .mapping (.plain name path (dataShape tree)) :=
  ⟨rfl, fun _ => isBlock_dataShape tree, nofun⟩

/-- In a body a key is marked by the schema. -/
theorem marked_key {g : Group} (hg : g ≠ .mapping) (r : Rules) (name : String) (path : Path)
    (shape : Shape) : Marked r g (r.key name path shape) :=
  ⟨(if_neg hg).symm, fun h => absurd h hg, .inl⟩

theorem marked_missing {g : Group} {present : List String} (hg : g ≠ .mapping)
    (h : name ∈ r.missingRequired path present) :
    Marked r g { r.key name (path.child name) .value with required := true } := by
  obtain ⟨-, pattern, hpattern, hname⟩ := mem_missingRequired_iff.1 h
  exact ⟨(if_neg hg).symm, fun h => absurd h hg,
    fun _ => .inr ⟨hg, path, pattern, hpattern, hname, rfl⟩⟩

mutual

theorem documentValue_marks (r : Rules) (path : Path) :
    ∀ tree opened, Marks r opened (documentValue path tree)
  | .list items, _ => marks_group (o := .sequence) (documentItems_marks r path 0 items _)
  | .object entries, _ => marks_group (o := .mapping) (documentEntries_marks r path entries _)
  | .document inner, opened => documentValue_marks r path inner opened
  | .null, _ | .bool _, _ | .number _, _ | .string _, _ | .reference _, _ => marks_scalar _

theorem documentItems_marks (r : Rules) (path : Path) (index : Nat) :
    ∀ items opened, Marks r opened (documentItems path index items)
  | [], _ => marks_nil
  | item :: rest, opened =>
      (documentValue_marks r _ item opened).append (documentItems_marks r path _ rest opened)

theorem documentEntries_marks (r : Rules) (path : Path) :
    ∀ entries opened, Marks r (.mapping :: opened) (documentEntries path entries)
  | [], _ => marks_nil
  | (_, item) :: rest, opened =>
      (marks_key (marked_plain r _ _ item) (documentValue_marks r _ item _)).append
        (documentEntries_marks r path rest opened)

end

theorem document_marks (r : Rules) (path : Path) (tree : AttributeTree) (opened : List Group) :
    Marks r opened (document path tree) :=
  marks_group (o := .json) (documentValue_marks r path tree _)

mutual

theorem value_marks (r : Rules) (path : Path) :
    ∀ tree opened, Marks r opened (r.value path tree)
  | .string s, opened => by
      rw [Rules.value]
      split
      · exact document_marks r path _ opened
      · exact marks_scalar _
  | .document inner, opened => document_marks r path inner opened
  | .list items, _ => marks_group (o := .sequence) (items_marks r path 0 items _)
  | .object entries, _ => marks_group (o := .mapping) (entries_marks r path entries _)
  | .null, _ | .bool _, _ | .number _, _ | .reference _, _ => marks_scalar _

theorem items_marks (r : Rules) (path : Path) (index : Nat) :
    ∀ items opened, Marks r opened (r.items path index items)
  | [], _ => marks_nil
  | item :: rest, opened =>
      (value_marks r _ item opened).append (items_marks r path _ rest opened)

/-- The keys of a map are data, so none of them is computed. -/
theorem entries_marks (r : Rules) (path : Path) :
    ∀ entries opened, Marks r (.mapping :: opened) (r.entries path entries)
  | [], _ => marks_nil
  | (_, item) :: rest, opened =>
      (marks_key (marked_dataKey r _ _ item) (value_marks r _ item _)).append
        (entries_marks r path rest opened)

end

variable {g : Group}

theorem missing_marks (hg : g ≠ .mapping) (r : Rules) (path : Path) (present : List String) :
    Marks r (g :: opened) (r.missingEvents path present) := by
  refine missingEvents_of_closed (Q := Marks r (g :: opened)) marks_nil ?_
  intro name hname run ih
  exact (marks_key (marked_missing hg hname) (marks_scalar .null)).append ih

theorem bodyEvents_marks {entries : List (String × AttributeTree)} (hg : g ≠ .mapping)
    (h : Marks r (g :: opened) (r.body path entries)) :
    Marks r (g :: opened) (bodyEvents r path entries) :=
  h.append (missing_marks hg r path _)

mutual

/-- The keys of a body are marked by the schema. -/
theorem bodyValue_marks (r : Rules) (path : Path) (name : String) :
    ∀ tree opened, Marks r opened (bodyValue r path name tree)
  | .list items, opened => by
      rw [bodyValue]
      split
      · exact marks_group (o := .sequence) (blocks_marks r path name 0 items _)
      · exact value_marks r path _ opened
  | .object entries, opened => by
      rw [bodyValue]
      split
      · exact marks_group (o := .block name)
          (bodyEvents_marks nofun (body_marks r path entries nofun))
      · exact value_marks r path _ opened
  | .null, opened | .bool _, opened | .number _, opened | .string _, opened
  | .reference _, opened | .document _, opened => value_marks r path _ opened

theorem blocks_marks (r : Rules) (path : Path) (name : String) (index : Nat) :
    ∀ items opened, Marks r opened (r.blocks path name index items)
  | [], _ => marks_nil
  | .object entries :: rest, opened => by
      have hblock : Marks r opened
          (.start (.block name) :: (bodyEvents r (path.element index) entries ++ [.stop .block])) :=
        marks_group (o := .block name)
          (bodyEvents_marks nofun (body_marks r (path.element index) entries nofun))
      rw [blocks_cons_object]
      exact hblock.append (blocks_marks r path name _ rest opened)
  | .null :: rest, opened | .bool _ :: rest, opened | .number _ :: rest, opened
  | .string _ :: rest, opened | .list _ :: rest, opened | .reference _ :: rest, opened
  | .document _ :: rest, opened =>
      (marks_comment _).append (blocks_marks r path name _ rest opened)

theorem body_marks (r : Rules) (path : Path) :
    ∀ entries, ∀ {g : Group} {opened : List Group}, g ≠ .mapping →
      Marks r (g :: opened) (r.body path entries)
  | [], _, _, _ => marks_nil
  | (name, tree) :: rest, _, _, hg => by
      rw [Rules.body, keyed_eq]
      exact (marks_key (marked_key hg ..) (bodyValue_marks r _ name tree _)).append
        (body_marks r path rest hg)

end

variable {type : String} {attributes : AttributeTree}

theorem rootBody_marks (r : Rules) (attributes : AttributeTree) :
    Marks r [.resource] (r.rootBody attributes) := by
  cases attributes with
  | object entries => exact bodyEvents_marks nofun (body_marks r .root entries nofun)
  | null => exact missing_marks (g := .resource) nofun r .root []
  | _ => exact marks_nil

theorem events_keysMarked (r : Rules) (type name : String) (attributes : AttributeTree) :
    KeysMarked r [] (r.events type name attributes) :=
  rootBody_marks r attributes [.stop .resource] trivial

/-- The writer finds every key marked. -/
theorem keysMarked_of_reaches
    (h : Reaches r.traits (r.events type name attributes) d rest) :
    KeysFed rest ∧ KeysMarked r (groups d) rest := by
  have hbody := rootBody_phrase r attributes
  refine h.invariant (P := fun a => KeysFed a.2 ∧ KeysMarked r (groups a.1) a.2)
    ⟨hbody.keysFed_group (.resource type name) .resource, events_keysMarked _ _ _ _⟩ ?_
  rintro a b - hstep ⟨hfed, hmarked⟩
  exact ⟨keysFed_of_step hstep hfed, keysMarked_of_step hstep hfed hmarked⟩

/-! ### What is left out -/

/-- A key is left out, and the writer goes on behind its value with the text as it is. -/
def PassesOver (c : Context) (d : Draft) (key : MappingKey) (value tail : List Event) : Prop :=
  ¬ Writes c d key (value ++ tail) ∧ Step c (d, .key key :: (value ++ tail)) (d, tail)

theorem passesOver_iff (hf : d.filters? = some true) (hv : IsValue value) (tail : List Event) :
    PassesOver c d key value tail ↔
      c.shouldWrite key (c.applyDefault key value ++ tail) = .ok false := by
  obtain ⟨hv', hahead⟩ := applyDefault_isValue c key hv
  constructor
  · rintro ⟨hnot, hstep⟩
    rw [← hahead]
    generalize hb : (d, tail) = b at hstep
    cases hstep with
    | datum _ hdata => simp [hf] at hdata
    | write _ hw => exact absurd (.inr ⟨hf, hw⟩) hnot
    | leaveOut _ hw _ => exact hw
  · intro hw
    rw [← hahead] at hw
    refine ⟨?_, .leaveOut hf hw (by rw [hahead]; exact takeValue_of_isValue hv' tail)⟩
    rintro (hdata | ⟨-, htrue⟩)
    · simp [hf] at hdata
    · simp [hw] at htrue

theorem shouldWrite_of_isRequired (hv : IsValue value) (hr : c.isRequired key = true)
    (tail : List Event) : c.shouldWrite key (value ++ tail) = .ok true := by
  unfold Context.shouldWrite
  rw [contentAt_of_isValue c.traits key hv]
  simp only [bind, Except.bind, pure, Except.pure, hr, if_true]

/-- A key that is not kept is left out before the lookahead is asked. -/
theorem shouldWrite_of_isKept_eq_false (hv : IsValue value) (h : isKept c key value = false)
    (tail : List Event) : c.shouldWrite key (value ++ tail) = .ok false := by
  obtain ⟨hr, hunkept⟩ := Bool.or_eq_false_iff.1 h
  unfold Context.shouldWrite
  rw [contentAt_of_isValue c.traits key hv]
  simp only [bind, Except.bind, pure, Except.pure, hr, Bool.false_eq_true, if_false]
  rw [if_pos]
  cases hc : key.computedOnly with
  | true => rfl
  | false => simpa [hc] using hunkept

/-- A key that the rules call unconfigurable is never emitted, unless it is required. -/
theorem shouldEmit_of_unconfigurable {t : ResourceTraits} (hr : t.isRequired path = false)
    (hu : t.isUnconfigurable path = true) (content : Content) (populated : List Path) :
    t.shouldEmit path content populated = false := by
  simp [ResourceTraits.shouldEmit, hr, hu]

theorem eq_mapping_of_filters? {f : Frame} {outer : List Frame} (hframes : d.frames = f :: outer)
    (hf : d.filters? = some true) (hg : groupOf f = .mapping) : f = .mapping true := by
  rw [Draft.filters?, hframes] at hf
  cases f with
  | mapping filtered => exact congrArg Frame.mapping (Option.some.inj hf)
  | _ => cases hg

/-- What is not required is kept if neither its mark nor the rules are against it. -/
theorem isKept_of_not_required (hr : c.isRequired key = false) :
    isKept c key value = (!key.computedOnly &&
      c.traits.shouldEmit key.path (contentOf c.traits key value) c.populated) := by
  simp [isKept, hr]

/-- In a body no key is kept that the rules call unconfigurable or that the provider computes. -/
theorem Marked.isKept_eq_false {g : Group} (h : Marked r g key) (hg : g ≠ .mapping)
    (hr : c.isRequired key = false)
    (hcomputed : c.traits.isUnconfigurable key.path = true ∨
      (r.schema.attributeByPath key.path).isComputedOnly = true) : isKept c key value = false := by
  rw [isKept_of_not_required hr]
  rcases hcomputed with hu | hcomputed
  · have htraits : c.traits.isRequired key.path = false := (Bool.or_eq_false_iff.1 hr).2
    rw [shouldEmit_of_unconfigurable htraits hu, Bool.and_false]
  · rw [h.computedOnly_eq, if_neg hg, hcomputed]
    rfl

/-- A key that the rules call unconfigurable or that the provider computes, and that neither
requires, is left out with its value, except in two places. In an object of a list, whose keys count
as data, it is written wherever an attribute that the provider does not compute would be. And a key
put in for a required name is written although no required pattern matches its path. -/
theorem computed_left_out_iff
    (h : Reaches r.traits (r.events type name attributes) d (.key key :: rest))
    (hf : d.filters? = some true)
    (hcomputed : r.traits.isUnconfigurable key.path = true ∨
      (r.schema.attributeByPath key.path).isComputedOnly = true)
    (htraits : r.traits.isRequired key.path = false)
    (hschema : (r.schema.attributeByPath key.path).info.required = false) :
    (key.required = true → IsPutIn r key) ∧
    ∃ value tail, rest = value ++ tail ∧ IsValue value ∧
      (PassesOver (resourceContext r type name attributes) d key value tail ↔
        key.required = false ∧ (d.frames.head? = some (.mapping true) →
          r.traits.shouldEmit key.path
            (contentOf r.traits key
              ((resourceContext r type name attributes).applyDefault key value))
            (resourceContext r type name attributes).populated = false)) := by
  obtain ⟨⟨⟨value, e, tail, rfl, hv, -⟩, -⟩, hmarked, -⟩ := keysMarked_of_reaches h
  obtain ⟨f, outer, hframes, -, -⟩ := exists_frame_of_filters? (d := d) (by simp [hf])
  have hmark : Marked r (groupOf f) key :=
    hmarked _ (by rw [groups, hframes]; rfl)
  have hput (hrequired : key.required = true) : IsPutIn r key := by
    rcases hmark.required hrequired with hs | ⟨-, hput⟩
    · simp [hschema] at hs
    · exact hput
  refine ⟨hput, value, e :: tail, rfl, hv, (passesOver_iff hf hv _).trans ?_⟩
  generalize hc : resourceContext r type name attributes = c
  have hct : r.traits = c.traits := by rw [← hc]; rfl
  rw [hct] at htraits hcomputed ⊢
  obtain ⟨hv', -⟩ := applyDefault_isValue c key hv
  cases hrequired : key.required with
  | true =>
      have hr : c.isRequired key = true := by simp [Context.isRequired, hrequired]
      simp [shouldWrite_of_isRequired hv' hr]
  | false =>
      have hr : c.isRequired key = false := by simp [Context.isRequired, hrequired, htraits]
      by_cases hg : groupOf f = .mapping
      · -- the keys of an object in a list are never marked as computed
        have hcomputedOnly : key.computedOnly = false := hmark.computedOnly_eq.trans (if_pos hg)
        obtain rfl := eq_mapping_of_filters? hframes hf hg
        rw [shouldWrite_eq (hmark.isBlock_eq hg) hv', isKept_of_not_required hr, hcomputedOnly,
          hframes]
        simp
      · have hnot : ¬ d.frames.head? = some (.mapping true) := by
          rw [hframes]
          rintro hhead
          exact hg (Option.some.inj hhead ▸ rfl)
        have hunkept : isKept c key (c.applyDefault key value) = false :=
          hmark.isKept_eq_false hg hr hcomputed
        exact iff_of_true (shouldWrite_of_isKept_eq_false hv' hunkept _)
          ⟨rfl, fun hhead => absurd hhead hnot⟩

/-- What a provider says about an attribute that it computes. -/
def computedInfo : SchemaInfo :=
  { SchemaInfo.unknown with computed := true, optional := false, missing := false }

theorem computed_left_out_iff_only_attribute :
    ∃ value tail, [.scalar (.string "x"), .stop .resource] = value ++ tail ∧ IsValue value ∧
      PassesOver
        (resourceContext ⟨.none "t", [("p", .plain computedInfo)]⟩ "t" "n"
          (.object [("p", .string "x")]))
        ⟨[.resource], none, false, "resource \"t\" \"n\" \x7b\n"⟩
        ⟨"p", ⟨["p"]⟩, .value, true, false, []⟩ value tail := by
  have hreaches := reaches_only_attribute [("p", .plain computedInfo)] (.string "x") rfl
  obtain ⟨-, value, tail, hrest, hv, hiff⟩ :=
    computed_left_out_iff (r := ⟨.none "t", [("p", .plain computedInfo)]⟩) hreaches rfl (.inr rfl)
      rfl rfl
  exact ⟨value, tail, hrest, hv, hiff.2 ⟨rfl, nofun⟩⟩

/-- The rules of a resource whose objects in the list `l` have an attribute `p` that the provider
computes. -/
def listedRules : Rules :=
  ⟨{ ResourceTraits.none "t" with nonBlock := ["l"] },
    [("l", .nested (.ofType .list) [("p", .plain computedInfo)])]⟩

/-- In an object of a list an attribute that the provider computes is written. -/
theorem computed_item_written :
    write listedRules.traits (listedRules.events "t" "n"
        (.object [("l", .list [.object [("p", .string "x")]])])) =
      .ok ("resource \"t\" \"n\" \x7b\n" ++
        "  l = [\n    \x7b\n      p = \"x\"\n    \x7d,\n  ]\n" ++ "\x7d\n\n") ∧
      (listedRules.schema.attributeByPath ⟨["l", "0", "p"]⟩).isComputedOnly = true ∧
      (listedRules.schema.attributeByPath ⟨["l", "0", "p"]⟩).info.required = false ∧
      listedRules.traits.isRequired ⟨["l", "0", "p"]⟩ = false := by
  have hlines (c : Context) (hc : c.traits = listedRules.traits) :
      rootLines c listedRules (.object [("l", .list [.object [("p", .string "x")]])]) =
        [.assignment "l" (.list [.object [("p", .scalar (.string "x"))]])] := by
    obtain ⟨traits, populated⟩ := c
    obtain rfl : traits = listedRules.traits := hc
    rfl
  have htext := events_text listedRules.traits listedRules.schema "t" "n"
    (.object [("l", .list [.object [("p", .string "x")]])])
  rw [hlines _ rfl] at htext
  exact ⟨htext, rfl, rfl, rfl⟩

end StackExport.Proofs.ComputedAttributes
