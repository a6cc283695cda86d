import StackExport.Proofs.AttributePlaces
import StackExport.Proofs.PathText
/-!
Attributes that the rules require.

A key that a required pattern matches is written whatever its value, and a body gets the required
names that it lacks. `required_written_iff` says where a required name is missing in the text all the
same: in bodies where the name's value makes no block, or where no pattern is found to speak of the
body, and in objects of lists that do not have the name.
-/
namespace StackExport.Proofs.RequiredAttributes

open Relation
open StackExport
open StackExport.Resource
open StackExport.Proofs.StreamNesting
open StackExport.Proofs.WriterRun
open StackExport.Proofs.ResourceCompleteness
open StackExport.Proofs.WritableStream
open StackExport.Proofs.SerializedResource
open StackExport.Proofs.LiteralReading
open StackExport.Proofs.LayoutReading
open StackExport.Proofs.WrittenText
open StackExport.Proofs.ValueLayout
open StackExport.Proofs.EmbeddedDocument
open StackExport.Proofs.BodyLines
open StackExport.Proofs.AttributePlaces
open StackExport.Proofs.PathPattern
open StackExport.Proofs.PathText (parse_display)

variable {c : Context} {r : Rules} {d : Draft} {path : Path} {name pattern : String}
  {parent : List String} {entries : List (String × AttributeTree)} {key : MappingKey}
  {value rest : List Event}

/-! ### Names on lines -/

/-- The attribute that a line gives. -/
def lineName? : Line → Option String
  | .comment _ => none
  | .assignment name _ | .block name _ => some name

/-- The attributes that a body gives on its lines. -/
def lineNames (lines : List Line) : List String := lines.filterMap lineName?

theorem lineNames_append (lines others : List Line) :
    lineNames (lines ++ others) = lineNames lines ++ lineNames others :=
  List.filterMap_append ..

theorem lineNames_missingLines (c : Context) (r : Rules) (path : Path) (present : List String) :
    lineNames (missingLines c r path present) = r.missingRequired path present := by
  unfold missingLines lineNames
  rw [List.filterMap_map]
  exact List.filterMap_some

/-- True unless a value is written as blocks and none of its items is an object. -/
def makesLine (r : Rules) (path : Path) : AttributeTree → Bool
  | .list items => r.classify path (.list items) ≠ .blockList || items.any AttributeTree.isObject
  | _ => true

theorem mem_lineNames_blockLines {other : String} {index : Nat} {items : List AttributeTree} :
    other ∈ lineNames (blockLines c r path name index items) ↔
      other = name ∧ items.any AttributeTree.isObject = true := by
  induction items generalizing index with
  | nil => simp [blockLines, lineNames]
  | cons item rest ih =>
      cases item with
      | object entries =>
          change other ∈ name :: lineNames _ ↔ _
          rw [List.mem_cons, ih]
          simp [AttributeTree.isObject]
          tauto
      | _ => exact ih

theorem mem_lineNames_attributeLines {other : String} (tree : AttributeTree) :
    other ∈ lineNames (attributeLines c r path name tree) ↔
      other = name ∧ makesLine r path tree = true := by
  cases tree with
  | list items =>
      rw [attributeLines]
      split
      case isTrue h => simp [mem_lineNames_blockLines, makesLine, h]
      case isFalse h => simp [lineNames, lineName?, makesLine, h]
  | object entries =>
      rw [attributeLines]
      split <;> simp [lineNames, lineName?, makesLine]
  | _ => simp [attributeLines, lineNames, lineName?, makesLine]

/-- A body gives the attributes whose keys are written and that make a line. -/
theorem mem_lineNames_bodyLines :
    name ∈ lineNames (bodyLines c r path entries) ↔
      ∃ tree, (name, tree) ∈ entries ∧ makesLine r (path.child name) tree = true ∧
        isWritten c (bodyKey r (path.child name) name tree)
          (c.applyDefault (bodyKey r (path.child name) name tree)
            (bodyValue r (path.child name) name tree)) = true := by
  induction entries with
  | nil => simp [bodyLines, lineNames]
  | cons entry others ih =>
      obtain ⟨first, tree⟩ := entry
      rw [bodyLines_cons, lineNames_append, List.mem_append, ih, keyedLines]
      constructor
      · rintro (hfirst | ⟨other, hmem, hother⟩)
        · split at hfirst
          case isTrue hw =>
            obtain ⟨rfl, hline⟩ := (mem_lineNames_attributeLines tree).1 hfirst
            exact ⟨tree, List.mem_cons_self, hline, hw⟩
          case isFalse => cases hfirst
        · exact ⟨other, List.mem_cons_of_mem _ hmem, hother⟩
      · rintro ⟨other, hmem, hline, hw⟩
        rcases List.mem_cons.1 hmem with heq | hmem
        · obtain ⟨rfl, rfl⟩ := Prod.mk.inj heq
          left
          rw [if_pos hw]
          exact (mem_lineNames_attributeLines other).2 ⟨rfl, hline⟩
        · exact .inr ⟨other, hmem, hline, hw⟩

/-! ### Required keys -/

/-- The lines of a body, with those of the required names that it lacks. -/
def wholeBody (c : Context) (r : Rules) (path : Path) (entries : List (String × AttributeTree)) :
    List Line :=
  bodyLines c r path entries ++ missingLines c r path (entries.map (·.1))

/-- A name behind a path that matches the parent of a required pattern is required. -/
theorem isRequired_child {t : ResourceTraits} (hpattern : pattern ∈ t.required)
    (hparse : Path.parse pattern = ⟨parent ++ [name]⟩) (hstar : '*' ∉ name.toList)
    (hlike : path.isLikeSegments ⟨parent⟩ = true) : t.isRequired (path.child name) = true := by
  refine List.any_eq_true.2 ⟨pattern, hpattern, ?_⟩
  rw [Path.isLike, hparse, isLikeSegments_child, hlike, (globMatch_iff hstar).2 rfl]
  rfl

theorem isWritten_of_isRequired (h : c.isRequired key = true) : isWritten c key value = true := by
  simp [isWritten, isKept, h]

/-- The attributes of an object in a list that are left in its layout. -/
def layoutNames : Layout → List String
  | .object entries => entries.map (·.1)
  | _ => []

theorem mem_entryLayouts (hrequired : c.traits.isRequired (path.child name) = true) :
    name ∈ (entryLayouts c r true path entries).map (·.1) ↔ name ∈ entries.map (·.1) := by
  induction entries with
  | nil => rfl
  | cons entry others ih =>
      obtain ⟨first, tree⟩ := entry
      by_cases hfirst : first = name
      · subst hfirst
        have hr : c.isRequired (r.dataKey first (path.child first) (dataShape tree)) = true := by
          simp [Context.isRequired, Rules.dataKey, Rules.key, hrequired]
        simp [entryLayouts, isKept, hr]
      · have hne : name ≠ first := Ne.symm hfirst
        simp only [entryLayouts, if_true, List.map_cons, List.mem_cons, hne, false_or]
        split <;> simp [hne, ih]

theorem mem_layoutNames (hrequired : c.traits.isRequired (path.child name) = true) :
    name ∈ layoutNames (layoutOf c r true path (.object entries)) ↔ name ∈ entries.map (·.1) := by
  rw [layoutOf]
  split
  case isTrue hempty => simp [layoutNames, List.isEmpty_iff.1 hempty]
  case isFalse => exact mem_entryLayouts hrequired

/-! ### Required names in the text -/

/-- A body gives a required name if an entry makes a line of it, or if no entry has it and some
pattern is found to require it of the body. -/
theorem mem_lineNames_body (hrequired : c.traits.isRequired (path.child name) = true) :
    name ∈ lineNames (wholeBody c r path entries) ↔
      (∃ tree, (name, tree) ∈ entries ∧ makesLine r (path.child name) tree = true) ∨
        name ∉ entries.map (·.1) ∧
          ∃ other ∈ r.traits.required, Rules.requiredName? path other = some name := by
  have hr (tree : AttributeTree) :
      c.isRequired (bodyKey r (path.child name) name tree) = true := by
    simp [Context.isRequired, bodyKey, Rules.key, hrequired]
  rw [wholeBody, lineNames_append, List.mem_append, lineNames_missingLines, mem_missingRequired_iff,
    mem_lineNames_bodyLines]
  simp only [isWritten_of_isRequired (hr _), and_true]

variable {type resource : String} {attributes : AttributeTree}

theorem body_text
    (h : Reaches r.traits (r.events type resource attributes) d
      (bodyEvents r path entries ++ rest))
    (hrest : ¬ ValueAhead (bodyEvents r path entries ++ rest)) (hf : d.filters? = some true) :
    ∃ behind, write r.traits (r.events type resource attributes) =
      .ok (d.text ++ linesText (depth d)
        (wholeBody (resourceContext r type resource attributes) r path entries) ++ behind) := by
  obtain ⟨text, hw⟩ := exists_eventsText r.traits r.schema type resource attributes
  have hplace := atAttributes_of_reaches h hrest hf
  obtain ⟨behind, htext⟩ :=
    exists_text_of_adds hw h (bodyEvents_adds hplace (body_adds _ r path entries hplace))
  exact ⟨behind, hw.trans (congrArg Except.ok htext)⟩

theorem item_text {tree : AttributeTree}
    (h : Reaches r.traits (r.events type resource attributes) d (r.value path tree ++ rest))
    (hitem : isItem d = true) :
    ∃ behind, write r.traits (r.events type resource attributes) =
      .ok (d.text ++ (lead d ++ textOf (written (depth d)
        (layoutOf (resourceContext r type resource attributes) r true path tree)) ++
          trail d.frames) ++ behind) := by
  obtain ⟨text, hw⟩ := exists_eventsText r.traits r.schema type resource attributes
  obtain ⟨hhead, hout⟩ := Bool.and_eq_true_iff.1 hitem
  have hready : Ready d := .inr (.inl (of_decide_eq_true hhead))
  have hpending := (sound_of_reaches h).pending_eq_none_of_ready hready
  have hadds := value_adds (resourceContext r type resource attributes) r path tree
    hpending hready (Bool.not_eq_true' _ ▸ hout)
  rw [hitem] at hadds
  obtain ⟨behind, htext⟩ := exists_text_of_adds hw h hadds
  exact ⟨behind, hw.trans (congrArg Except.ok htext)⟩

/-- Where the text has a required name, for an object whose path matches the parent of the pattern.
A body has it if an entry of that name makes a line, or if no entry has the name and some pattern is
found to require it; the pattern itself is found unless the segments of its parent are read
differently when they are joined with dots. An object of a list has it only if it is there. -/
theorem required_written_iff (hpattern : pattern ∈ r.traits.required)
    (hparse : Path.parse pattern = ⟨parent ++ [name]⟩) (hstar : '*' ∉ name.toList)
    (hlike : path.isLikeSegments ⟨parent⟩ = true) :
    ((∀ segment ∈ parent, IsPlain segment) → Rules.requiredName? path pattern = some name) ∧
    (∀ d g rest, Reaches r.traits (r.events type resource attributes) d
        (bodyEvents r path entries ++ .stop g :: rest) → d.filters? = some true →
      (∃ behind, write r.traits (r.events type resource attributes) =
        .ok (d.text ++ linesText (depth d)
          (wholeBody (resourceContext r type resource attributes) r path entries) ++ behind)) ∧
      (name ∈ lineNames (wholeBody (resourceContext r type resource attributes) r path entries) ↔
          (∃ tree, (name, tree) ∈ entries ∧ makesLine r (path.child name) tree = true) ∨
            name ∉ entries.map (·.1) ∧
              ∃ other ∈ r.traits.required, Rules.requiredName? path other = some name)) ∧
    (∀ d rest, Reaches r.traits (r.events type resource attributes) d
        (r.value path (.object entries) ++ rest) → isItem d = true →
      (∃ behind, write r.traits (r.events type resource attributes) =
        .ok (d.text ++ (lead d ++ textOf (written (depth d)
          (layoutOf (resourceContext r type resource attributes) r true path (.object entries))) ++
            trail d.frames) ++ behind)) ∧
      (name ∈ layoutNames
          (layoutOf (resourceContext r type resource attributes) r true path (.object entries)) ↔
        name ∈ entries.map (·.1))) := by
  have hrequired := isRequired_child hpattern hparse hstar hlike
  refine ⟨fun hplain => ?_, fun d g rest h hf => ?_, fun d rest h hitem => ?_⟩
  · rw [requiredName?_eq hparse hstar hlike, if_pos]
    rwa [Path.isLike, parse_display hplain]
  · have hrest : ¬ ValueAhead (bodyEvents r path entries ++ .stop g :: rest) := by
      rcases (bodyEvents_phrase r path entries).eq_nil_or_key (.inr rfl) with hnil | ⟨key, _, hkey⟩
      · rw [hnil]
        exact id
      · rw [hkey]
        exact id
    exact ⟨body_text h hrest hf, mem_lineNames_body hrequired⟩
  · exact ⟨item_text h hitem, mem_layoutNames hrequired⟩

/-- Rules that require `p` of the resource and of the objects in its list `l`. -/
def requiringRules : Rules :=
  ⟨{ ResourceTraits.none "t" with required := ["p", "l.*.p"], nonBlock := ["l"] }, []⟩

/-- The writer comes to the object in the list. -/
theorem reaches_item :
    ∃ d rest, Reaches requiringRules.traits
        (requiringRules.events "t" "n" (.object [("l", .list [.object [("p", .null)]])])) d
        (requiringRules.value ⟨["l", "0"]⟩ (.object [("p", .null)]) ++ rest) ∧
      isItem d = true := by
  have hroot := reaches_rootBody requiringRules.traits requiringRules.schema "t" "n"
    (.object [("l", .list [.object [("p", .null)]])])
  have hphrase := value_phrase requiringRules ⟨["l"]⟩ (.list [.object [("p", .null)]])
  have hwrites := shouldWrite_ahead (resourceContext requiringRules "t" "n"
      (.object [("l", .list [.object [("p", .null)]])])) (requiringRules.key "l" ⟨["l"]⟩ .sequence)
    hphrase.isValue hphrase.keysFed
    (requiringRules.missingEvents .root ["l"] ++ [.stop .resource])
  have hvalue := reaches_value hroot rfl (.inr ⟨rfl, hwrites⟩)
  have hstart := start_sequence_eq (d := keyed (bodyDraft "t" "n") "l") rfl (.inl rfl) false
  exact ⟨_, _, hvalue.tail (.start (fun _ => rfl) hstart), rfl⟩

theorem required_written_iff_list :
    (∃ behind, write requiringRules.traits (requiringRules.events "t" "n"
        (.object [("l", .list [.object [("p", .null)]])])) =
      .ok (resourceOpening "t" "n" ++ linesText 1
        (wholeBody (resourceContext requiringRules "t" "n"
          (.object [("l", .list [.object [("p", .null)]])])) requiringRules .root
            [("l", .list [.object [("p", .null)]])]) ++ behind)) ∧
      "p" ∈ lineNames (wholeBody (resourceContext requiringRules "t" "n"
          (.object [("l", .list [.object [("p", .null)]])])) requiringRules .root
            [("l", .list [.object [("p", .null)]])]) ∧
      "p" ∈ layoutNames (layoutOf (resourceContext requiringRules "t" "n"
          (.object [("l", .list [.object [("p", .null)]])])) requiringRules true ⟨["l", "0"]⟩
            (.object [("p", .null)])) := by
  have hroot := reaches_rootBody requiringRules.traits requiringRules.schema "t" "n"
    (.object [("l", .list [.object [("p", .null)]])])
  obtain ⟨-, hbody, -⟩ := @required_written_iff requiringRules .root "p" "p" []
    [("l", .list [.object [("p", .null)]])] "t" "n" (.object [("l", .list [.object [("p", .null)]])])
    (by decide) (by decide) (by decide) (by decide)
  obtain ⟨htext, hiff⟩ := hbody (bodyDraft "t" "n") .resource [] hroot rfl
  obtain ⟨-, -, hitems⟩ := @required_written_iff requiringRules ⟨["l", "0"]⟩ "p" "l.*.p" ["l", "*"]
    [("p", .null)] "t" "n" (.object [("l", .list [.object [("p", .null)]])])
    (by decide) (by decide) (by decide) (by decide)
  obtain ⟨d, rest, hreaches, hitem⟩ := reaches_item
  obtain ⟨-, hlayout⟩ := hitems d rest hreaches hitem
  exact ⟨htext, hiff.2 (.inr ⟨by decide, "p", by decide, by decide⟩), hlayout.2 (by decide)⟩

/-- An object of a list does not get a required name that it lacks. -/
theorem item_lacks_required :
    write requiringRules.traits (requiringRules.events "t" "n"
        (.object [("p", .string "x"), ("l", .list [.object [("q", .string "x")]])])) =
      .ok (resourceOpening "t" "n" ++
        "  p = \"x\"\n  l = [\n    \x7b\n      q = \"x\"\n    \x7d,\n  ]\n" ++ "\x7d\n\n") ∧
      "l.*.p" ∈ requiringRules.traits.required ∧
      Path.parse "l.*.p" = ⟨["l", "*"] ++ ["p"]⟩ ∧
      Path.isLikeSegments ⟨["l", "0"]⟩ ⟨["l", "*"]⟩ = true := by
  have hlines (c : Context) (hc : c.traits = requiringRules.traits) :
      rootLines c requiringRules
          (.object [("p", .string "x"), ("l", .list [.object [("q", .string "x")]])]) =
        [.assignment "p" (.scalar (.string "x")),
          .assignment "l" (.list [.object [("q", .scalar (.string "x"))]])] := by
    obtain ⟨traits, populated⟩ := c
    obtain rfl : traits = requiringRules.traits := hc
    rfl
  have htext := events_text requiringRules.traits requiringRules.schema "t" "n"
    (.object [("p", .string "x"), ("l", .list [.object [("q", .string "x")]])])
  rw [hlines _ rfl] at htext
  exact ⟨htext, by decide, by decide, by decide⟩

end StackExport.Proofs.RequiredAttributes
