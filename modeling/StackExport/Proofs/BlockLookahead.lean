import StackExport.Proofs.AttributePlaces
/-!
Blocks without attributes.

A block's key is left out when the lookahead foresees no attribute in the block. The lookahead goes
through all keys in the block one by one, whereas an attribute is written only where no key around
it is left out. `lookahead_exact_iff` says when the two agree.
-/
namespace StackExport.Proofs.BlockLookahead

open Relation
open StackExport
open StackExport.Resource
open StackExport.Proofs.StreamNesting
open StackExport.Proofs.WriterRun
open StackExport.Proofs.ResourceCompleteness
open StackExport.Proofs.WritableStream
open StackExport.Proofs.SerializedResource
open StackExport.Proofs.WrittenText
open StackExport.Proofs.ValueLayout
open StackExport.Proofs.EmbeddedDocument
open StackExport.Proofs.BodyLines
open StackExport.Proofs.AttributePlaces

variable {c : Context} {r : Rules} {run : List Event}

/-! ### Attributes on lines -/

mutual

/-- True when an attribute is assigned on a line or in a block that begins on it. -/
def hasAttribute : Line → Bool
  | .comment _ => false
  | .assignment _ _ => true
  | .block _ body => haveAttribute body

def haveAttribute : List Line → Bool
  | [] => false
  | line :: rest => hasAttribute line || haveAttribute rest

end

theorem haveAttribute_append (lines others : List Line) :
    haveAttribute (lines ++ others) = (haveAttribute lines || haveAttribute others) := by
  induction lines with
  | nil => rfl
  | cons line rest ih => rw [List.cons_append, haveAttribute, haveAttribute, ih, Bool.or_assoc]

theorem haveAttribute_missingLines (c : Context) (r : Rules) (path : Path)
    (present : List String) :
    haveAttribute (missingLines c r path present) = !(r.missingRequired path present).isEmpty := by
  unfold missingLines
  cases r.missingRequired path present <;> rfl

/-! ### Answers of the lookahead -/

section Answers

variable {key : MappingKey} {value : List Event}

/-- A key of a block counts by its own value; behind it the lookahead goes on with its value. -/
theorem foresees_key (hv : IsValue value) (rest : List Event) :
    foresees c (.key key :: (value ++ rest)) =
      (!key.shape.isBlock && c.wouldWrite key (contentOf c.traits key value) ||
        foresees c (value ++ rest)) := by
  unfold foresees
  rw [Context.hasOutput, contentAt_of_isValue c.traits key hv]
  cases key.shape.isBlock with
  | true => simp
  | false =>
      simp only [bind, Except.bind, pure, Except.pure, Bool.false_eq_true, if_false]
      cases c.wouldWrite key (contentOf c.traits key value) <;> simp

theorem foresees_nil (c : Context) : foresees c [] = false := rfl

theorem foresees_cons {e : Event} (he : e.isKey = false) (rest : List Event) :
    foresees c (e :: rest) = foresees c rest := by
  cases e with
  | key key => cases he
  | _ => rfl

/-- The lookahead answers for a run, whatever follows. -/
def Answers (c : Context) (run : List Event) (answer : Bool) : Prop :=
  ∀ rest, foresees c (run ++ rest) = (answer || foresees c rest)

theorem Answers.append {run' : List Event} {a b : Bool} (h : Answers c run a)
    (h' : Answers c run' b) : Answers c (run ++ run') (a || b) := by
  intro rest
  rw [List.append_assoc, h, h', Bool.or_assoc]

theorem Answers.cons {e : Event} {a : Bool} (he : e.isKey = false) (h : Answers c run a) :
    Answers c (e :: run) a := by
  intro rest
  rw [List.cons_append, foresees_cons he, h]

theorem Answers.of_key {a : Bool} (hv : IsValue value) (h : Answers c value a) (key : MappingKey) :
    Answers c (.key key :: value)
      (!key.shape.isBlock && c.wouldWrite key (contentOf c.traits key value) || a) := by
  intro rest
  rw [List.cons_append, foresees_key hv, h, Bool.or_assoc]

theorem answers_nil (c : Context) : Answers c [] false := fun _ => (Bool.false_or _).symm

theorem Answers.group {o : Opening} {a : Bool} (h : Answers c run a) :
    Answers c (.start o :: (run ++ [.stop o.group])) a := by
  have hstop : Answers c [.stop o.group] false := (answers_nil c).cons rfl
  have hgroup := (h.append hstop).cons (e := .start o) rfl
  rwa [Bool.or_false] at hgroup

theorem Answers.foresees_eq {a : Bool} (h : Answers c run a) : foresees c run = a := by
  have hnil := h []
  rwa [List.append_nil, foresees_nil, Bool.or_false] at hnil

/-- The lookahead answers for every phrase. -/
theorem Phrase.exists_answer {p : Part} (h : Phrase p run) : ∃ a, Answers c run a :=
  h.of_closed (Q := fun run => ∃ a, Answers c run a) ⟨_, answers_nil c⟩
    (fun ⟨_, ha⟩ ⟨_, hb⟩ => ⟨_, ha.append hb⟩) (fun he ⟨_, ha⟩ => ⟨_, ha.cons he⟩)
    (fun key _ hv ⟨_, ha⟩ => ⟨_, ha.of_key hv key⟩)

theorem Phrase.answers {p : Part} (h : Phrase p run) : Answers c run (foresees c run) := by
  obtain ⟨a, ha⟩ := Phrase.exists_answer (c := c) h
  rwa [ha.foresees_eq]

theorem Phrase.foresees_append {p : Part} (h : Phrase p run) (rest : List Event) :
    foresees c (run ++ rest) = (foresees c run || foresees c rest) :=
  Phrase.answers h rest

theorem foresees_group {o : Opening} {p : Part} (h : Phrase p run) :
    foresees c (.start o :: (run ++ [.stop o.group])) = foresees c run :=
  (Phrase.answers h).group.foresees_eq

theorem foresees_missingEvents (c : Context) (r : Rules) (path : Path) (present : List String) :
    foresees c (r.missingEvents path present) = !(r.missingRequired path present).isEmpty := by
  unfold Rules.missingEvents
  cases r.missingRequired path present with
  | nil => rfl
  | cons name others =>
      rw [List.flatMap_cons, List.cons_append]
      exact (foresees_key (.scalar .null) _).trans rfl

end Answers

/-! ### Attributes of blocks -/

/-- An attribute of a body. -/
structure Attribute where
  path : Path
  name : String
  tree : AttributeTree

namespace Attribute

def key (r : Rules) (a : Attribute) : MappingKey := bodyKey r a.path a.name a.tree

/-- The events behind the key. -/
def value (r : Rules) (a : Attribute) : List Event := bodyValue r a.path a.name a.tree

def events (r : Rules) (a : Attribute) : List Event := .key (a.key r) :: a.value r

/-- The value with the default in it. -/
def ahead (c : Context) (r : Rules) (a : Attribute) : List Event := c.applyDefault (a.key r) (a.value r)

/-- The lines of the attribute; none if its key is not written. -/
def lines (c : Context) (r : Rules) (a : Attribute) : List Line := keyedLines c r a.path a.name a.tree

/-- The lines of the attribute if its key is written. -/
def content (c : Context) (r : Rules) (a : Attribute) : List Line :=
  attributeLines c r a.path a.name a.tree

end Attribute

/-- The attributes that an object gives to its body. -/
def bodyAttributes (path : Path) (entries : List (String × AttributeTree)) : List Attribute :=
  entries.map fun (name, tree) => ⟨path.child name, name, tree⟩

/-- The attributes that the objects of a list give to their blocks. -/
def blockAttributes (path : Path) (index : Nat) : List AttributeTree → List Attribute
  | [] => []
  | .object entries :: rest =>
    bodyAttributes (path.element index) entries ++ blockAttributes path (index + 1) rest
  | _ :: rest => blockAttributes path (index + 1) rest

/-- True when the body of an object lacks a required name. -/
def bodyLacks (r : Rules) (path : Path) (entries : List (String × AttributeTree)) : Bool :=
  !(r.missingRequired path (entries.map (·.1))).isEmpty

/-- True when the body of some object in a list lacks a required name. -/
def blocksLack (r : Rules) (path : Path) (index : Nat) : List AttributeTree → Bool
  | [] => false
  | .object entries :: rest =>
    bodyLacks r (path.element index) entries || blocksLack r path (index + 1) rest
  | _ :: rest => blocksLack r path (index + 1) rest

/-- The attributes in the bodies of an attribute's blocks. -/
def Attribute.inner (a : Attribute) : List Attribute :=
  match a.tree with
  | .list items => blockAttributes a.path 0 items
  | .object entries => bodyAttributes a.path entries
  | _ => []

/-- True when the body of one of an attribute's blocks lacks a required name. -/
def Attribute.lacks (r : Rules) (a : Attribute) : Bool :=
  match a.tree with
  | .list items => blocksLack r a.path 0 items
  | .object entries => bodyLacks r a.path entries
  | _ => false

theorem keyed_phrase (r : Rules) (path : Path) (name : String) (tree : AttributeTree) :
    Phrase .body (r.keyed path name tree) := by
  have h := keyed_append_phrase r path name tree .noKey
  rwa [List.append_nil] at h

theorem foresees_body (c : Context) (r : Rules) (path : Path)
    (entries : List (String × AttributeTree)) :
    foresees c (r.body path entries) =
      (bodyAttributes path entries).any fun e => foresees c (e.events r) := by
  induction entries with
  | nil => rfl
  | cons entry rest ih =>
      obtain ⟨name, tree⟩ := entry
      rw [Rules.body, Phrase.foresees_append (keyed_phrase r (path.child name) name tree), ih,
        keyed_eq]
      rfl

theorem foresees_bodyEvents (c : Context) (r : Rules) (path : Path)
    (entries : List (String × AttributeTree)) :
    foresees c (bodyEvents r path entries) = (bodyLacks r path entries ||
      (bodyAttributes path entries).any fun e => foresees c (e.events r)) := by
  have hbody := body_append_phrase r path entries .noKey
  rw [List.append_nil] at hbody
  rw [bodyEvents, Phrase.foresees_append hbody, foresees_body, foresees_missingEvents, Bool.or_comm]
  rfl

theorem foresees_blocks (c : Context) (r : Rules) (path : Path) (name : String) (index : Nat)
    (items : List AttributeTree) :
    foresees c (r.blocks path name index items) = (blocksLack r path index items ||
      (blockAttributes path index items).any fun e => foresees c (e.events r)) := by
  induction items generalizing index with
  | nil => rfl
  | cons item rest ih =>
      cases item with
      | object entries =>
          have hbody := bodyEvents_phrase r (path.element index) entries
          have hblock : Answers c
              (.start (.block name) :: (bodyEvents r (path.element index) entries ++ [.stop .block]))
              _ := (Phrase.answers hbody).group (o := .block name)
          rw [blocks_cons_object, hblock, ih, foresees_bodyEvents, blocksLack, blockAttributes,
            List.any_append]
          simp only [Bool.or_assoc, Bool.or_left_comm]
      | _ => exact ih (index + 1)

theorem haveAttribute_bodyLines (c : Context) (r : Rules) (path : Path)
    (entries : List (String × AttributeTree)) :
    haveAttribute (bodyLines c r path entries) =
      (bodyAttributes path entries).any fun e => haveAttribute (e.lines c r) := by
  induction entries with
  | nil => rfl
  | cons entry rest ih =>
      obtain ⟨name, tree⟩ := entry
      rw [bodyLines_cons, haveAttribute_append, ih]
      rfl

theorem haveAttribute_body (c : Context) (r : Rules) (path : Path)
    (entries : List (String × AttributeTree)) :
    haveAttribute (bodyLines c r path entries ++ missingLines c r path (entries.map (·.1))) =
      (bodyLacks r path entries ||
        (bodyAttributes path entries).any fun e => haveAttribute (e.lines c r)) := by
  rw [haveAttribute_append, haveAttribute_bodyLines, haveAttribute_missingLines, Bool.or_comm]
  rfl

theorem haveAttribute_blockLines (c : Context) (r : Rules) (path : Path) (name : String)
    (index : Nat) (items : List AttributeTree) :
    haveAttribute (blockLines c r path name index items) = (blocksLack r path index items ||
      (blockAttributes path index items).any fun e => haveAttribute (e.lines c r)) := by
  induction items generalizing index with
  | nil => rfl
  | cons item rest ih =>
      cases item with
      | object entries =>
          rw [blockLines, haveAttribute, hasAttribute, haveAttribute_body, ih, blocksLack,
            blockAttributes, List.any_append]
          simp only [Bool.or_assoc, Bool.or_left_comm]
      | _ => exact ih (index + 1)

variable {a e : Attribute}

/-- What the lookahead foresees in an attribute's blocks. -/
theorem foresees_value_of_isBlock (h : (a.key r).shape.isBlock = true) :
    foresees c (a.value r) = (a.lacks r || a.inner.any fun e => foresees c (e.events r)) := by
  obtain ⟨path, name, tree⟩ := a
  cases tree with
  | list items =>
      rw [Attribute.value, bodyValue, if_pos (isBlock_classify_list_iff.1 h)]
      exact (foresees_group (o := .sequence) (blocks_phrase r path name 0 items)).trans
        (foresees_blocks c r path name 0 items)
  | object entries =>
      rw [Attribute.value, bodyValue, if_pos (isBlock_classify_object_iff.1 h)]
      exact (foresees_group (o := .block name) (bodyEvents_phrase r path entries)).trans
        (foresees_bodyEvents c r path entries)
  | _ => cases h

/-- What is assigned in an attribute's blocks. -/
theorem haveAttribute_content_of_isBlock (h : (a.key r).shape.isBlock = true) :
    haveAttribute (a.content c r) =
      (a.lacks r || a.inner.any fun e => haveAttribute (e.lines c r)) := by
  obtain ⟨path, name, tree⟩ := a
  cases tree with
  | list items =>
      rw [Attribute.content, attributeLines, if_pos (isBlock_classify_list_iff.1 h)]
      exact haveAttribute_blockLines c r path name 0 items
  | object entries =>
      rw [Attribute.content, attributeLines, if_pos (isBlock_classify_object_iff.1 h),
        haveAttribute, hasAttribute, haveAttribute, Bool.or_false]
      exact haveAttribute_body c r path entries
  | _ => cases h

theorem haveAttribute_content_of_not_isBlock (h : (a.key r).shape.isBlock = false) :
    haveAttribute (a.content c r) = true := by
  obtain ⟨path, name, tree⟩ := a
  cases tree with
  | list items =>
      have hshape : ¬ r.classify path (.list items) = .blockList :=
        mt isBlock_classify_list_iff.2 (Bool.eq_false_iff.1 h)
      rw [Attribute.content, attributeLines, if_neg hshape]
      rfl
  | object entries =>
      have hshape : ¬ r.classify path (.object entries) = .blockObject :=
        mt isBlock_classify_object_iff.2 (Bool.eq_false_iff.1 h)
      rw [Attribute.content, attributeLines, if_neg hshape]
      rfl
  | _ => rfl

/-! ### Where the answer fails -/

/-- An attribute that the lookahead counts though none of it is written: its key is left out, or one
like it stands in its blocks. -/
inductive Misleads (c : Context) (r : Rules) : Attribute → Prop where
  | leftOut {a : Attribute} (hleft : isKept c (a.key r) (a.ahead c r) = false)
      (hcounts : foresees c (a.events r) = true) : Misleads c r a
  | inside {a e : Attribute} (hblock : (a.key r).shape.isBlock = true) (he : e ∈ a.inner)
      (h : Misleads c r e) : Misleads c r a

/-- An attribute that is written though the lookahead does not count it: its null is a value at
which it is left out and has a default at which it is not, or one like it stands in its blocks. -/
inductive Overlooked (c : Context) (r : Rules) : Attribute → Prop where
  | default {a : Attribute} (hnull : a.tree = .null)
      (hconditional : c.traits.isConditionalDefault a.path .null = true)
      (hrequired : c.isRequired (a.key r) = false)
      (hkept : isKept c (a.key r) (a.ahead c r) = true) : Overlooked c r a
  | inside {a e : Attribute} (hblock : (a.key r).shape.isBlock = true)
      (hwritten : isWritten c (a.key r) (a.ahead c r) = true) (he : e ∈ a.inner)
      (h : Overlooked c r e) : Overlooked c r a

theorem bodyAttributes_sizeOf_lt {path : Path} {entries : List (String × AttributeTree)}
    (he : e ∈ bodyAttributes path entries) : sizeOf e.tree < sizeOf entries := by
  obtain ⟨⟨name, tree⟩, hmem, rfl⟩ := List.mem_map.1 he
  have hlt := List.sizeOf_lt_of_mem hmem
  simp only [Prod.mk.sizeOf_spec] at hlt
  change sizeOf tree < sizeOf entries
  omega

theorem blockAttributes_sizeOf_lt {path : Path} {index : Nat} {items : List AttributeTree}
    (he : e ∈ blockAttributes path index items) : sizeOf e.tree < sizeOf items := by
  induction items generalizing index with
  | nil => cases he
  | cons item rest ih =>
      have hrest (h : e ∈ blockAttributes path (index + 1) rest) :
          sizeOf e.tree < sizeOf (item :: rest) := by
        have := ih h
        simp only [List.cons.sizeOf_spec]
        omega
      cases item with
      | object entries =>
          rcases List.mem_append.1 he with he | he
          · have := bodyAttributes_sizeOf_lt he
            simp only [List.cons.sizeOf_spec, AttributeTree.object.sizeOf_spec]
            omega
          · exact hrest he
      | _ => exact hrest he

/-- The attributes in blocks have smaller trees. -/
theorem Attribute.inner_sizeOf_lt (he : e ∈ a.inner) : sizeOf e.tree < sizeOf a.tree := by
  obtain ⟨path, name, tree⟩ := a
  cases tree with
  | list items =>
      have := blockAttributes_sizeOf_lt he
      simp only [AttributeTree.list.sizeOf_spec]
      omega
  | object entries =>
      have := bodyAttributes_sizeOf_lt he
      simp only [AttributeTree.object.sizeOf_spec]
      omega
  | _ => cases he

theorem Attribute.lines_eq (a : Attribute) :
    a.lines c r = if isWritten c (a.key r) (a.ahead c r) then a.content c r else [] :=
  rfl

theorem Attribute.value_fed (r : Rules) (a : Attribute) : IsValue (a.value r) ∧ KeysFed (a.value r) :=
  bodyValue_fed r a.path a.name a.tree

/-- The key of an attribute counts by its value, unless it is the key of blocks. -/
theorem foresees_events (a : Attribute) :
    foresees c (a.events r) = (!(a.key r).shape.isBlock &&
      c.wouldWrite (a.key r) (contentOf c.traits (a.key r) (a.value r)) ||
        foresees c (a.value r)) := by
  have hkey : foresees c (.key (a.key r) :: (a.value r ++ [])) = _ :=
    foresees_key (a.value_fed r).1 []
  rwa [List.append_nil] at hkey

theorem Attribute.ahead_eq_value (h : a.tree ≠ .null) : a.ahead c r = a.value r := by
  obtain ⟨path, name, tree⟩ := a
  rw [Attribute.ahead, Attribute.value]
  cases tree with
  | null => exact absurd rfl h
  | string s =>
      change c.applyDefault _ (r.value path (.string s)) = r.value path (.string s)
      rw [Rules.value]
      split <;> rfl
  | list items =>
      rw [bodyValue]
      split <;> rfl
  | object entries =>
      rw [bodyValue]
      split <;> rfl
  | _ => rfl

theorem Attribute.ahead_eq_value_of_isBlock (h : (a.key r).shape.isBlock = true) :
    a.ahead c r = a.value r := by
  refine Attribute.ahead_eq_value fun hnull => ?_
  rw [Attribute.key, hnull] at h
  cases h

/-- What is kept without a default is counted. -/
theorem wouldWrite_of_isKept {key : MappingKey} {value : List Event} (h : isKept c key value = true) :
    c.wouldWrite key (contentOf c.traits key value) = true := by
  unfold isKept at h
  unfold Context.wouldWrite
  revert h
  cases c.isRequired key <;> cases key.computedOnly <;> simp +contextual

/-- A null that is written but not counted has a default, and is left out without it. -/
theorem conditional_of_null {key : MappingKey}
    (hkept : isKept c key (c.applyDefault key [.scalar .null]) = true)
    (hnot : c.wouldWrite key (contentOf c.traits key [.scalar .null]) = false) :
    c.isRequired key = false ∧ c.traits.isConditionalDefault key.path .null = true := by
  have hr : c.isRequired key = false := (Bool.or_eq_false_iff.1 hnot).1
  refine ⟨hr, ?_⟩
  by_contra hconditional
  have hcontent : contentOf c.traits key [.scalar .null] = .null := by
    change (if c.traits.isConditionalDefault key.path .null then Content.conditionalDefault else _) = _
    rw [if_neg hconditional]
    rfl
  cases hdefault : c.traits.defaultFor key.path with
  | none =>
      have hsame : c.applyDefault key [.scalar .null] = [.scalar .null] := by
        simp [Context.applyDefault, ResourceTraits.applyDefault, hdefault]
      rw [hsame] at hkept
      rw [wouldWrite_of_isKept hkept] at hnot
      cases hnot
  | some json =>
      have hc : key.computedOnly = false := by
        cases hc : key.computedOnly with
        | false => rfl
        | true => simp [isKept, hr, hc] at hkept
      simp [Context.wouldWrite, hr, hc, hcontent, hdefault] at hnot

/-- A false hope has a reason. -/
theorem misleads_of_foresees (a : Attribute) (hcounts : foresees c (a.events r) = true)
    (hnone : haveAttribute (a.lines c r) = false) : Misleads c r a := by
  cases hkept : isKept c (a.key r) (a.ahead c r) with
  | false => exact .leftOut hkept hcounts
  | true =>
      cases hblock : (a.key r).shape.isBlock with
      | false =>
          rw [a.lines_eq, isWritten_of_not_block hblock, if_pos hkept,
            haveAttribute_content_of_not_isBlock hblock] at hnone
          cases hnone
      | true =>
          have hvalue : foresees c (a.value r) = true := by
            simpa [foresees_events, hblock] using hcounts
          have hahead : a.ahead c r = a.value r := Attribute.ahead_eq_value_of_isBlock hblock
          have hwritten : isWritten c (a.key r) (a.ahead c r) = true := by
            rw [isWritten, hkept, hahead, hvalue, Bool.or_true]
            rfl
          rw [a.lines_eq, if_pos hwritten, haveAttribute_content_of_isBlock hblock,
            Bool.or_eq_false_iff, List.any_eq_false] at hnone
          rw [foresees_value_of_isBlock hblock, hnone.1, Bool.false_or, List.any_eq_true] at hvalue
          obtain ⟨e, he, hcountsInside⟩ := hvalue
          have hnoneInside := Bool.eq_false_iff.2 (hnone.2 e he)
          exact .inside hblock he (misleads_of_foresees e hcountsInside hnoneInside)
termination_by sizeOf a.tree
decreasing_by exact Attribute.inner_sizeOf_lt he

theorem Misleads.foresees (h : Misleads c r a) : foresees c (a.events r) = true := by
  induction h with
  | leftOut _ hcounts => exact hcounts
  | @inside a e hblock he _ ih =>
      rw [foresees_events, foresees_value_of_isBlock hblock]
      have hany : a.inner.any (fun e => BodyLines.foresees c (e.events r)) = true :=
        List.any_eq_true.2 ⟨e, he, ih⟩
      rw [hany, Bool.or_true, Bool.or_true]

theorem overlooked_of_haveAttribute (a : Attribute) (hnot : foresees c (a.events r) = false)
    (hwritten : haveAttribute (a.lines c r) = true) : Overlooked c r a := by
  have hw : isWritten c (a.key r) (a.ahead c r) = true := by
    by_contra hunwritten
    rw [a.lines_eq, if_neg hunwritten] at hwritten
    cases hwritten
  rw [foresees_events, Bool.or_eq_false_iff] at hnot
  rw [a.lines_eq, if_pos hw] at hwritten
  cases hblock : (a.key r).shape.isBlock with
  | false =>
      rw [isWritten_of_not_block hblock] at hw
      have hnotCounted : c.wouldWrite (a.key r) (contentOf c.traits (a.key r) (a.value r)) = false := by
        simpa [hblock] using hnot.1
      have hnull : a.tree = .null := by
        by_contra hne
        rw [Attribute.ahead_eq_value hne] at hw
        rw [wouldWrite_of_isKept hw] at hnotCounted
        cases hnotCounted
      have hvalue : a.value r = [.scalar .null] := by
        rw [Attribute.value, hnull]
        rfl
      rw [hvalue] at hnotCounted
      have hkept := hw
      rw [Attribute.ahead, hvalue] at hkept
      obtain ⟨hr, hconditional⟩ := conditional_of_null hkept hnotCounted
      exact .default hnull hconditional hr hw
  | true =>
      rw [foresees_value_of_isBlock hblock, Bool.or_eq_false_iff, List.any_eq_false] at hnot
      rw [haveAttribute_content_of_isBlock hblock, hnot.2.1, Bool.false_or,
        List.any_eq_true] at hwritten
      obtain ⟨e, he, hwrittenInside⟩ := hwritten
      have hnotInside := Bool.eq_false_iff.2 (hnot.2.2 e he)
      exact .inside hblock hw he (overlooked_of_haveAttribute e hnotInside hwrittenInside)
termination_by sizeOf a.tree
decreasing_by exact Attribute.inner_sizeOf_lt he

theorem Overlooked.haveAttribute (h : Overlooked c r a) : haveAttribute (a.lines c r) = true := by
  induction h with
  | @default a hnull _ _ hkept =>
      have hblock : (a.key r).shape.isBlock = false := by
        rw [Attribute.key, hnull]
        rfl
      rw [a.lines_eq, isWritten_of_not_block hblock, if_pos hkept,
        haveAttribute_content_of_not_isBlock hblock]
  | @inside a e hblock hwritten he _ ih =>
      rw [a.lines_eq, if_pos hwritten, haveAttribute_content_of_isBlock hblock]
      have hany : a.inner.any (fun e => BlockLookahead.haveAttribute (e.lines c r)) = true :=
        List.any_eq_true.2 ⟨e, he, ih⟩
      rw [hany, Bool.or_true]

/-- The lookahead is right about an attribute's blocks exactly when nothing misleads it where no
attribute is written, and it overlooks nothing where it counts none. -/
theorem foresees_eq_haveAttribute_iff (h : (a.key r).shape.isBlock = true) :
    foresees c (a.value r) = haveAttribute (a.content c r) ↔
      (haveAttribute (a.content c r) = true ∨ ∀ e ∈ a.inner, ¬ Misleads c r e) ∧
        (foresees c (a.value r) = true ∨ ∀ e ∈ a.inner, ¬ Overlooked c r e) := by
  have hforesees := foresees_value_of_isBlock (c := c) h
  have hwritten := haveAttribute_content_of_isBlock (c := c) h
  constructor
  · intro heq
    refine ⟨?_, ?_⟩
    · rw [or_iff_not_imp_left]
      intro hnone e he hmisleads
      rw [← heq, hforesees] at hnone
      refine hnone ?_
      rw [List.any_eq_true.2 ⟨e, he, hmisleads.foresees⟩, Bool.or_true]
    · rw [or_iff_not_imp_left]
      intro hnone e he hoverlooked
      rw [heq, hwritten] at hnone
      refine hnone ?_
      rw [List.any_eq_true.2 ⟨e, he, hoverlooked.haveAttribute⟩, Bool.or_true]
  · rintro ⟨hmisleads, hoverlooked⟩
    rw [Bool.eq_iff_iff]
    constructor
    · intro hcounts
      rcases hmisleads with hdone | hmisleads
      · exact hdone
      · rw [hforesees, Bool.or_eq_true] at hcounts
        rw [hwritten, Bool.or_eq_true]
        refine hcounts.imp_right fun hany => ?_
        obtain ⟨e, he, hcountsInside⟩ := List.any_eq_true.1 hany
        refine List.any_eq_true.2 ⟨e, he, ?_⟩
        by_contra hnone
        exact hmisleads e he (misleads_of_foresees e hcountsInside (Bool.eq_false_iff.2 hnone))
    · intro hany
      rcases hoverlooked with hdone | hoverlooked
      · exact hdone
      · rw [hwritten, Bool.or_eq_true] at hany
        rw [hforesees, Bool.or_eq_true]
        refine hany.imp_right fun hany => ?_
        obtain ⟨e, he, hwrittenInside⟩ := List.any_eq_true.1 hany
        refine List.any_eq_true.2 ⟨e, he, ?_⟩
        by_contra hnone
        exact hoverlooked e he
          (overlooked_of_haveAttribute e (Bool.eq_false_iff.2 hnone) hwrittenInside)

/-! ### Keys of blocks in the stream -/

section Stream

variable {d : Draft} {key : MappingKey} {rest value : List Event} {s t : Draft × List Event}

/-- Every key of blocks in a stream is the key of an attribute, whose blocks follow. -/
def BlockKeys (r : Rules) : List Event → Prop
  | [] => True
  | .key key :: rest =>
    (key.shape.isBlock = true → ∃ a : Attribute, ∃ tail, key = a.key r ∧ rest = a.value r ++ tail) ∧
      BlockKeys r rest
  | _ :: rest => BlockKeys r rest

theorem BlockKeys.cons {e : Event} (he : e.isKey = false) (h : BlockKeys r rest) :
    BlockKeys r (e :: rest) := by
  cases e with
  | key key => cases he
  | _ => exact h

theorem BlockKeys.append (h : BlockKeys r run) (h' : BlockKeys r rest) :
    BlockKeys r (run ++ rest) := by
  induction run with
  | nil => exact h'
  | cons e run ih =>
      cases e with
      | key key =>
          refine ⟨fun hblock => ?_, ih h.2⟩
          obtain ⟨a, tail, hkey, rfl⟩ := h.1 hblock
          exact ⟨a, tail ++ rest, hkey, List.append_assoc ..⟩
      | _ => exact ih h

theorem BlockKeys.of_append (h : BlockKeys r (run ++ rest)) : BlockKeys r rest := by
  induction run with
  | nil => exact h
  | cons e run ih =>
      cases e with
      | key key => exact ih h.2
      | _ => exact ih h

theorem BlockKeys.group {o : Opening} (h : BlockKeys r run) :
    BlockKeys r (.start o :: (run ++ [.stop o.group])) := by
  have hstop : BlockKeys r [.stop o.group] := trivial
  exact (h.append hstop).cons rfl

theorem BlockKeys.of_attribute (h : BlockKeys r (a.value r)) : BlockKeys r (a.events r) :=
  ⟨fun _ => ⟨a, [], rfl, (List.append_nil _).symm⟩, h⟩

/-- The parts of a resource in which no key is one of blocks. -/
def isData : Part → Prop
  | .value | .items | .entries => True
  | .body | .blocks => False

theorem Phrase.blockKeys {p : Part} (h : Phrase p run) (hp : isData p) (r : Rules) :
    BlockKeys r run := by
  induction h with
  | scalar s => trivial
  | list _ ih => exact (ih trivial).group (o := .sequence)
  | map _ ih => exact (ih trivial).group (o := .mapping)
  | document _ ih => exact (ih trivial).group (o := .json)
  | noItem | noEntry => trivial
  | item _ _ ihv ihi => exact (ihv trivial).append (ihi trivial)
  | entry hk _ _ ihv ihe =>
      exact ⟨fun hblock => by simp [hk] at hblock, (ihv trivial).append (ihe trivial)⟩
  | noKey | assignment | blockList | blockObject | noBlock | block | skipped => exact hp.elim

theorem missingEvents_blockKeys (r : Rules) (path : Path) (present : List String) :
    BlockKeys r (r.missingEvents path present) :=
  missingEvents_of_closed (Q := BlockKeys r) trivial fun _ _ _ ih => ⟨nofun, ih⟩

theorem BlockKeys.withMissing {path : Path} {entries : List (String × AttributeTree)}
    (h : BlockKeys r (r.body path entries)) : BlockKeys r (bodyEvents r path entries) :=
  h.append (missingEvents_blockKeys r path _)

mutual

theorem bodyValue_blockKeys (r : Rules) (path : Path) (name : String) :
    ∀ tree, BlockKeys r (bodyValue r path name tree)
  | .list items => by
      rw [bodyValue]
      split
      · exact (blocks_blockKeys r path name 0 items).group (o := .sequence)
      · exact Phrase.blockKeys (value_phrase r path _) trivial r
  | .object entries => by
      rw [bodyValue]
      split
      · exact (body_blockKeys r path entries).withMissing.group (o := .block name)
      · exact Phrase.blockKeys (value_phrase r path _) trivial r
  | .null | .bool _ | .number _ | .string _ | .reference _ | .document _ =>
      Phrase.blockKeys (value_phrase r path _) trivial r

theorem blocks_blockKeys (r : Rules) (path : Path) (name : String) (index : Nat) :
    ∀ items, BlockKeys r (r.blocks path name index items)
  | [] => trivial
  | .object entries :: rest => by
      have hblock := (body_blockKeys r (path.element index) entries).withMissing.group
        (o := .block name)
      rw [blocks_cons_object]
      exact hblock.append (blocks_blockKeys r path name (index + 1) rest)
  | .null :: rest | .bool _ :: rest | .number _ :: rest | .string _ :: rest | .list _ :: rest
  | .reference _ :: rest | .document _ :: rest => blocks_blockKeys r path name (index + 1) rest

theorem body_blockKeys (r : Rules) (path : Path) :
    ∀ entries, BlockKeys r (r.body path entries)
  | [] => trivial
  | (name, tree) :: rest => by
      have hvalue := bodyValue_blockKeys r (path.child name) name tree
      rw [Rules.body, keyed_eq]
      exact (BlockKeys.of_attribute (a := ⟨path.child name, name, tree⟩) hvalue).append
        (body_blockKeys r path rest)

end

theorem events_blockKeys (r : Rules) (type name : String) (attributes : AttributeTree) :
    BlockKeys r (r.events type name attributes) := by
  have hbody : BlockKeys r (r.rootBody attributes) := by
    cases attributes with
    | object entries => exact (body_blockKeys r .root entries).withMissing
    | null => exact missingEvents_blockKeys r .root []
    | _ => trivial
  exact hbody.group (o := .resource type name)

theorem blockKeys_applyDefault (h : BlockKeys r rest) (c : Context) (key : MappingKey) :
    BlockKeys r (c.applyDefault key rest) := by
  rcases applyDefault_cases c key rest with heq | ⟨s, s', tail, rfl, heq⟩
  · rwa [heq]
  · rw [heq]
    exact h

theorem append_of_takeValue {events tail : List Event}
    (h : takeValue events = some (value, tail)) : events = value ++ tail := by
  obtain ⟨n, -, hsplit⟩ := Option.map_eq_some_iff.1 h
  obtain ⟨rfl, rfl⟩ := Prod.mk.inj ((List.splitAt_eq ..).symm.trans hsplit)
  exact (List.take_append_drop ..).symm

theorem blockKeys_of_step (h : Step c s t) (hb : BlockKeys r s.2) : BlockKeys r t.2 := by
  cases h with
  | comment | scalar | start | stop => exact hb
  | swallow _ ht _ =>
      obtain rfl := dropStop_eq_some_iff.1 ht
      exact hb
  | datum => exact hb.2
  | write => exact blockKeys_applyDefault hb.2 c _
  | leaveOut _ _ ht =>
      have hahead := blockKeys_applyDefault hb.2 c ‹_›
      rw [append_of_takeValue ht] at hahead
      exact hahead.of_append

variable {type name : String} {attributes : AttributeTree}

theorem blockKeys_of_reaches (h : Reaches r.traits (r.events type name attributes) d rest) :
    BlockKeys r rest := by
  refine h.invariant (P := fun s => BlockKeys r s.2) (events_blockKeys r type name attributes) ?_
  intro s t _ hstep
  exact blockKeys_of_step hstep

/-! ### The lookahead against the text -/

/-- The key of blocks that nothing else decides about is written exactly when the lookahead foresees
an attribute in the blocks. The lookahead is right about what writing them adds exactly when nothing
misleads it where no attribute is written, and it overlooks nothing where it counts none. -/
theorem lookahead_exact_iff
    (h : Reaches r.traits (r.events type name attributes) d (.key key :: rest))
    (hf : d.filters? = some true) (hblock : key.shape.isBlock = true)
    (hrequired : (resourceContext r type name attributes).isRequired key = false)
    (hcomputed : key.computedOnly = false)
    (hemit : ∃ content, contentAt r.traits key rest = .ok content ∧
      r.traits.shouldEmit key.path content
        (resourceContext r type name attributes).populated = true) :
    ∃ (a : Attribute) (tail : List Event) (answer : Bool),
      key = a.key r ∧ rest = a.value r ++ tail ∧
      ReflTransGen (Step (resourceContext r type name attributes))
        (d.writeKey key, rest)
        (after d (linesText (depth d)
          (a.content (resourceContext r type name attributes) r)), tail) ∧
      (resourceContext r type name attributes).blockHasOutput rest = .ok answer ∧
      (Writes (resourceContext r type name attributes) d key rest ↔ answer = true) ∧
      (answer = haveAttribute (a.content (resourceContext r type name attributes) r) ↔
        (haveAttribute (a.content (resourceContext r type name attributes) r) = true ∨
          ∀ e ∈ a.inner, ¬ Misleads (resourceContext r type name attributes) r e) ∧
        (answer = true ∨
          ∀ e ∈ a.inner, ¬ Overlooked (resourceContext r type name attributes) r e)) := by
  obtain ⟨a, tail, rfl, rfl⟩ := (blockKeys_of_reaches h).1 hblock
  have hplace := atAttributes_of_reaches h id hf
  obtain ⟨content, hcontent, hemit⟩ := hemit
  generalize hc : resourceContext r type name attributes = c at *
  have htraits : r.traits = c.traits := by rw [← hc]; rfl
  obtain ⟨hv, hfed⟩ := a.value_fed r
  have hahead : a.ahead c r = a.value r := Attribute.ahead_eq_value_of_isBlock hblock
  rw [htraits, contentAt_of_isValue _ _ hv] at hcontent
  obtain rfl := Except.ok.inj hcontent
  have hkept : isKept c (a.key r) (a.value r) = true := by
    rw [htraits] at hemit
    simp [isKept, hcomputed, hemit]
  have hwritten : isWritten c (a.key r) (a.ahead c r) = foresees c (a.value r) := by
    rw [isWritten, hahead, hkept, hrequired, hblock]
    rfl
  have hsteps := attribute_steps c r a.path a.name a.tree hplace tail
  refine ⟨a, tail, foresees c (a.value r), rfl, rfl, ?_, blockHasOutput_eq hv hfed tail, ?_,
    foresees_eq_haveAttribute_iff hblock⟩
  · change ReflTransGen (Step c) (d.writeKey (a.key r), a.ahead c r ++ tail) _ at hsteps
    rwa [hahead] at hsteps
  · have hwrite : c.shouldWrite (a.key r) (c.applyDefault (a.key r) (a.value r ++ tail)) =
        .ok (foresees c (a.value r)) :=
      (shouldWrite_ahead c (a.key r) hv hfed tail).trans (congrArg Except.ok hwritten)
    constructor
    · rintro (hdata | ⟨-, htrue⟩)
      · simp [hf] at hdata
      · exact Except.ok.inj (hwrite.symm.trans htrue)
    · intro htrue
      exact .inr ⟨hf, hwrite.trans (congrArg Except.ok htrue)⟩

theorem lookahead_exact_iff_one_block :
    ∃ (a : Attribute) (tail : List Event) (answer : Bool),
      [.start .sequence, .start (.block "b"), .key ⟨"p", ⟨["b", "0", "p"]⟩, .value, false, false, []⟩,
        .scalar (.string "x"), .stop .block, .stop .sequence, .stop .resource] =
          a.value ⟨.none "t", []⟩ ++ tail ∧
      (Writes
        (resourceContext ⟨.none "t", []⟩ "t" "n"
          (.object [("b", .list [.object [("p", .string "x")]])]))
        (bodyDraft "t" "n") ⟨"b", ⟨["b"]⟩, .blockList, false, false, []⟩
        (a.value ⟨.none "t", []⟩ ++ tail) ↔ answer = true) := by
  have hreaches := reaches_rootBody (.none "t") [] "t" "n"
    (.object [("b", .list [.object [("p", .string "x")]])])
  obtain ⟨a, tail, answer, -, hrest, -, -, hwrites, -⟩ :=
    lookahead_exact_iff (r := ⟨.none "t", []⟩) hreaches rfl rfl rfl rfl ⟨.blockList, rfl, rfl⟩
  exact ⟨a, tail, answer, hrest, hrest ▸ hwrites⟩

/-- A default at which an attribute of a block is left out. -/
def falseDefault : ResourceTraits :=
  { ResourceTraits.none "t" with defaults := [("b.*.p", .bool false)] }

/-- A block is written though no attribute is in it: its only one is null, and the default in its
place is left out. -/
theorem empty_block_written :
    write falseDefault (Rules.events ⟨falseDefault, []⟩ "t" "n"
        (.object [("b", .list [.object [("p", .null)]])])) =
      .ok (resourceOpening "t" "n" ++ "  b \x7b\n  \x7d\n" ++ "\x7d\n\n") ∧
      Rules.classify ⟨falseDefault, []⟩ ⟨["b"]⟩ (.list [.object [("p", .null)]]) = .blockList ∧
      (Rules.key ⟨falseDefault, []⟩ "b" ⟨["b"]⟩ .blockList).computedOnly = false ∧
      (∀ populated, Context.isRequired ⟨falseDefault, populated⟩
        (Rules.key ⟨falseDefault, []⟩ "b" ⟨["b"]⟩ .blockList) = false) ∧
      ∀ populated, falseDefault.shouldEmit ⟨["b"]⟩ .blockList populated = true := by
  have hlines (c : Context) (hc : c.traits = falseDefault) :
      rootLines c ⟨falseDefault, []⟩ (.object [("b", .list [.object [("p", .null)]])]) =
        [.block "b" []] := by
    obtain ⟨traits, populated⟩ := c
    obtain rfl : traits = falseDefault := hc
    rfl
  have htext := events_text falseDefault [] "t" "n" (.object [("b", .list [.object [("p", .null)]])])
  rw [hlines _ rfl] at htext
  exact ⟨htext, rfl, rfl, fun _ => rfl, fun _ => rfl⟩

end Stream

end StackExport.Proofs.BlockLookahead
