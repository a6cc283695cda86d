import StackExport.Proofs.BlockLookahead
import StackExport.Proofs.PopulatedPaths
import StackExport.Proofs.RequiredAttributes
/-!
Attributes that exclude each other.

Of a group of conflicting attributes the first that has content in the state wins, and those behind
it are left out. `conflict_group_resolved` says what becomes of the winner, which may be left out for
reasons of its own, and when an attribute in front of it is written as well.
-/
namespace StackExport.Proofs.ConflictGroups

open StackExport
open StackExport.Resource
open StackExport.Proofs.StreamNesting
open StackExport.Proofs.ResourceCompleteness
open StackExport.Proofs.WritableStream
open StackExport.Proofs.WrittenText
open StackExport.Proofs.BodyLines
open StackExport.Proofs.PathPattern
open StackExport.Proofs.PopulatedPaths
open StackExport.Proofs.BlockLookahead
open StackExport.Proofs.RequiredAttributes

variable {c : Context} {r : Rules} {key : MappingKey} {value : List Event} {path : Path}
  {name type resource : String} {group names : List String} {populated : List Path}
  {tree attributes : AttributeTree}

/-! ### Losing a conflict -/

/-- Patterns stand for attributes of the resource, each written without a star. -/
def Names (group names : List String) : Prop :=
  List.Forall₂ (fun pattern name => Path.parse pattern = ⟨[name]⟩ ∧ '*' ∉ name.toList) group names

theorem isSome_findIdx?_iff (h : Names group names) :
    (group.findIdx? (⟨[name]⟩ : Path).isLike).isSome = true ↔ name ∈ names := by
  induction h with
  | nil => simp
  | cons hfirst _ ih =>
      rw [List.findIdx?_cons]
      split
      case isTrue hlike =>
        obtain rfl : name = _ := by simpa using (isLike_iff_of_single hfirst.1 hfirst.2).1 hlike
        simp
      case isFalse hlike =>
        rw [isLike_iff_of_single hfirst.1 hfirst.2] at hlike
        have hne : name ≠ _ := fun heq => hlike (by rw [heq])
        rw [Option.isSome_map, ih, List.mem_cons, or_iff_right hne]

/-- An attribute loses in a group in which an attribute in front of it is populated. -/
theorem losesIn_iff (h : Names group names) :
    ResourceTraits.losesIn ⟨[name]⟩ populated group = true ↔
      name ∈ names ∧ ∃ winner ∈ names.takeWhile (· ≠ name), ⟨[winner]⟩ ∈ populated := by
  induction h with
  | nil => simp [ResourceTraits.losesIn]
  | @cons pattern first group names hfirst hrest ih =>
      have hlike (path : Path) : path.isLike pattern = true ↔ path = ⟨[first]⟩ :=
        isLike_iff_of_single hfirst.1 hfirst.2
      unfold ResourceTraits.losesIn at ih ⊢
      rw [List.findIdx?_cons]
      by_cases heq : first = name
      · subst heq
        simp [(hlike _).2 rfl]
      · have hnot : (⟨[name]⟩ : Path).isLike pattern = false :=
          Bool.eq_false_iff.2 fun htrue => heq (by simpa using ((hlike _).1 htrue).symm)
        have hwinner : populated.any (fun p => p.isLike pattern) = true ↔ ⟨[first]⟩ ∈ populated := by
          simp [List.any_eq_true, hlike]
        have hmem : (group.findIdx? (⟨[name]⟩ : Path).isLike).isSome = true ↔ name ∈ names :=
          isSome_findIdx?_iff hrest
        have hin : name ∈ first :: names ↔ name ∈ names := by
          simp [List.mem_cons, Ne.symm heq]
        rw [hnot, hin, List.takeWhile_cons_of_pos (by simpa using heq)]
        cases hidx : group.findIdx? (⟨[name]⟩ : Path).isLike with
        | none =>
            rw [hidx] at hmem
            simp [← hmem]
        | some i =>
            rw [hidx] at hmem ih
            have hname : name ∈ names := hmem.1 rfl
            simp only [hname, true_and] at ih
            simp only [Bool.false_eq_true, if_false, Option.map_some, List.take_succ_cons,
              List.any_cons, Bool.or_eq_true, hwinner, ih, hname, true_and, List.mem_cons,
              exists_eq_or_imp]

/-! ### Attributes of the resource that are not required -/

/-- A list without objects gives no blocks anything. -/
theorem noBlocks {items : List AttributeTree} (h : items.any AttributeTree.isObject = false)
    (index : Nat) : blocksLack r path index items = false ∧ blockAttributes path index items = [] := by
  induction items generalizing index with
  | nil => exact ⟨rfl, rfl⟩
  | cons item rest ih =>
      rw [List.any_cons, Bool.or_eq_false_iff] at h
      cases item with
      | object entries => cases h.1
      | _ => exact ih h.2 (index + 1)

theorem isWritten_iff (hr : c.isRequired key = false) :
    isWritten c key value = true ↔
      key.computedOnly = false ∧ c.traits.isConflictLoser key.path c.populated = false ∧
        c.traits.isUnconfigurable key.path = false ∧
        (contentOf c.traits key value).isEmpty = false ∧
        (key.shape.isBlock = true → foresees c value = true) := by
  have ht : c.traits.isRequired key.path = false := (Bool.or_eq_false_iff.1 hr).2
  simp only [isWritten, isKept, hr, ResourceTraits.shouldEmit, ht]
  cases key.computedOnly <;> cases c.traits.isConflictLoser key.path c.populated <;>
    cases c.traits.isUnconfigurable key.path <;>
    cases (contentOf c.traits key value).isEmpty <;> cases key.shape.isBlock <;> simp

/-- What is written without being required makes a line. -/
theorem makesLine_of_isWritten
    (hr : c.isRequired (bodyKey r path name tree) = false)
    (hw : isWritten c (bodyKey r path name tree)
      (c.applyDefault (bodyKey r path name tree) (bodyValue r path name tree)) = true) :
    makesLine r path tree = true := by
  obtain ⟨-, -, -, -, hforesees⟩ := (isWritten_iff hr).1 hw
  cases tree with
  | list items =>
      by_contra hnone
      simp only [makesLine, Bool.or_eq_true, decide_eq_true_eq, not_or, not_not,
        Bool.not_eq_true] at hnone
      obtain ⟨hshape, hobjects⟩ := hnone
      have hblock : (bodyKey r path name (.list items)).shape.isBlock = true := by
        rw [bodyKey, Rules.key, hshape]
        rfl
      have hvalue := foresees_value_of_isBlock (c := c) (a := ⟨path, name, .list items⟩) hblock
      have hlacks : Attribute.lacks r ⟨path, name, .list items⟩ = false :=
        (noBlocks hobjects 0).1
      have hinner : Attribute.inner ⟨path, name, .list items⟩ = [] :=
        (noBlocks (r := r) hobjects 0).2
      rw [hlacks, hinner] at hvalue
      have hnothing : foresees c (bodyValue r path name (.list items)) = false := hvalue
      have hahead : c.applyDefault (bodyKey r path name (.list items))
          (bodyValue r path name (.list items)) = bodyValue r path name (.list items) :=
        Attribute.ahead_eq_value_of_isBlock (a := ⟨path, name, .list items⟩) hblock
      rw [hahead, hnothing] at hforesees
      exact absurd (hforesees hblock) Bool.false_ne_true
  | _ => rfl

/-- A name of one segment that a body at the root is found to lack is required. -/
theorem isRequired_of_missing {present : List String} (hstar : '*' ∉ name.toList)
    (h : name ∈ r.missingRequired .root present) : r.traits.isRequired ⟨[name]⟩ = true := by
  obtain ⟨-, pattern, hpattern, hname⟩ := mem_missingRequired_iff.1 h
  refine List.any_eq_true.2 ⟨pattern, hpattern, ?_⟩
  have hparse : Path.parse pattern = ⟨[name]⟩ := by
    simp only [Rules.requiredName?] at hname
    generalize Path.parse pattern = parsed at hname ⊢
    obtain ⟨segments⟩ := parsed
    split at hname
    case isTrue hfound =>
      simp only [Bool.and_eq_true, beq_iff_eq] at hfound
      obtain ⟨segment, rfl⟩ := List.length_eq_one_iff.1 hfound.1.1
      exact congrArg (fun segment => (⟨[segment]⟩ : Path)) (Option.some.inj hname)
    case isFalse => cases hname
  exact (isLike_iff_of_single hparse hstar).2 rfl

/-- The resource has a line for an attribute that is not required if an entry of it is written. -/
theorem mem_lineNames_root (hstar : '*' ∉ name.toList)
    (htraits : r.traits.isRequired ⟨[name]⟩ = false)
    (hr : ∀ tree, c.isRequired (bodyKey r ⟨[name]⟩ name tree) = false) :
    name ∈ lineNames (rootLines c r attributes) ↔
      ∃ tree, (name, tree) ∈ rootEntries attributes ∧
        isWritten c (bodyKey r ⟨[name]⟩ name tree)
          (c.applyDefault (bodyKey r ⟨[name]⟩ name tree) (bodyValue r ⟨[name]⟩ name tree)) =
            true := by
  have hmissing (present : List String) : name ∉ r.missingRequired .root present := fun h => by
    rw [isRequired_of_missing hstar h] at htraits
    cases htraits
  cases attributes with
  | object entries =>
      rw [rootLines, lineNames_append, List.mem_append, lineNames_missingLines,
        or_iff_left (hmissing _), mem_lineNames_bodyLines]
      constructor
      · rintro ⟨tree, hmem, -, hw⟩
        exact ⟨tree, hmem, hw⟩
      · rintro ⟨tree, hmem, hw⟩
        exact ⟨tree, hmem, makesLine_of_isWritten (hr tree) hw, hw⟩
  | null =>
      rw [rootLines, lineNames_missingLines]
      simp [hmissing, rootEntries]
  | _ => simp [rootLines, lineNames, rootEntries]

/-! ### Groups -/

/-- A conflict group of attributes of the resource that neither the rules nor the provider
require. -/
structure IsGroup (r : Rules) (group names : List String) : Prop where
  mem : group ∈ r.traits.conflicts
  isNames : Names group names
  traits : ∀ name ∈ names, r.traits.isRequired ⟨[name]⟩ = false
  schema : ∀ name ∈ names, (r.schema.attributeByPath ⟨[name]⟩).info.required = false

theorem Names.no_star (h : Names group names) (hname : name ∈ names) : '*' ∉ name.toList := by
  induction h with
  | nil => cases hname
  | cons hfirst _ ih =>
      rcases List.mem_cons.1 hname with rfl | hname
      · exact hfirst.2
      · exact ih hname

/-- An attribute loses in its group if one in front of it has content. -/
theorem losesIn_group_iff (h : IsGroup r group names) (hname : name ∈ names) :
    ResourceTraits.losesIn ⟨[name]⟩ (resourceContext r type resource attributes).populated group =
        true ↔
      ∃ winner ∈ names.takeWhile (· ≠ name), HasContent r attributes winner := by
  rw [losesIn_iff h.isNames]
  simp only [hname, true_and, mem_populated_iff]

/-- What an entry holds whose own value has no content and that is written all the same. -/
theorem null_of_written
    (hempty : (contentOf c.traits (bodyKey r path name tree) (bodyValue r path name tree)).isEmpty =
      true)
    (hwritten : (contentOf c.traits (bodyKey r path name tree)
      (c.applyDefault (bodyKey r path name tree) (bodyValue r path name tree))).isEmpty = false) :
    tree = .null ∧ (c.traits.defaultFor path).isSome = true := by
  have hnull : tree = .null := by
    by_contra hne
    have hahead : c.applyDefault (bodyKey r path name tree) (bodyValue r path name tree) =
        bodyValue r path name tree := Attribute.ahead_eq_value (a := ⟨path, name, tree⟩) hne
    rw [hahead, hempty] at hwritten
    cases hwritten
  subst hnull
  refine ⟨rfl, ?_⟩
  by_contra hnone
  have hdefault : c.traits.defaultFor path = none := by simpa using hnone
  have hahead : c.applyDefault (bodyKey r path name .null) (bodyValue r path name .null) =
      [.scalar .null] := by
    change [Event.scalar (c.traits.applyDefault path .null)] = _
    simp [ResourceTraits.applyDefault, hdefault]
  rw [hahead, isEmpty_contentOf_null] at hwritten
  cases hwritten

/-- The first of the names with some property. -/
theorem exists_first {P : String → Prop} (hname : name ∈ names) (h : P name) :
    ∃ first ∈ names, P first ∧ ∀ other ∈ names.takeWhile (· ≠ first), ¬ P other := by
  induction names with
  | nil => cases hname
  | cons head rest ih =>
      by_cases hhead : P head
      · exact ⟨head, List.mem_cons_self, hhead, by simp⟩
      · have hrest : name ∈ rest := by
          rcases List.mem_cons.1 hname with rfl | hrest
          · exact absurd h hhead
          · exact hrest
        obtain ⟨first, hfirst, hP, hbefore⟩ := ih hrest
        have hne : head ≠ first := fun heq => hhead (heq ▸ hP)
        refine ⟨first, List.mem_cons_of_mem _ hfirst, hP, ?_⟩
        rw [List.takeWhile_cons_of_pos (by simpa using hne)]
        exact List.forall_mem_cons.2 ⟨hhead, hbefore⟩

/-- An attribute that is written loses in no group. -/
theorem losesIn_eq_false_of_isWritten (hr : c.isRequired key = false)
    (hw : isWritten c key value = true) (hgroup : group ∈ c.traits.conflicts) :
    ResourceTraits.losesIn key.path c.populated group = false := by
  obtain ⟨-, hloser, -⟩ := (isWritten_iff hr).1 hw
  exact Bool.eq_false_iff.2 (List.any_eq_false.1 hloser group hgroup)

theorem isConflictLoser_eq_false_iff
    (hwins : ResourceTraits.losesIn path populated group = false) :
    r.traits.isConflictLoser path populated = false ↔
      ∀ other ∈ r.traits.conflicts, other ≠ group →
        ResourceTraits.losesIn path populated other = false := by
  rw [ResourceTraits.isConflictLoser, List.any_eq_false]
  constructor
  · intro h other hother _
    exact Bool.eq_false_iff.2 (h other hother)
  · intro h other hother
    by_cases heq : other = group
    · rw [heq, hwins]
      exact Bool.false_ne_true
    · exact Bool.eq_false_iff.1 (h other hother heq)

theorem IsGroup.isRequired_eq_false (h : IsGroup r group names) (hname : name ∈ names)
    (tree : AttributeTree) :
    (resourceContext r type resource attributes).isRequired (bodyKey r ⟨[name]⟩ name tree) =
      false := by
  have htraits : (resourceContext r type resource attributes).traits.isRequired ⟨[name]⟩ = false :=
    h.traits name hname
  simp [Context.isRequired, bodyKey, Rules.key, htraits, h.schema name hname]

theorem IsGroup.mem_lineNames_iff (h : IsGroup r group names) (hname : name ∈ names) :
    name ∈ lineNames (rootLines (resourceContext r type resource attributes) r attributes) ↔
      ∃ tree, (name, tree) ∈ rootEntries attributes ∧
        isWritten (resourceContext r type resource attributes) (bodyKey r ⟨[name]⟩ name tree)
          ((resourceContext r type resource attributes).applyDefault
            (bodyKey r ⟨[name]⟩ name tree) (bodyValue r ⟨[name]⟩ name tree)) = true :=
  mem_lineNames_root (h.isNames.no_star hname) (h.traits name hname) (h.isRequired_eq_false hname)

/-- Behind an attribute with content no attribute of its group is written. -/
theorem IsGroup.not_mem_lineNames {first second : String} (h : IsGroup r group names)
    (hsecond : second ∈ names) (hbefore : first ∈ names.takeWhile (· ≠ second))
    (hcontent : HasContent r attributes first) :
    second ∉ lineNames (rootLines (resourceContext r type resource attributes) r attributes) := by
  intro hwritten
  obtain ⟨tree, -, hw⟩ := (h.mem_lineNames_iff hsecond).1 hwritten
  have hwins := losesIn_eq_false_of_isWritten (h.isRequired_eq_false hsecond tree) hw h.mem
  have hloses : ResourceTraits.losesIn ⟨[second]⟩
      (resourceContext r type resource attributes).populated group = true :=
    (losesIn_group_iff h hsecond).2 ⟨first, hbefore, hcontent⟩
  exact Bool.false_ne_true (hwins.symm.trans hloses)

/-- Of two attributes of a group that are both written the one in front takes a default in place of
null. -/
theorem IsGroup.null_of_both {first second : String} (h : IsGroup r group names)
    (hsecond : second ∈ names) (hbefore : first ∈ names.takeWhile (· ≠ second))
    (hfirst :
      first ∈ lineNames (rootLines (resourceContext r type resource attributes) r attributes))
    (hwritten :
      second ∈ lineNames (rootLines (resourceContext r type resource attributes) r attributes)) :
    (first, .null) ∈ rootEntries attributes ∧ (r.traits.defaultFor ⟨[first]⟩).isSome = true := by
  have hname : first ∈ names := (List.takeWhile_prefix _).subset hbefore
  obtain ⟨tree, hmem, hw⟩ := (h.mem_lineNames_iff hname).1 hfirst
  have hempty : (contentOf r.traits (bodyKey r ⟨[first]⟩ first tree)
      (bodyValue r ⟨[first]⟩ first tree)).isEmpty = true := by
    by_contra hcontent
    exact h.not_mem_lineNames hsecond hbefore ⟨tree, hmem, Bool.eq_false_iff.2 hcontent⟩ hwritten
  obtain ⟨-, -, -, hcontent, -⟩ := (isWritten_iff (h.isRequired_eq_false hname tree)).1 hw
  obtain ⟨rfl, hdefault⟩ :=
    null_of_written (c := resourceContext r type resource attributes) hempty hcontent
  exact ⟨hmem, hdefault⟩

/-- When the first attribute of a group that has content is written. -/
theorem IsGroup.mem_lineNames_first_iff {first : String} (h : IsGroup r group names)
    (hfirst : first ∈ names)
    (hbefore : ∀ other ∈ names.takeWhile (· ≠ first), ¬ HasContent r attributes other) :
    first ∈ lineNames (rootLines (resourceContext r type resource attributes) r attributes) ↔
      r.traits.isUnconfigurable ⟨[first]⟩ = false ∧
      (r.schema.attributeByPath ⟨[first]⟩).isComputedOnly = false ∧
      (∀ other ∈ r.traits.conflicts, other ≠ group → ResourceTraits.losesIn ⟨[first]⟩
        (resourceContext r type resource attributes).populated other = false) ∧
      ∃ tree, (first, tree) ∈ rootEntries attributes ∧
        (contentOf r.traits (bodyKey r ⟨[first]⟩ first tree)
          ((resourceContext r type resource attributes).applyDefault
            (bodyKey r ⟨[first]⟩ first tree) (bodyValue r ⟨[first]⟩ first tree))).isEmpty =
              false ∧
        ((bodyKey r ⟨[first]⟩ first tree).shape.isBlock = true →
          foresees (resourceContext r type resource attributes)
            (bodyValue r ⟨[first]⟩ first tree) = true) := by
  refine (h.mem_lineNames_iff hfirst).trans ?_
  have hwins : ResourceTraits.losesIn ⟨[first]⟩
      (resourceContext r type resource attributes).populated group = false := by
    refine Bool.eq_false_iff.2 fun hloses => ?_
    obtain ⟨winner, hwinner, hwinnerContent⟩ := (losesIn_group_iff h hfirst).1 hloses
    exact hbefore winner hwinner hwinnerContent
  rw [← isConflictLoser_eq_false_iff hwins]
  have hforesees (tree : AttributeTree) :
      ((bodyKey r ⟨[first]⟩ first tree).shape.isBlock = true →
        foresees (resourceContext r type resource attributes)
          ((resourceContext r type resource attributes).applyDefault
            (bodyKey r ⟨[first]⟩ first tree) (bodyValue r ⟨[first]⟩ first tree)) = true) ↔
      ((bodyKey r ⟨[first]⟩ first tree).shape.isBlock = true →
        foresees (resourceContext r type resource attributes)
          (bodyValue r ⟨[first]⟩ first tree) = true) := by
    refine forall_congr' fun hblock => ?_
    have hahead := Attribute.ahead_eq_value_of_isBlock
      (c := resourceContext r type resource attributes) (a := ⟨⟨[first]⟩, first, tree⟩) hblock
    exact iff_of_eq (congrArg (fun value => foresees _ value = true) hahead)
  constructor
  · rintro ⟨tree, hmem, hw⟩
    obtain ⟨honly, hloser, hconfigurable, hnonempty, hblock⟩ :=
      (isWritten_iff (h.isRequired_eq_false hfirst tree)).1 hw
    exact ⟨hconfigurable, honly, hloser, tree, hmem, hnonempty, (hforesees tree).1 hblock⟩
  · rintro ⟨hconfigurable, honly, hloser, tree, hmem, hnonempty, hblock⟩
    exact ⟨tree, hmem, (isWritten_iff (h.isRequired_eq_false hfirst tree)).2
      ⟨honly, hloser, hconfigurable, hnonempty, (hforesees tree).2 hblock⟩⟩

/-- Of two attributes of a group that are both written the one in front takes a default in place of
null. Where some attribute of the group has content, the first that has wins: none behind it is
written, and it is itself, unless it is unconfigurable, computed by the provider, the loser in another
group, or blocks in which the lookahead foresees nothing. -/
theorem conflict_group_resolved (h : IsGroup r group names) :
    write r.traits (r.events type resource attributes) =
        .ok (resourceOpening type resource ++
          linesText 1 (rootLines (resourceContext r type resource attributes) r attributes) ++
            "\x7d\n\n") ∧
    (∀ second ∈ names, ∀ first ∈ names.takeWhile (· ≠ second),
      first ∈ lineNames (rootLines (resourceContext r type resource attributes) r attributes) →
      second ∈ lineNames (rootLines (resourceContext r type resource attributes) r attributes) →
        (first, .null) ∈ rootEntries attributes ∧
          (r.traits.defaultFor ⟨[first]⟩).isSome = true) ∧
    (∀ name ∈ names, HasContent r attributes name →
      ∃ first ∈ names, HasContent r attributes first ∧
        (∀ other ∈ names.takeWhile (· ≠ first), ¬ HasContent r attributes other) ∧
        (∀ other ∈ names, first ∈ names.takeWhile (· ≠ other) →
          other ∉ lineNames (rootLines (resourceContext r type resource attributes) r attributes)) ∧
        (first ∈ lineNames (rootLines (resourceContext r type resource attributes) r attributes) ↔
          r.traits.isUnconfigurable ⟨[first]⟩ = false ∧
          (r.schema.attributeByPath ⟨[first]⟩).isComputedOnly = false ∧
          (∀ other ∈ r.traits.conflicts, other ≠ group → ResourceTraits.losesIn ⟨[first]⟩
            (resourceContext r type resource attributes).populated other = false) ∧
          ∃ tree, (first, tree) ∈ rootEntries attributes ∧
            (contentOf r.traits (bodyKey r ⟨[first]⟩ first tree)
              ((resourceContext r type resource attributes).applyDefault
                (bodyKey r ⟨[first]⟩ first tree) (bodyValue r ⟨[first]⟩ first tree))).isEmpty =
                  false ∧
            ((bodyKey r ⟨[first]⟩ first tree).shape.isBlock = true →
              foresees (resourceContext r type resource attributes)
                (bodyValue r ⟨[first]⟩ first tree) = true))) := by
  refine ⟨events_text r.traits r.schema type resource attributes, ?_, ?_⟩
  · intro second hsecond first hbefore hfirst hwritten
    exact h.null_of_both hsecond hbefore hfirst hwritten
  · intro name hname hcontent
    obtain ⟨first, hfirst, hfirstContent, hbefore⟩ := exists_first hname hcontent
    refine ⟨first, hfirst, hfirstContent, hbefore, ?_, h.mem_lineNames_first_iff hfirst hbefore⟩
    intro other hother hbehind
    exact h.not_mem_lineNames hother hbehind hfirstContent

/-- Rules by which `a` and `b` exclude each other. -/
def pairRules (unconfigurable : List String) : Rules :=
  ⟨{ ResourceTraits.none "t" with conflicts := [["a", "b"]], unconfigurable := unconfigurable }, []⟩

theorem isGroup_pairRules (unconfigurable : List String) :
    IsGroup (pairRules unconfigurable) ["a", "b"] ["a", "b"] where
  mem := List.mem_cons_self
  isNames := .cons ⟨by decide, by decide⟩ (.cons ⟨by decide, by decide⟩ .nil)
  traits _ _ := rfl
  schema _ _ := rfl

theorem conflict_group_resolved_pair :
    "a" ∈ lineNames (rootLines (resourceContext (pairRules []) "t" "n"
        (.object [("a", .string "x"), ("b", .string "x")])) (pairRules [])
          (.object [("a", .string "x"), ("b", .string "x")])) ∧
      "b" ∉ lineNames (rootLines (resourceContext (pairRules []) "t" "n"
        (.object [("a", .string "x"), ("b", .string "x")])) (pairRules [])
          (.object [("a", .string "x"), ("b", .string "x")])) := by
  obtain ⟨-, hpair, hwinner⟩ := @conflict_group_resolved (pairRules []) "t" "n" ["a", "b"] ["a", "b"]
    (.object [("a", .string "x"), ("b", .string "x")]) (isGroup_pairRules [])
  have hcontent : HasContent (pairRules []) (.object [("a", .string "x"), ("b", .string "x")]) "a" :=
    ⟨.string "x", List.mem_cons_self, by rfl⟩
  obtain ⟨first, hfirst, -, hbefore, -, hiff⟩ := hwinner "a" List.mem_cons_self hcontent
  have heq : first = "a" := by
    rcases List.mem_cons.1 hfirst with rfl | hfirst
    · rfl
    · obtain rfl := List.mem_singleton.1 hfirst
      exact absurd hcontent (hbefore "a" List.mem_cons_self)
  subst heq
  have hwritten := hiff.2 ⟨by decide, rfl, by decide, .string "x", List.mem_cons_self, by rfl, nofun⟩
  refine ⟨hwritten, fun hb => ?_⟩
  obtain ⟨hnull, -⟩ := hpair "b" (by decide) "a" (by decide) hwritten hb
  simp [rootEntries] at hnull

/-- Neither attribute of a pair is written where the first has content and must not be set. -/
theorem no_member_written :
    write (pairRules ["a"]).traits ((pairRules ["a"]).events "t" "n"
        (.object [("a", .string "x"), ("b", .string "x")])) =
      .ok (resourceOpening "t" "n" ++ "" ++ "\x7d\n\n") ∧
      IsGroup (pairRules ["a"]) ["a", "b"] ["a", "b"] ∧
      HasContent (pairRules ["a"]) (.object [("a", .string "x"), ("b", .string "x")]) "b" ∧
      (pairRules ["a"]).traits.isUnconfigurable ⟨["b"]⟩ = false ∧
      ((pairRules ["a"]).schema.attributeByPath ⟨["b"]⟩).isComputedOnly = false := by
  have hlines : rootLines (resourceContext (pairRules ["a"]) "t" "n"
      (.object [("a", .string "x"), ("b", .string "x")])) (pairRules ["a"])
        (.object [("a", .string "x"), ("b", .string "x")]) = [] := by rfl
  have htext := events_text (pairRules ["a"]).traits (pairRules ["a"]).schema "t" "n"
    (.object [("a", .string "x"), ("b", .string "x")])
  change write _ _ = .ok (_ ++ linesText 1 (rootLines (resourceContext (pairRules ["a"]) "t" "n" _)
    (pairRules ["a"]) _) ++ _) at htext
  rw [hlines] at htext
  exact ⟨htext, isGroup_pairRules ["a"], ⟨.string "x", by simp [rootEntries], by rfl⟩, by decide, rfl⟩

end StackExport.Proofs.ConflictGroups
