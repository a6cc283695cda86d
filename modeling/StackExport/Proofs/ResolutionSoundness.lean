import Mathlib
import StackExport.Proofs.ResolutionWalk
/-!
Resolution is sound.

The attributes of a mapped resource become what `Linked` says, the answer counts the references, and
there is one warning for each value met whose call cannot be rendered.
-/
namespace StackExport.Proofs.ResolutionSoundness

open StackExport
open StackExport.Resolution
open StackExport.Proofs.RenderingIndependence
open StackExport.Proofs.LinkedTree
open StackExport.Proofs.ResolutionWalk

variable {s : Stack} {calls : List Intrinsic} {initial : List Candidate} {c : RenderContext}

/-- The calls among the properties of the declaration of a resource. -/
def callsOf (c : RenderContext) (m : ResourceMapping) : List Intrinsic :=
  match c.template.resource? m.logicalId with
  | some r => r.properties.intrinsics
  | none => []

/-- The warning about the call that stands for a value, if it cannot be rendered. -/
def failure? (c : RenderContext) (s : Stack) (calls : List Intrinsic) (address : String)
    (v : Evaluated) : Option Diagnostic :=
  match claimant s calls v with
  | none => none
  | some call =>
    match rendering c call with
    | .ok _ => none
    | .error e => some (.warning (some address) ("could not render " ++ call.tag) e.message)

/-- There is one warning for each value met whose call cannot be rendered, and no other. -/
def WarnsOnce (failure? : Evaluated → Option Diagnostic) (met : List Evaluated)
    (warnings : Diagnostics) : Prop :=
  ∃ failed : List Evaluated, failed.Nodup ∧
    (∀ v, v ∈ failed ↔ v ∈ met ∧ (failure? v).isSome) ∧
    warnings.map some = failed.map failure?

/-- The attributes became what they should, with the given values met. -/
structure SoundlyResolved (c : RenderContext) (s : Stack) (m : ResourceMapping)
    (traits : ResourceTraits) (attributes : AttributeTree) (met : List Evaluated)
    (resolved : Resolved) : Prop where
  linked : Linked traits (link c s (callsOf c m)) (.attributes .root) attributes
    resolved.attributes resolved.replaced met
  warned : WarnsOnce (failure? c s (callsOf c m) m.address) met resolved.warnings

theorem warnings_settled (h : Claims s calls initial) (address : String) (met : List Evaluated) :
    (settled c initial met).filterMap (Candidate.warning? address) =
      (initial.map Candidate.evaluated).filterMap fun v =>
        if v ∈ met then failure? c s calls address v else none := by
  rw [settled, List.filterMap_map, List.filterMap_map]
  refine List.filterMap_congr fun k hk => ?_
  simp only [Function.comp_apply]
  by_cases hmet : k.evaluated ∈ met
  · rw [if_pos hmet, if_pos hmet, failure?, h.claimant_of_mem hk, Candidate.warning?]
    dsimp only
    cases rendering c k.call <;> rfl
  · rw [if_neg hmet, if_neg hmet, Candidate.warning?, h.unrendered k hk]

theorem map_some_filterMap {α : Type} (f : Evaluated → Option α) (met values : List Evaluated) :
    (values.filterMap fun v => if v ∈ met then f v else none).map some =
      (values.filter fun v => v ∈ met ∧ (f v).isSome).map f := by
  induction values with
  | nil => rfl
  | cons v values ih =>
      by_cases hmet : v ∈ met
      · cases hv : f v <;> simp [hmet, hv, ih]
      · simp [hmet, ih]

theorem resolve_eq (c : RenderContext) (s : Stack) (m : ResourceMapping) (traits : ResourceTraits)
    (attributes : AttributeTree) (declarations : Declarations)
    (hinitial : Candidate.ofCalls s (callsOf c m) = initial) :
    resolve c s m traits attributes declarations =
      if initial.isEmpty then ⟨attributes, declarations, [], 0⟩
      else
        let run := walk c traits .root attributes ⟨initial, declarations, 0⟩
        ⟨run.1, run.2.declarations, run.2.candidates.filterMap (Candidate.warning? m.address),
          run.2.replaced⟩ := by
  rw [callsOf] at hinitial
  rw [resolve]
  cases hr : c.template.resource? m.logicalId with
  | none =>
      rw [hr] at hinitial
      subst hinitial
      rfl
  | some r =>
      rw [hr] at hinitial
      subst hinitial
      rfl

/-- A resource with a call that has a result is walked. -/
theorem exists_soundlyResolved (c : RenderContext) (s : Stack) (m : ResourceMapping)
    (traits : ResourceTraits) (attributes : AttributeTree) (declarations : Declarations)
    (hne : Candidate.ofCalls s (callsOf c m) ≠ []) :
    ∃ met, SoundlyResolved c s m traits attributes met
      (resolve c s m traits attributes declarations) := by
  have hclaims := claims_ofCalls s (callsOf c m)
  generalize hinitial : Candidate.ofCalls s (callsOf c m) = initial at hclaims hne
  have hempty : ¬ initial.isEmpty = true := by simpa using hne
  rw [resolve_eq c s m traits attributes declarations hinitial, if_neg hempty]
  obtain ⟨n, met, hlinked, hfollows⟩ := meets_walk traits hclaims .root attributes [] 0
    ⟨initial, declarations, 0⟩ ⟨settled_nil.symm, rfl⟩
  rw [List.nil_append, Nat.zero_add] at hfollows
  refine ⟨met, ?_, (initial.map Candidate.evaluated).filter fun v =>
    v ∈ met ∧ (failure? c s (callsOf c m) m.address v).isSome, hclaims.nodup.filter _, ?_, ?_⟩
  · rw [← hfollows.replaced_eq] at hlinked
    exact hlinked
  · intro v
    rw [List.mem_filter, decide_eq_true_iff, and_iff_right_iff_imp]
    rintro ⟨-, hfailure⟩
    cases hclaim : claimant s (callsOf c m) v with
    | none => simp [failure?, hclaim] at hfailure
    | some call => exact hclaims.mem_of_claimant hclaim
  · rw [← map_some_filterMap, ← warnings_settled hclaims, ← hfollows.candidates_eq]

/-- Without a call that has a value nothing happens, and otherwise the attributes are soundly
resolved. -/
theorem unchanged_or_soundlyResolved (c : RenderContext) (s : Stack) (m : ResourceMapping)
    (traits : ResourceTraits) (attributes : AttributeTree) (declarations : Declarations) :
    (∀ call ∈ callsOf c m, result? s call = none) ∧
        (resolve c s m traits attributes declarations).attributes = attributes ∧
        (resolve c s m traits attributes declarations).replaced = 0 ∧
        (resolve c s m traits attributes declarations).warnings = [] ∨
      ∃ met, SoundlyResolved c s m traits attributes met
        (resolve c s m traits attributes declarations) := by
  by_cases hne : Candidate.ofCalls s (callsOf c m) = []
  · left
    rw [resolve_eq c s m traits attributes declarations hne]
    exact ⟨result?_eq_none_of_ofCalls hne, rfl, rfl, rfl⟩
  · right
    exact exists_soundlyResolved c s m traits attributes declarations hne

/-- Only calls of the resource's declaration that evaluate to a value and can be rendered take its
place; without a call that has a value nothing happens, and otherwise the attributes are soundly
resolved. -/
theorem resolve_sound (c : RenderContext) (s : Stack) (m : ResourceMapping)
    (traits : ResourceTraits) (attributes : AttributeTree) (declarations : Declarations) :
    (∀ v r, link c s (callsOf c m) v = some r →
        ∃ call ∈ callsOf c m, result? s call = some v ∧ rendering c call = .ok r) ∧
      ((∀ call ∈ callsOf c m, result? s call = none) ∧
          (resolve c s m traits attributes declarations).attributes = attributes ∧
          (resolve c s m traits attributes declarations).replaced = 0 ∧
          (resolve c s m traits attributes declarations).warnings = [] ∨
        ∃ met, SoundlyResolved c s m traits attributes met
          (resolve c s m traits attributes declarations)) :=
  ⟨fun _ _ h => exists_call_of_link h,
    unchanged_or_soundlyResolved c s m traits attributes declarations⟩

/-! ### Where values are not left alone -/

/-- A template with one look-up table and one resource `Thing` that has a call among its
properties. -/
def tableTemplate (call : Intrinsic) : Template :=
  { Template.empty with
    mappings := [("M", .object [("t", .object [("s", .array [.string "x", .string "y"])])])]
    resources := [⟨"Thing", "T", .object [("P", .intrinsic call)], [], none⟩] }

def thing : ResourceMapping := ⟨"Thing", "T", "test_thing", "t", none⟩

def tableContext (call : Intrinsic) : RenderContext :=
  ⟨tableTemplate call, [thing], ⟨.none "", []⟩, []⟩

/-- The stack also has a resource `Other` that is mapped to nothing. -/
def tableStack (call : Intrinsic) : Stack :=
  ⟨tableTemplate call, ⟨"", "", "", "", "", none⟩, ⟨.none "", []⟩,
    [("Other", ⟨"test_other", "[]", none⟩)], []⟩

def unconfigurableAt (pattern : String) : ResourceTraits :=
  { ResourceTraits.none "test_thing" with unconfigurable := [pattern] }

def lookUp : Intrinsic := .findInMap (.string "M") (.string "t") (.string "s")

theorem list_replaced (traits : ResourceTraits)
    (hroot : (Scope.attributes .root).isOpaque traits = false)
    (hnames : ((Scope.attributes .root).child "names").isOpaque traits = false) :
    (resolve (tableContext lookUp) (tableStack lookUp) thing traits
        (.object [("names", .list [.string "x", .string "y"])]) []).attributes =
      .object [("names", .reference (.map "local.mappings.M.t.s"))] := by
  have hcalls : Candidate.ofCalls (tableStack lookUp) (callsOf (tableContext lookUp) thing) =
      [⟨lookUp, .list ["x", "y"], none⟩] := by cbv
  obtain ⟨met, hlinked, -⟩ := exists_soundlyResolved (tableContext lookUp)
    (tableStack lookUp) thing traits (.object [("names", .list [.string "x", .string "y"])]) []
    (by simp [hcalls])
  obtain ⟨item, n, met', hafter, hitem⟩ := hlinked.of_object_singleton hroot
  rw [hafter, hitem.eq_reference hnames rfl (by cbv)]

theorem document_expanded (traits : ResourceTraits)
    (hroot : (Scope.attributes .root).isOpaque traits = false)
    (hp : ((Scope.attributes .root).child "p").isOpaque traits = false) :
    (resolve (tableContext (.ref "Other")) (tableStack (.ref "Other")) thing traits
        (.object [("p", .string "[]")]) []).attributes =
      .object [("p", .document (.list []))] := by
  have hcalls : Candidate.ofCalls (tableStack (.ref "Other"))
      (callsOf (tableContext (.ref "Other")) thing) = [⟨.ref "Other", .text "[]", none⟩] := by cbv
  obtain ⟨met, hlinked, -⟩ := exists_soundlyResolved (tableContext (.ref "Other"))
    (tableStack (.ref "Other")) thing traits (.object [("p", .string "[]")]) [] (by simp [hcalls])
  obtain ⟨item, n, met', hafter, hitem⟩ := hlinked.of_object_singleton hroot
  have hdocument : Json.document? "[]" = some (.array []) := by cbv
  obtain ⟨inner, met'', rfl, hinner⟩ := hitem.exists_document hp (by cbv) hdocument
  change Linked _ _ .document (.list []) _ _ _ at hinner
  rw [hafter]
  cases hinner with
  | untouched => rfl
  | reference _ hv => cases hv
  | leaf _ hleaf => exact hleaf.elim
  | list _ _ hitems =>
      cases hitems
      rfl

/-- A list of strings is replaced whole although its first item stands at an unconfigurable path,
the parts of a body are resolved although the root is unconfigurable, and a string that holds a
document is expanded although the call that stands for it cannot be rendered. -/
theorem unconfigurable_and_failed_not_untouched :
    ((unconfigurableAt "names.0").isUnconfigurable ⟨["names", "0"]⟩ = true ∧
      (resolve (tableContext lookUp) (tableStack lookUp) thing (unconfigurableAt "names.0")
          (.object [("names", .list [.string "x", .string "y"])]) []).attributes =
        .object [("names", .reference (.map "local.mappings.M.t.s"))]) ∧
    ((unconfigurableAt "").isUnconfigurable .root = true ∧
      (resolve (tableContext lookUp) (tableStack lookUp) thing (unconfigurableAt "")
          (.object [("names", .list [.string "x", .string "y"])]) []).attributes =
        .object [("names", .reference (.map "local.mappings.M.t.s"))]) ∧
    (claimant (tableStack (.ref "Other")) (callsOf (tableContext (.ref "Other")) thing)
          (.text "[]") = some (.ref "Other") ∧
      rendering (tableContext (.ref "Other")) (.ref "Other") =
        .error (.unresolvedReference "Other") ∧
      (resolve (tableContext (.ref "Other")) (tableStack (.ref "Other")) thing (.none "test_thing")
          (.object [("p", .string "[]")]) []).attributes =
        .object [("p", .document (.list []))]) := by
  refine ⟨⟨by cbv, ?_⟩, ⟨by cbv, ?_⟩, by cbv, by cbv, ?_⟩
  · exact list_replaced _ (by cbv) (by cbv)
  · exact list_replaced _ (by cbv) (by cbv)
  · exact document_expanded _ (by cbv) (by cbv)

end StackExport.Proofs.ResolutionSoundness
