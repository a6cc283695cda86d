import Mathlib
import StackExport.Proofs.ReferenceMeaning
import StackExport.Proofs.RenderingResult
/-!
References, attributes and look-ups are rendered as what stands for their values.
-/
namespace StackExport.Proofs.ReferenceAgreement

open StackExport
open StackExport.RenderContext
open StackExport.Proofs.ReferenceMeaning
open StackExport.Proofs.RenderingResult
open StackExport.Proofs.Traversal
open StackExport.Proofs.WholeNumbers

/-! ### What is asked of a value -/

/-- The value itself, or the element of a list that an index asks for. -/
def pick (v : Json) : Option Nat → Option Json
  | none => some v
  | some i => (Stack.listItems? v).bind fun items => items[i]?

/-- Selections below this bound are exact where they are written as numbers. -/
def indexBound : Nat := 2 ^ 53

variable {c : RenderContext} {s : Stack}

theorem eq_array_of_listItems? {v : Json} {items : List Json}
    (h : Stack.listItems? v = some items) : v = .array items := by
  cases v with
  | array _ =>
      cases h
      rfl
  | _ => cases h

theorem eq_of_pick_string {text : String} {index : Option Nat} {w : Json}
    (h : pick (.string text) index = some w) : index = none ∧ w = .string text := by
  cases index with
  | none => exact ⟨rfl, (Option.some.inj h).symm⟩
  | some i => cases h

theorem elementAt_of_pick {v w : Json} {index : Option Nat} (h : pick v index = some w) :
    elementAt v index = some w := by
  cases index with
  | none => exact h
  | some i =>
      obtain ⟨items, hitems, hw⟩ := Option.bind_eq_some_iff.mp h
      obtain rfl := eq_array_of_listItems? hitems
      simpa [elementAt, part?, Stack.indexOf?, Number.word?] using hw

/-- An expression with a value renders as something that stands for what is asked of it. -/
def Means (c : RenderContext) (s : Stack) (x : Rendering Reference) (value : Option Json)
    (index : Option Nat) : Prop :=
  Returns x fun r => ∀ v w, value = some v → pick v index = some w → meaning c.mappings s r = some w

theorem numberValue_index {i : Nat} (hi : i < indexBound) :
    Stack.numberValue (UInt64.ofNat i).toFloat = .number (.int i) := by
  have hsmall : (i : Int).natAbs < Nat.pow 2 63 := by
    simp only [indexBound] at hi
    simp only [Int.natAbs_natCast, Nat.pow_eq]
    omega
  rw [Stack.numberValue, whole?_toFloat hi]
  simp only [if_pos hsmall]

theorem meaning_element {r : Reference} {items : List Json} {i : Nat} {w : Json}
    (hi : i < indexBound) (hr : meaning c.mappings s r = some (.array items))
    (hw : items[i]? = some w) :
    meaning c.mappings s (.call "element" [.reference r, .number (UInt64.ofNat i).toFloat]) =
      some w := by
  obtain ⟨hlt, -⟩ := List.getElem?_eq_some_iff.mp hw
  simp [Reference.call, meaning, meanings, meaningOf, hr, numberValue_index hi, callResult?, Stack.indexOf?,
    Number.word?, Nat.mod_eq_of_lt hlt, hw, elementAt]

theorem meaning_indexed_indirect {path : String} {index : Option Nat} {v w : Json}
    (hindex : ∀ i ∈ index, i < indexBound) (hv : meaning c.mappings s (.indirect path) = some v)
    (hw : pick v index = some w) :
    meaning c.mappings s (indexed (.indirect path) index) = some w := by
  cases index with
  | none =>
      cases hw
      exact hv
  | some i =>
      obtain ⟨items, hitems, hw⟩ := Option.bind_eq_some_iff.mp hw
      obtain rfl := eq_array_of_listItems? hitems
      exact meaning_element (hindex i rfl) hv hw

theorem meaning_indexed_call {name : String} {args : List Argument} {values : List Json}
    {index : Option Nat} {v w : Json} (hvalues : meanings c.mappings s args = some values)
    (hv : callResult? name values = some v) (hw : pick v index = some w) :
    meaning c.mappings s (indexed (.call name args) index) = some w := by
  have hindexed : indexed (.call name args) index = .function name args index := by
    cases index <;> rfl
  rw [hindexed, meaning, hvalues]
  simp only [Option.bind_eq_bind, Option.bind_some]
  rw [hv]
  exact elementAt_of_pick hw

/-! ### References -/

theorem startsWith_of_isNameRest {name : String} (h : ∀ l ∈ name.toList, Text.isNameRest l = true) :
    name.startsWith "AWS::" = false := by
  rw [String.startsWith_string_eq_false_iff]
  intro hprefix
  have hcolon : ':' ∈ name.toList := hprefix.subset (by decide)
  exact absurd (h ':' hcolon) (by decide)

/-- A reference that stands for what its name has as its value, also where only its text is read. -/
structure Refers (c : RenderContext) (s : Stack) (name : String) (index : Option Nat)
    (r : Reference) : Prop where
  meaning_eq : ∀ v w, s.evaluateRef name = some v → pick v index = some w →
    meaning c.mappings s r = some w
  plain : index = none → (Step.computed r.expression).Plain
  named_eq : index = none → ∀ v, s.evaluateRef name = some v →
    named? c.mappings s r.expression = some v

theorem refers_dataSource {name type source field : String} {index : Option Nat}
    (haws : name.startsWith "AWS::") (hsource : pseudoSource? name = some (type, source, field)) :
    Refers c s name index (.dataSource type source field true) := by
  have hvalue : s.evaluateRef name = (s.pseudo.get? name).map .string := by
    rw [Stack.evaluateRef, if_pos haws]
  obtain ⟨hmeaning, hnamed, hplain⟩ := source?_of_pseudoSource? (c := c) (s := s) hsource
  constructor
  · intro v w hv hw
    rw [hvalue] at hv
    obtain ⟨text, -, rfl⟩ := Option.map_eq_some_iff.mp hv
    obtain ⟨-, rfl⟩ := eq_of_pick_string hw
    rw [meaning, hmeaning, hv]
  · intro _
    rw [Reference.expression]
    exact hplain
  · intro _ v hv
    rw [Reference.expression, hnamed, hmeaning, ← hvalue, hv]

theorem refers_variable {name : String} {index : Option Nat}
    (hname : ∀ l ∈ name.toList, Text.isNameRest l = true) :
    Refers c s name index (.variable name index) := by
  have hexpression : Reference.expression (.variable name none) = "var." ++ name := by
    simp [Reference.expression, indexSuffix]
  constructor
  · intro v w hv hw
    rw [meaning, hv]
    exact elementAt_of_pick hw
  · rintro rfl
    have hword : ∀ l ∈ "var".toList, Text.isNameRest l = true := by
      simp
      decide
    have hsplit : "var." ++ name = "var" ++ "." ++ name := by simp
    rw [hexpression, hsplit]
    exact plain_computed_append hword fun l hl => Or.inl (hname l hl)
  · rintro rfl v hv
    rw [hexpression, named?_variable, hv]

theorem refers_resource (h : Describes c s) {m : ResourceMapping} (hm : m ∈ c.mappings)
    (haws : ¬ m.logicalId.startsWith "AWS::") (hp : s.template.parameter? m.logicalId = none)
    {index : Option Nat} : Refers c s m.logicalId index (indexed (.direct m.address) index) := by
  have hvalue : s.evaluateRef m.logicalId =
      (lookup? m.logicalId s.resources).map fun r => .string r.physicalId := by
    rw [Stack.evaluateRef, if_neg haws, hp]
  have hexpression : Reference.expression (.direct m.address) = m.address ++ ".id" := by
    rw [Reference.expression]
  constructor
  · intro v w hv hw
    rw [hvalue] at hv
    obtain ⟨r, -, rfl⟩ := Option.map_eq_some_iff.mp hv
    obtain ⟨rfl, rfl⟩ := eq_of_pick_string hw
    rw [indexed, meaning, attribute?_id h hm, hv]
  · rintro rfl
    rw [indexed, hexpression]
    exact plain_address_id h hm
  · rintro rfl v hv
    rw [indexed, hexpression, named?_id h hm, attribute?_id h hm, ← hvalue, hv]

theorem refers_renderRef (h : Describes c s) (name : String) (index : Option Nat) :
    Returns (c.renderRef name index) (Refers c s name index) := by
  unfold renderRef
  split_ifs with haws
  · split
    · next type source field hsource =>
        exact (returns_any _).bind fun _ _ => returns_pure (refers_dataSource haws hsource)
    · exact returns_throw _
  · split
    · next p hp =>
        rw [h.template] at hp
        obtain ⟨hmem, rfl⟩ := mem_of_parameter? hp
        refine (returns_any _).bind fun _ _ => ?_
        rw [if_neg (by simp [h.given p hmem])]
        exact returns_pure (refers_variable (h.names p hmem))
    · next hp =>
        rw [h.template] at hp
        refine (returns_lift fun m hm => mem_of_mappingOf hm).bind ?_
        rintro m ⟨hm, rfl⟩
        exact returns_pure (refers_resource h hm haws hp)

theorem exists_text_of_bind {β : Type} {e : Expr} {f : String → Option β} {w : β}
    (h : ((s.evaluate e).bind fun v => v.scalarText?.bind f) = some w) :
    ∃ text, s.evaluateText e = some text ∧ f text = some w := by
  obtain ⟨v, hv, h⟩ := Option.bind_eq_some_iff.mp h
  obtain ⟨text, htext, h⟩ := Option.bind_eq_some_iff.mp h
  refine ⟨text, ?_, h⟩
  rw [Stack.evaluateText, hv]
  exact htext

/-! ### Attributes -/

theorem string_of_parameterValue {p : Parameter} {v : Json} {text : String}
    (hv : Stack.parameterValue p = some v) (htext : v.scalarText? = some text) :
    p.value = some text ∧ v = .string text := by
  obtain ⟨value, hvalue, rfl⟩ := Option.map_eq_some_iff.mp hv
  split_ifs at htext ⊢
  · cases htext
  · cases htext
    exact ⟨hvalue, rfl⟩

theorem string_of_evaluateRef {name text : String} {v : Json} (hv : s.evaluateRef name = some v)
    (htext : v.scalarText? = some text) : v = .string text := by
  unfold Stack.evaluateRef at hv
  split_ifs at hv
  · obtain ⟨t, -, rfl⟩ := Option.map_eq_some_iff.mp hv
    cases htext
    rfl
  · split at hv
    · exact (string_of_parameterValue hv htext).2
    · obtain ⟨r, -, rfl⟩ := Option.map_eq_some_iff.mp hv
      cases htext
      rfl

theorem fieldName_eq (h : Describes c s) {field : Expr} {name : String}
    (hname : c.fieldName field = .ok name) {text : String}
    (htext : s.evaluateText field = some text) : name = text := by
  unfold fieldName at hname
  split at hname
  · cases hname
    exact Option.some.inj htext
  · next parameter =>
      split at hname
      · next value hvalue =>
          cases hname
          rw [h.template] at hvalue
          obtain ⟨p, hp, hname⟩ := Option.bind_eq_some_iff.mp hvalue
          obtain ⟨hmem, rfl⟩ := mem_of_parameter? hp
          obtain ⟨v, hv, hscalar⟩ := Option.bind_eq_some_iff.mp htext
          rw [Stack.evaluate, Stack.evaluateCall, Stack.evaluateRef,
            startsWith_of_isNameRest (h.names p hmem), hp] at hv
          obtain ⟨hsame, -⟩ := string_of_parameterValue hv hscalar
          rw [hname] at hsame
          exact Option.some.inj hsame
      · cases hname
  · cases hname

theorem renderField_eq {resource name : String} {r : Reference}
    (hname : Text.dropStart? outputQualifier name = none)
    (hr : c.renderField resource name = .ok r) :
    ∃ m ∈ c.mappings, m.logicalId = resource ∧
      r = .indirect (m.address ++ "." ++ (c.table.get m.type).mapAttributeName name) := by
  have hmodule : c.moduleOutput? resource name = none := by
    rw [moduleOutput?, hname]
    rfl
  rw [renderField, hmodule] at hr
  rcases hm : c.mappingOf resource with e | m
  · rw [hm] at hr
    cases hr
  · rw [hm, hname] at hr
    cases hr
    obtain ⟨hmem, hid⟩ := mem_of_mappingOf hm
    exact ⟨m, hmem, hid, rfl⟩

theorem means_getAtt (h : Describes c s) {resource : String} {field : Expr}
    (hplain : ∀ name, s.evaluateText field = some name →
      Text.dropStart? outputQualifier name = none)
    {index : Option Nat}
    (hindex : ∀ i ∈ index, i < indexBound) :
    Means c s (c.render (.getAtt resource field) index)
      (s.evaluateCall (.getAtt resource field)) index := by
  rw [render]
  refine (returns_lift fun name hname => hname).bind fun name hname => ?_
  refine (returns_lift fun r hr => hr).bind fun r hr => returns_pure ?_
  intro v w hv hw
  rw [Stack.evaluateCall] at hv
  obtain ⟨text, htext, hv⟩ := exists_text_of_bind hv
  obtain rfl := fieldName_eq h hname htext
  obtain ⟨m, hm, rfl, rfl⟩ := renderField_eq (hplain name htext) hr
  obtain ⟨live, hlive, hv⟩ := Option.bind_eq_some_iff.mp hv
  refine meaning_indexed_indirect hindex ?_ hw
  rw [meaning, attribute?_address h hm, hlive, Option.bind_some, h.table, ← h.live m hm live hlive]
  exact hv

/-! ### Look-ups -/

theorem writes_renderKey (h : Describes c s) (e : Expr) :
    Returns (c.renderKey e) fun text => ∃ step, text = step.write ∧ step.Plain ∧
      ∀ key, s.evaluateText e = some key →
        ∀ v, stepInto c.mappings s v step = part? v (.string key) := by
  cases e with
  | string key =>
      rw [renderKey]
      refine returns_pure ⟨.entry key, rfl, trivial, ?_⟩
      intro text htext v
      cases htext
      rfl
  | intrinsic inner =>
      cases inner with
      | ref name =>
          rw [renderKey]
          refine (refers_renderRef h name none).bind fun r hr => returns_pure ?_
          refine ⟨.computed r.expression, rfl, hr.plain rfl, ?_⟩
          intro key hkey v
          obtain ⟨value, hvalue, hscalar⟩ := Option.bind_eq_some_iff.mp hkey
          rw [Stack.evaluate, Stack.evaluateCall] at hvalue
          rw [stepInto, hr.named_eq rfl value hvalue, Option.bind_some,
            string_of_evaluateRef hvalue hscalar]
      | _ =>
          rw [renderKey]
          · exact returns_throw _
          all_goals simp
  | _ =>
      rw [renderKey]
      · exact returns_throw _
      all_goals simp

theorem part?_of_get? {v w : Json} {key : String} (h : v.get? key = some w) :
    part? v (.string key) = some w := by
  cases v with
  | object entries => exact h
  | _ => cases h

theorem means_findInMap (h : Describes c s) (map top second : Expr) (index : Option Nat) :
    Means c s (c.render (.findInMap map top second) index)
      (s.evaluateCall (.findInMap map top second)) index := by
  rw [render]
  refine (writes_renderKey h map).bind ?_
  rintro _ ⟨mapStep, rfl, hmap, hmapValue⟩
  refine (writes_renderKey h top).bind ?_
  rintro _ ⟨topStep, rfl, htop, htopValue⟩
  refine (writes_renderKey h second).bind ?_
  rintro _ ⟨secondStep, rfl, hsecond, hsecondValue⟩
  refine returns_pure ?_
  intro v w hv hw
  rw [Stack.evaluateCall] at hv
  obtain ⟨mapKey, hmapKey, hv⟩ := exists_text_of_bind hv
  obtain ⟨topKey, htopKey, hv⟩ := exists_text_of_bind hv
  obtain ⟨secondKey, hsecondKey, hv⟩ := exists_text_of_bind hv
  obtain ⟨tables, htables, hv⟩ := Option.bind_eq_some_iff.mp hv
  obtain ⟨entries, hentries, hv⟩ := Option.bind_eq_some_iff.mp hv
  have hpath : "local.mappings" ++ mapStep.write ++ topStep.write ++ secondStep.write ++
      indexSuffix index = "local.mappings" ++
        writeAll (mapStep :: topStep :: secondStep :: index.toList.map .element) := by
    cases index <;> simp [writeAll, indexSuffix, Step.write, String.join_cons, String.append_assoc]
  have hsteps : ∀ step ∈ mapStep :: topStep :: secondStep :: index.toList.map .element,
      step.Plain := by
    intro step hstep
    simp only [List.mem_cons, List.mem_map] at hstep
    rcases hstep with rfl | rfl | rfl | ⟨i, -, rfl⟩
    · exact hmap
    · exact htop
    · exact hsecond
    · trivial
  rw [meaning, hpath, lookUp?_writeAll _ hsteps]
  have hfirst : part? (.object s.template.mappings) (.string mapKey) = some tables := htables
  simp only [List.foldlM_cons, hmapValue mapKey hmapKey, htopValue topKey htopKey,
    hsecondValue secondKey hsecondKey, hfirst, part?_of_get? hentries, part?_of_get? hv,
    Option.bind_eq_bind, Option.bind_some]
  cases index with
  | none => exact hw
  | some i =>
      have hstep : stepInto c.mappings s v (.element i) = some w := elementAt_of_pick hw
      simp [hstep]

end StackExport.Proofs.ReferenceAgreement
