import Mathlib
import StackExport.Proofs.RenderingIndependence
/-!
What rendering returns when it returns something, and which calls render as quoted templates.
-/
namespace StackExport.Proofs.RenderingResult

open StackExport
open StackExport.RenderContext
open StackExport.Proofs.RenderingIndependence

variable {α β : Type}

/-- What a rendering returns, if it returns anything, has a property. -/
def Returns (x : Rendering α) (P : α → Prop) : Prop :=
  ∀ ds a ds', x.run ds = (.ok a, ds') → P a

theorem returns_pure {P : α → Prop} {a : α} (h : P a) : Returns (pure a) P := by
  intro ds b ds' hrun
  cases hrun
  exact h

theorem returns_throw {P : α → Prop} (e : RenderError) : Returns (throw e) P := by
  intro ds a ds' hrun
  cases hrun

theorem returns_lift {P : α → Prop} {x : Except RenderError α} (h : ∀ a, x = .ok a → P a) :
    Returns (liftM x) P := by
  intro ds a ds' hrun
  cases x with
  | ok b =>
      cases hrun
      exact h a rfl
  | error e => cases hrun

theorem Returns.bind {x : Rendering α} {f : α → Rendering β} {P : α → Prop} {Q : β → Prop}
    (hx : Returns x P) (hf : ∀ a, P a → Returns (f a) Q) : Returns (x >>= f) Q := by
  intro ds b ds' hrun
  rw [run_bind] at hrun
  rcases hstep : x.run ds with ⟨e | a, ds₁⟩
  · rw [hstep] at hrun
    cases hrun
  · rw [hstep] at hrun
    exact hf a (hx ds a ds₁ hstep) ds₁ b ds' hrun

theorem Returns.map {x : Rendering α} {f : α → β} {P : β → Prop}
    (hx : Returns x fun a => P (f a)) : Returns (f <$> x) P :=
  hx.bind fun _ h => returns_pure h

theorem Returns.mono {x : Rendering α} {P Q : α → Prop} (hx : Returns x P) (h : ∀ a, P a → Q a) :
    Returns x Q :=
  fun ds a ds' hrun => h a (hx ds a ds' hrun)

theorem returns_any (x : Rendering α) : Returns x fun _ => True :=
  fun _ _ _ _ => trivial

/-- What an independent rendering returns is its one result. -/
theorem returns_of_independent {x : Rendering α} (hx : Independent x) :
    Returns x fun a => (x.run []).1 = .ok a := by
  intro ds a ds' hrun
  rw [hx [] ds, hrun]

theorem index?_of_literalIndex {e : Expr} {tag : String} {fault : CallFault} {n : Nat}
    (h : literalIndex e tag fault = .ok n) : e.index? = some n := by
  unfold literalIndex at h
  split at h
  · next m hm =>
      cases h
      exact hm
  · cases h

theorem lift_ok_bind {α β : Type} (a : α) (f : α → Rendering β) :
    (liftM (Except.ok a : Except RenderError α) : Rendering α) >>= f = f a := rfl

theorem render_select (c : RenderContext) {selector : Expr} {k : Nat} (h : selector.index? = some k)
    (items : Expr) (index : Option Nat) :
    c.render (.select selector items) index = c.renderSelected items k index := by
  have hliteral : literalIndex selector "Fn::Select" .indexNotLiteral = .ok k := by
    rw [literalIndex, h]
  rw [render, hliteral, lift_ok_bind]

/-! ### What is found by name -/

theorem mem_of_parameter? {t : Template} {name : String} {p : Parameter}
    (h : t.parameter? name = some p) : p ∈ t.parameters ∧ p.name = name :=
  ⟨List.mem_of_find?_eq_some h, by simpa using List.find?_some h⟩

theorem mem_of_mappingOf {c : RenderContext} {name : String} {m : ResourceMapping} (h : c.mappingOf name = .ok m) :
    m ∈ c.mappings ∧ m.logicalId = name := by
  unfold mappingOf at h
  split at h
  · next found hfound =>
      split_ifs at h
      cases h
      exact ⟨List.mem_of_find?_eq_some hfound, by simpa using List.find?_some hfound⟩
  · cases h

/-! ### Quoted templates -/

def isTemplate : Reference → Bool
  | .interpolation _ => true
  | _ => false

theorem isTemplate_element (r : Reference) (i : Nat) :
    isTemplate (indexed r (some i)) = false := by
  cases r <;> rfl

theorem isTemplate_indexed {r : Reference} (h : isTemplate r = false) (index : Option Nat) :
    isTemplate (indexed r index) = false := by
  cases index with
  | none => exact h
  | some i => exact isTemplate_element r i

/-- Is no quoted template. -/
abbrev Plain (x : Rendering Reference) : Prop := Returns x fun r => isTemplate r = false

theorem plain_renderRef (c : RenderContext) (name : String) (index : Option Nat) :
    Plain (c.renderRef name index) := by
  unfold renderRef
  split
  · split
    · exact (returns_any _).bind fun _ _ => returns_pure rfl
    · exact returns_throw _
  · split
    · refine (returns_any _).bind fun _ _ => ?_
      split <;> exact returns_pure rfl
    · exact (returns_any _).bind fun _ _ => returns_pure (isTemplate_indexed rfl index)

theorem renderField_cases {c : RenderContext} {resource field : String} {r : Reference}
    (h : c.renderField resource field = .ok r) :
    (∃ path, r = .module path) ∨
      ∃ m name, c.mappingOf resource = .ok m ∧ r = .indirect (m.address ++ "." ++ name) := by
  unfold renderField at h
  split at h
  · next r' hmodule =>
      cases h
      unfold moduleOutput? at hmodule
      obtain ⟨output, -, hmodule⟩ := Option.bind_eq_some_iff.mp hmodule
      obtain ⟨module, -, hmodule⟩ := Option.bind_eq_some_iff.mp hmodule
      cases hmodule
      exact Or.inl ⟨_, rfl⟩
  · rcases hm : c.mappingOf resource with e | m
    · rw [hm] at h
      cases h
    · rw [hm] at h
      cases h
      exact Or.inr ⟨m, _, rfl, rfl⟩

theorem isTemplate_renderField {c : RenderContext} {resource field : String} {r : Reference}
    (h : c.renderField resource field = .ok r) : isTemplate r = false := by
  obtain ⟨path, rfl⟩ | ⟨m, name, -, rfl⟩ := renderField_cases h <;> rfl

theorem plain_renderPlaceholder (c : RenderContext) (name : String) :
    Plain (c.renderPlaceholder name) := by
  unfold renderPlaceholder
  split
  · split
    · exact plain_renderRef c name none
    · exact returns_lift fun _ h => isTemplate_renderField h
  · exact plain_renderRef c name none

/-- True of the calls that may render as a quoted template. -/
def mayBeTemplate : Intrinsic → Bool
  | .sub _ _ | .select _ (.list _) => true
  | _ => false

mutual

theorem plain_render (c : RenderContext) (call : Intrinsic) (index : Option Nat)
    (h : index = none → mayBeTemplate call = false) : Plain (c.render call index) := by
  cases call with
  | ref name => exact plain_renderRef c name index
  | getAtt resource field =>
      rw [render]
      refine (returns_any _).bind fun _ _ => (returns_lift fun _ => isTemplate_renderField).bind ?_
      exact fun _ hr => returns_pure (isTemplate_indexed hr index)
  | sub text bindings =>
      cases index with
      | none => cases h rfl
      | some i =>
          rw [render]
          exact (returns_any _).bind fun _ _ => returns_pure (isTemplate_element _ i)
  | join delimiter items =>
      rw [render]
      exact (returns_any _).bind fun _ _ => returns_pure (isTemplate_indexed rfl index)
  | select selector items =>
      rw [render]
      refine (returns_any _).bind fun selected _ => plain_renderSelected c items selected index ?_
      rintro hindex items rfl
      cases h hindex
  | split delimiter source =>
      rw [render]
      exact (returns_any _).bind fun _ _ => returns_pure (isTemplate_indexed rfl index)
  | base64 value =>
      rw [render]
      exact (returns_any _).bind fun _ _ => returns_pure (isTemplate_indexed rfl index)
  | cidr block count bits =>
      rw [render]
      exact (returns_any _).bind fun _ _ => (returns_any _).bind fun _ _ =>
        (returns_any _).bind fun _ _ => (returns_any _).bind fun _ _ =>
          returns_pure (isTemplate_indexed rfl index)
  | findInMap map top second =>
      rw [render]
      exact (returns_any _).bind fun _ _ => (returns_any _).bind fun _ _ =>
        (returns_any _).bind fun _ _ => returns_pure rfl
  | zones region =>
      rw [render]
      exact (returns_any _).bind fun _ _ => returns_pure rfl
  | importValue name =>
      rw [render]
      split
      · exact returns_throw _
      · exact (returns_any _).bind fun _ _ => returns_pure (isTemplate_indexed rfl index)
  | unsupported tag =>
      rw [render]
      exact returns_throw _

theorem plain_renderSelected (c : RenderContext) (items : Expr) (selected : Nat)
    (index : Option Nat) (h : index = none → ∀ list, items ≠ .list list) :
    Plain (c.renderSelected items selected index) := by
  cases items with
  | intrinsic inner =>
      rw [renderSelected]
      exact plain_render c inner (some selected) nofun
  | list items =>
      cases index with
      | none => exact absurd rfl (h rfl items)
      | some i =>
          rw [renderSelected]
          exact plain_renderItem c items _ _ _ i
  | _ =>
      rw [renderSelected]
      · exact returns_throw _
      all_goals simp

theorem plain_renderItem (c : RenderContext) (items : List Expr) (position selected count i : Nat) :
    Plain (c.renderItem items position selected count (some i)) := by
  cases items with
  | nil =>
      rw [renderItem]
      exact returns_throw _
  | cons item rest =>
      cases position with
      | zero =>
          cases item with
          | intrinsic inner =>
              rw [renderItem]
              exact plain_render c inner (some i) nofun
          | _ =>
              rw [renderItem]
              · exact returns_throw _
              all_goals simp
      | succ position =>
          rw [renderItem]
          exact plain_renderItem c rest position selected count i

end

end StackExport.Proofs.RenderingResult
