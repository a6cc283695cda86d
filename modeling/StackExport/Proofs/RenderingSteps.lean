import StackExport.Proofs.TemplateDependencies
import StackExport.Rendering
/-!
What rendering is made of: results, faults, look-ups and declarations, one after the other.

Whatever holds of these parts and is kept by doing one after the other holds of every rendering. The
names that are looked up are those that a call depends on, and a declaration is always one that some
call asks for itself.
-/
namespace StackExport.Proofs.RenderingSteps

open StackExport
open StackExport.RenderContext
open StackExport.Template
open StackExport.Proofs.TemplateDependencies

/-- The declaration that a call asks for itself, whatever its arguments ask for. -/
inductive Asks (c : RenderContext) : Intrinsic → Declaration → Prop where
  | pseudo {name type source field : String} (hname : name.startsWith "AWS::" = true)
      (hsource : pseudoSource? name = some (type, source, field)) :
      Asks c (.ref name) (.dataSource ⟨type, source, []⟩)
  | parameter {name : String} {p : Parameter} (hname : ¬name.startsWith "AWS::" = true)
      (hp : c.template.parameter? name = some p) : Asks c (.ref name) (.ofParameter p)
  | zones (region : Expr) : Asks c (.zones region) (.dataSource zonesSource)
  | exported {name : Expr} {text : String} (htext : c.template.staticText? name = some text) :
      Asks c (.importValue name) (.dataSource (exportSource text))

/-- Renderings made of results, faults and declarations. -/
inductive Composed (c : RenderContext) : {α : Type} → Rendering α → Prop where
  | result {α : Type} (a : α) : Composed c (pure a)
  | fault {α : Type} (e : RenderError) : Composed c (throw e : Rendering α)
  | declaration {call : Intrinsic} {d : Declaration} (hd : Asks c call d) : Composed c (declare d)
  | bind {α β : Type} {x : Rendering α} {f : α → Rendering β} (hx : Composed c x)
      (hf : ∀ a, Composed c (f a)) : Composed c (x >>= f)

/-- Renderings in two contexts that do the same, apart from what they find when they look up names
with a property. -/
inductive Alike (c c' : RenderContext) (P : String → Prop) :
    {α : Type} → Rendering α → Rendering α → Prop where
  | result {α : Type} (a : α) : Alike c c' P (pure a) (pure a)
  | fault {α : Type} (e : RenderError) : Alike c c' P (throw e : Rendering α) (throw e)
  | dataSource {call : Intrinsic} {d : DataSource} (hd : Asks c call (.dataSource d))
      (hcall : ∀ name, call ≠ .ref name) :
      Alike c c' P (declare (.dataSource d)) (declare (.dataSource d))
  | reference {name : String} (h : ¬name.startsWith "AWS::" = true → P name)
      (index : Option Nat) : Alike c c' P (c.renderRef name index) (c'.renderRef name index)
  | field {name : String} (h : P name) (field : String) :
      Alike c c' P (liftM (c.renderField name field)) (liftM (c'.renderField name field))
  | bind {α β : Type} {x x' : Rendering α} {f f' : α → Rendering β} (hx : Alike c c' P x x')
      (hf : ∀ a, Alike c c' P (f a) (f' a)) : Alike c c' P (x >>= f) (x' >>= f')

variable {α β : Type} {c c' : RenderContext} {P : String → Prop}

/-! ### Static texts -/

section StaticText

variable {t t' : Template}

theorem parameterText?_congr (h : t'.parameters = t.parameters) (name : String) :
    t'.parameterText? name = t.parameterText? name := by
  rw [parameterText?, parameterText?, parameter?, parameter?, h]

mutual

/-- Static texts depend on parameters alone. -/
theorem staticText?_congr (h : t'.parameters = t.parameters) :
    ∀ e : Expr, t'.staticText? e = t.staticText? e
  | .intrinsic call => by
      cases call with
      | ref name => exact parameterText?_congr h name
      | sub text bindings =>
          simp only [staticText?, staticVariables_congr h bindings, parameterText?_congr h]
      | _ => rfl
  | .null | .bool _ | .number _ | .string _ | .list _ | .object _ => rfl

theorem staticVariables_congr (h : t'.parameters = t.parameters) :
    ∀ bindings : List (String × Expr), t'.staticVariables bindings = t.staticVariables bindings
  | [] => rfl
  | (name, item) :: rest => by
      rw [staticVariables, staticVariables, staticText?_congr h item,
        staticVariables_congr h rest]

end

end StaticText

/-! ### Renderings in two contexts -/

theorem alike_lift (x : Except RenderError α) : Alike c c' P (liftM x : Rendering α) (liftM x) := by
  cases x with
  | ok a => exact .result a
  | error e => exact .fault e

/-- The contexts have the same parameters, and the property is one of all names that the template of
the first does not know. -/
structure Comparable (c c' : RenderContext) (P : String → Prop) : Prop where
  parameters : c'.template.parameters = c.template.parameters
  unknown : ∀ name, ¬HasResource c.template name → ¬HasParameter c.template name → P name

theorem Comparable.of_named (h : Comparable c c' P) {name : String} {kind : DependencyKind}
    (hnamed : ∀ d ∈ c.template.named name kind, P d.target) : P name := by
  by_cases hresource : HasResource c.template name
  · rw [named_of_hasResource hresource] at hnamed
    exact hnamed _ List.mem_cons_self
  · by_cases hparameter : HasParameter c.template name
    · rw [named_of_hasParameter hparameter hresource] at hnamed
      exact hnamed _ List.mem_cons_self
    · exact h.unknown name hresource hparameter

theorem Comparable.fieldName_eq (h : Comparable c c' P) (e : Expr) :
    c'.fieldName e = c.fieldName e := by
  unfold fieldName
  cases e with
  | intrinsic call =>
      cases call with
      | ref name => simp only [parameterText?_congr h.parameters]
      | _ => rfl
  | _ => rfl

theorem alike_renderPlaceholder (h : Comparable c c' P) {name : String}
    (hname : ∀ d ∈ c.template.placeholderDependencies name, P d.target) :
    Alike c c' P (c.renderPlaceholder name) (c'.renderPlaceholder name) := by
  unfold renderPlaceholder
  unfold placeholderDependencies at hname
  cases hsplit : Text.splitOnce? '.' name with
  | some split =>
      obtain ⟨id, field⟩ := split
      rw [hsplit] at hname
      dsimp only
      split
      · next hpseudo => exact .reference (fun hno => absurd hpseudo hno) none
      · exact .field (h.of_named hname) field
  | none =>
      rw [hsplit] at hname
      exact .reference (fun _ => h.of_named hname) none

theorem alike_renderParts (h : Comparable c c' P)
    {given given' : String → Option (Rendering String)} {parts : List Interpolation.Part}
    (hsome : ∀ name x, given name = some x → ∃ x', given' name = some x' ∧ Alike c c' P x x')
    (hnone : ∀ name, .placeholder name ∈ parts → given name = none → given' name = none ∧
      ∀ d ∈ c.template.placeholderDependencies name, P d.target) :
    Alike c c' P (c.renderParts given parts) (c'.renderParts given' parts) := by
  induction parts with
  | nil => exact .result _
  | cons part rest ih =>
      have hrest := ih fun name hname => hnone name (List.mem_cons_of_mem _ hname)
      cases part with
      | literal text => exact hrest.bind fun _ => .result _
      | placeholder name =>
          rw [renderParts, renderParts]
          cases hgiven : given name with
          | some x =>
              obtain ⟨x', hx', halike⟩ := hsome name x hgiven
              rw [hx']
              exact halike.bind fun _ => hrest.bind fun _ => .result _
          | none =>
              obtain ⟨hgiven', hname⟩ := hnone name List.mem_cons_self hgiven
              rw [hgiven']
              refine Alike.bind ?_ fun _ => hrest.bind fun _ => .result _
              exact (alike_renderPlaceholder h hname).bind fun _ => .result _

theorem renderVariable_eq_none_iff {name : String} {bindings : List (String × Expr)} :
    c.renderVariable name bindings = none ↔ bindings.any (·.1 == name) = false := by
  induction bindings with
  | nil => simp [renderVariable]
  | cons binding rest ih =>
      obtain ⟨key, value⟩ := binding
      unfold renderVariable
      rw [List.any_cons]
      by_cases hkey : (key == name) = true
      · simp [hkey]
      · simp [hkey, ih]

mutual

/-- Rendering looks up what a call depends on, and nothing else. -/
theorem alike_render (h : Comparable c c' P) (call : Intrinsic) (index : Option Nat)
    (hcall : ∀ d ∈ c.template.dependenciesOfCall call, P d.target) :
    Alike c c' P (c.render call index) (c'.render call index) := by
  cases call with
  | ref name =>
      rw [render, render]
      exact .reference (fun _ => h.of_named hcall) index
  | getAtt resource field =>
      rw [dependenciesOfCall, List.forall_mem_append] at hcall
      rw [render, render, h.fieldName_eq]
      apply (alike_lift _).bind
      intro field
      exact (Alike.field (h.of_named hcall.1) field).bind fun _ => .result _
  | sub text bindings =>
      rw [dependenciesOfCall, List.forall_mem_append] at hcall
      rw [render, render]
      refine (alike_renderParts h (fun name x hx => ?_) fun name hname hnone => ?_).bind fun _ =>
        .result _
      · exact alike_renderVariable h name bindings hcall.2 x hx
      · rw [renderVariable_eq_none_iff] at hnone ⊢
        refine ⟨hnone, fun d hd => hcall.1 d (List.mem_flatMap.mpr ⟨_, hname, ?_⟩)⟩
        simpa only [hnone, Bool.false_eq_true, if_false] using hd
  | join delimiter items =>
      rw [dependenciesOfCall] at hcall
      rw [render, render]
      exact (alike_renderJoined h items hcall).bind fun _ => .result _
  | select selector items =>
      rw [dependenciesOfCall, List.forall_mem_append] at hcall
      rw [render, render]
      apply (alike_lift _).bind
      intro selected
      exact alike_renderSelected h items selected index hcall.2
  | split delimiter source =>
      rw [dependenciesOfCall] at hcall
      rw [render, render]
      exact (alike_renderArgument h _ source hcall).bind fun _ => .result _
  | base64 value =>
      rw [dependenciesOfCall] at hcall
      rw [render, render]
      exact (alike_renderArgument h _ value hcall).bind fun _ => .result _
  | cidr block count bits =>
      rw [dependenciesOfCall, List.forall_mem_append, List.forall_mem_append] at hcall
      rw [render, render]
      refine (alike_lift _).bind fun count => (alike_lift _).bind fun bits =>
        (alike_lift _).bind fun grown => ?_
      exact (alike_renderArgument h _ block hcall.1.1).bind fun _ => .result _
  | findInMap map top second =>
      rw [dependenciesOfCall, List.forall_mem_append, List.forall_mem_append] at hcall
      rw [render, render]
      refine (alike_renderKey h map hcall.1.1).bind fun map =>
        (alike_renderKey h top hcall.1.2).bind fun top => ?_
      exact (alike_renderKey h second hcall.2).bind fun _ => .result _
  | zones region =>
      rw [render, render]
      exact .bind (.dataSource (.zones region) nofun) fun _ => .result _
  | importValue name =>
      rw [render, render, staticText?_congr h.parameters]
      split
      · exact .fault _
      · next htext => exact .bind (.dataSource (.exported htext) nofun) fun _ => .result _
  | unsupported tag =>
      rw [render, render]
      exact .fault _

theorem alike_renderSelected (h : Comparable c c' P) (items : Expr) (selected : Nat)
    (index : Option Nat) (hitems : ∀ d ∈ c.template.dependenciesOf items, P d.target) :
    Alike c c' P (c.renderSelected items selected index)
      (c'.renderSelected items selected index) := by
  cases items with
  | intrinsic inner =>
      rw [renderSelected, renderSelected]
      exact alike_render h inner _ hitems
  | list items =>
      rw [renderSelected, renderSelected]
      exact alike_renderItem h items _ _ _ index hitems
  | _ =>
      rw [renderSelected, renderSelected]
      · exact .fault _
      all_goals simp

theorem alike_renderItem (h : Comparable c c' P) (items : List Expr)
    (position selected count : Nat) (index : Option Nat)
    (hitems : ∀ d ∈ c.template.dependenciesOfItems items, P d.target) :
    Alike c c' P (c.renderItem items position selected count index)
      (c'.renderItem items position selected count index) := by
  cases items with
  | nil =>
      rw [renderItem, renderItem]
      exact .fault _
  | cons item rest =>
      rw [dependenciesOfItems, List.forall_mem_append] at hitems
      cases position with
      | zero =>
          cases item with
          | intrinsic inner =>
              rw [renderItem, renderItem]
              exact alike_render h inner index hitems.1
          | _ =>
              rw [renderItem, renderItem]
              · exact .fault _
              all_goals simp
      | succ position =>
          rw [renderItem, renderItem]
          exact alike_renderItem h rest position selected count index hitems.2

theorem alike_renderVariable (h : Comparable c c' P) (name : String)
    (bindings : List (String × Expr))
    (hbindings : ∀ d ∈ c.template.dependenciesOfEntries bindings, P d.target)
    (x : Rendering String) (hx : c.renderVariable name bindings = some x) :
    ∃ x', c'.renderVariable name bindings = some x' ∧ Alike c c' P x x' := by
  cases bindings with
  | nil => cases hx
  | cons binding rest =>
      obtain ⟨key, value⟩ := binding
      rw [dependenciesOfEntries, List.forall_mem_append] at hbindings
      unfold renderVariable at hx ⊢
      by_cases hkey : (key == name) = true
      · rw [if_pos hkey, Option.some.injEq] at hx
        subst hx
        rw [if_pos hkey]
        refine ⟨_, rfl, ?_⟩
        cases value with
        | intrinsic inner =>
            exact (alike_render h inner none hbindings.1).bind fun _ => .result _
        | _ =>
            dsimp only
            split
            · exact .result _
            · exact .fault _
      · rw [if_neg hkey] at hx ⊢
        exact alike_renderVariable h name rest hbindings.2 x hx

theorem alike_renderJoined (h : Comparable c c' P) (items : Expr)
    (hitems : ∀ d ∈ c.template.dependenciesOf items, P d.target) :
    Alike c c' P (c.renderJoined items) (c'.renderJoined items) := by
  cases items with
  | list items =>
      rw [renderJoined, renderJoined]
      exact (alike_renderJoinedItems h items hitems).bind fun _ => .result _
  | intrinsic inner =>
      rw [renderJoined, renderJoined]
      exact (alike_render h inner none hitems).bind fun _ => .result _
  | _ =>
      rw [renderJoined, renderJoined]
      · exact .fault _
      all_goals simp

theorem alike_renderJoinedItems (h : Comparable c c' P) (items : List Expr)
    (hitems : ∀ d ∈ c.template.dependenciesOfItems items, P d.target) :
    Alike c c' P (c.renderJoinedItems items) (c'.renderJoinedItems items) := by
  cases items with
  | nil =>
      rw [renderJoinedItems, renderJoinedItems]
      exact .result _
  | cons item rest =>
      rw [dependenciesOfItems, List.forall_mem_append] at hitems
      have hrest := alike_renderJoinedItems h rest hitems.2
      unfold renderJoinedItems
      cases item with
      | intrinsic inner =>
          apply (alike_render h inner none hitems.1).bind
          intro _
          exact .bind (.result _) fun _ => hrest.bind fun _ => .result _
      | _ =>
          dsimp only
          split
          · exact .bind (.result _) fun _ => hrest.bind fun _ => .result _
          · exact .bind (.fault _) fun _ => hrest.bind fun _ => .result _

theorem alike_renderArgument (h : Comparable c c' P) (tag : String) (e : Expr)
    (he : ∀ d ∈ c.template.dependenciesOf e, P d.target) :
    Alike c c' P (c.renderArgument tag e) (c'.renderArgument tag e) := by
  cases e with
  | intrinsic inner =>
      rw [renderArgument, renderArgument]
      exact (alike_render h inner none he).bind fun _ => .result _
  | list items =>
      rw [renderArgument, renderArgument]
      exact (alike_renderArguments h tag items he).bind fun _ => .result _
  | object _ =>
      rw [renderArgument, renderArgument]
      exact .fault _
  | _ =>
      rw [renderArgument, renderArgument]
      exact .result _

theorem alike_renderArguments (h : Comparable c c' P) (tag : String) (items : List Expr)
    (hitems : ∀ d ∈ c.template.dependenciesOfItems items, P d.target) :
    Alike c c' P (c.renderArguments tag items) (c'.renderArguments tag items) := by
  cases items with
  | nil =>
      rw [renderArguments, renderArguments]
      exact .result _
  | cons item rest =>
      rw [dependenciesOfItems, List.forall_mem_append] at hitems
      rw [renderArguments, renderArguments]
      apply (alike_renderArgument h tag item hitems.1).bind
      intro _
      exact (alike_renderArguments h tag rest hitems.2).bind fun _ => .result _

theorem alike_renderKey (h : Comparable c c' P) (e : Expr)
    (he : ∀ d ∈ c.template.dependenciesOf e, P d.target) :
    Alike c c' P (c.renderKey e) (c'.renderKey e) := by
  cases e with
  | string s =>
      rw [renderKey, renderKey]
      exact .result _
  | intrinsic inner =>
      unfold renderKey
      cases inner with
      | ref name =>
          exact (Alike.reference (fun _ => h.of_named he) none).bind fun _ => .result _
      | _ => exact .fault _
  | _ =>
      rw [renderKey, renderKey]
      · exact .fault _
      all_goals simp

end

/-! ### Renderings in one context -/

theorem composed_lift (x : Except RenderError α) : Composed c (liftM x : Rendering α) := by
  cases x with
  | ok a => exact .result a
  | error e => exact .fault e

theorem Composed.map {x : Rendering α} (f : α → β) (hx : Composed c x) : Composed c (f <$> x) :=
  hx.bind fun a => .result (f a)

theorem composed_renderRef (c : RenderContext) (name : String) (index : Option Nat) :
    Composed c (c.renderRef name index) := by
  unfold renderRef
  split
  · next hname =>
      split
      · next hsource => exact .bind (.declaration (.pseudo hname hsource)) fun _ => .result _
      · exact .fault _
  · next hname =>
      split
      · next hp =>
          refine .bind (.declaration (.parameter hname hp)) fun _ => ?_
          split <;> exact .result _
      · exact (composed_lift _).bind fun _ => .result _

theorem Alike.composed {x x' : Rendering α} (h : Alike c c' P x x') : Composed c x := by
  induction h with
  | result a => exact .result a
  | fault e => exact .fault e
  | dataSource hd _ => exact .declaration hd
  | reference _ index => exact composed_renderRef c _ index
  | field _ field => exact composed_lift _
  | bind _ _ ihx ihf => exact ihx.bind ihf

theorem comparable_self (c : RenderContext) : Comparable c c fun _ => True :=
  ⟨rfl, fun _ _ _ => trivial⟩

theorem composed_renderPlaceholder (c : RenderContext) (name : String) :
    Composed c (c.renderPlaceholder name) :=
  (alike_renderPlaceholder (comparable_self c) fun _ _ => trivial).composed

theorem composed_renderParts (c : RenderContext) {given : String → Option (Rendering String)}
    (hg : ∀ name rendered, given name = some rendered → Composed c rendered)
    (parts : List Interpolation.Part) : Composed c (c.renderParts given parts) := by
  induction parts with
  | nil => exact .result _
  | cons part rest ih =>
      cases part with
      | literal text => exact ih.bind fun _ => .result _
      | placeholder name =>
          rw [renderParts]
          cases hgiven : given name with
          | some rendered =>
              apply (hg name rendered hgiven).bind
              intro _
              exact ih.bind fun _ => .result _
          | none =>
              apply ((composed_renderPlaceholder c name).map splice).bind
              intro _
              exact ih.bind fun _ => .result _

theorem composed_render (c : RenderContext) (call : Intrinsic) (index : Option Nat) :
    Composed c (c.render call index) :=
  (alike_render (comparable_self c) call index fun _ _ => trivial).composed

theorem composed_renderVariable (c : RenderContext) (name : String)
    (bindings : List (String × Expr)) (rendered : Rendering String)
    (h : c.renderVariable name bindings = some rendered) : Composed c rendered := by
  obtain ⟨_, -, halike⟩ := alike_renderVariable (comparable_self c) name bindings
    (fun _ _ => trivial) rendered h
  exact halike.composed

theorem composed_renderJoinedItems (c : RenderContext) (items : List Expr) :
    Composed c (c.renderJoinedItems items) :=
  (alike_renderJoinedItems (comparable_self c) items fun _ _ => trivial).composed

theorem composed_renderArguments (c : RenderContext) (tag : String) (items : List Expr) :
    Composed c (c.renderArguments tag items) :=
  (alike_renderArguments (comparable_self c) tag items fun _ _ => trivial).composed

theorem composed_renderKey (c : RenderContext) (e : Expr) : Composed c (c.renderKey e) :=
  (alike_renderKey (comparable_self c) e fun _ _ => trivial).composed

end StackExport.Proofs.RenderingSteps
