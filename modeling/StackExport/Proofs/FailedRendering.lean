import Mathlib
import StackExport.Proofs.RenderingIndependence
/-!
What a rendering that fails leaves behind.

A call is rendered part by part, from left to right, and each part declares what it needs at once. A
failure undoes nothing, so the accumulator keeps the declarations of the parts in front of the one
that fails, and no others.
-/
namespace StackExport.Proofs.FailedRendering

open StackExport
open StackExport.RenderContext
open StackExport.Proofs.RegisteredDeclarations
open StackExport.Proofs.RenderingIndependence

/-! ### Parts of a call -/

/-- A part of a call that is rendered as a whole. -/
inductive Leaf where
  | reference (name : String)
  | field (resource : String) (name : Expr)
  | zones
  | exported (name : Expr)
  /-- A part that has no expression in any context. -/
  | refused (fault : RenderError)

/-- What a part declares, or why it cannot be rendered. -/
def Leaf.outcome (c : RenderContext) : Leaf → Except RenderError Declarations
  | .reference name =>
    if name.startsWith "AWS::" then
      match pseudoSource? name with
      | some (type, source, _) => .ok [.dataSource ⟨type, source, []⟩]
      | none => .error (.unsupportedPseudoParameter name)
    else
      match c.template.parameter? name with
      | some p => .ok [.ofParameter p]
      | none => (c.mappingOf name).map fun _ => []
  | .field resource name =>
    ((c.fieldName name).bind fun name => c.renderField resource name).map fun _ => []
  | .zones => .ok [.dataSource zonesSource]
  | .exported name =>
    match c.template.staticText? name with
    | some text => .ok [.dataSource (exportSource text)]
    | none => .error (.invalidIntrinsic "Fn::ImportValue" .exportNotStatic)
  | .refused fault => .error fault

/-- The declarations of a part; one that cannot be rendered has none. -/
def Leaf.declared (c : RenderContext) (leaf : Leaf) : Declarations :=
  match leaf.outcome c with
  | .ok ds => ds
  | .error _ => []

/-- The part that a placeholder is. -/
def placeholderLeaf (name : String) : Leaf :=
  match Text.splitOnce? '.' name with
  | some (id, field) =>
    if name.startsWith "AWS::" then .reference name else .field id (.string field)
  | none => .reference name

/-- The parts of a text with placeholders, some of which stand for values beside it. -/
def textLeaves (given : String → Option (List Leaf)) : List Interpolation.Part → List Leaf
  | [] => []
  | .literal _ :: rest => textLeaves given rest
  | .placeholder name :: rest => (given name).getD [placeholderLeaf name] ++ textLeaves given rest

/-- The parts behind a check of literals, which is a part itself where it fails. -/
def checkedLeaves {α : Type} (check : Except RenderError α) (behind : α → List Leaf) : List Leaf :=
  match check with
  | .ok a => behind a
  | .error e => [.refused e]

/-- A literal is a part only where it has no text. -/
def literalLeaves (literal : Expr) (fault : RenderError) : List Leaf :=
  match literal.literalText? with
  | some _ => []
  | none => [.refused fault]

mutual

/-- The parts of a call, in the order in which they are rendered. -/
def leaves : Intrinsic → List Leaf
  | .ref name => [.reference name]
  | .getAtt resource field => [.field resource field]
  | .sub text bindings =>
    textLeaves (fun name => variableLeaves name bindings) (Interpolation.parts text)
  | .join _ items => joinedLeaves items
  | .select selector items =>
    checkedLeaves (literalIndex selector "Fn::Select" .indexNotLiteral) fun selected =>
      selectedLeaves items selected
  | .split _ source => argumentLeaves "Fn::Split" source
  | .base64 value => argumentLeaves "Fn::Base64" value
  | .cidr block count bits =>
    checkedLeaves (literalIndex count "Fn::Cidr" .countNotLiteral) fun _ =>
      checkedLeaves (literalIndex bits "Fn::Cidr" .bitsNotLiteral) fun bits =>
        checkedLeaves (newBits block bits) fun _ => argumentLeaves "Fn::Cidr" block
  | .findInMap map top second => keyLeaves map ++ (keyLeaves top ++ keyLeaves second)
  | .zones _ => [.zones]
  | .importValue name => [.exported name]
  | .unsupported tag => [.refused (.noRendererFor tag)]

def selectedLeaves (items : Expr) (selected : Nat) : List Leaf :=
  match items with
  | .intrinsic inner => leaves inner
  | .list items => itemLeaves items selected selected items.length
  | _ => [.refused (.invalidIntrinsic "Fn::Select" .itemsNotList)]

def itemLeaves (items : List Expr) (position selected count : Nat) : List Leaf :=
  match items, position with
  | [], _ => [.refused (.invalidIntrinsic "Fn::Select" (.indexOutOfRange selected count))]
  | .intrinsic inner :: _, 0 => leaves inner
  | _ :: _, 0 => [.refused (.invalidIntrinsic "Fn::Select" .literalSelected)]
  | _ :: rest, position + 1 => itemLeaves rest position selected count

/-- The parts of the variable with a name beside a text, if there is one. -/
def variableLeaves (name : String) : List (String × Expr) → Option (List Leaf)
  | [] => none
  | (key, value) :: rest =>
    if key == name then
      some (match value with
        | .intrinsic inner => leaves inner
        | literal => literalLeaves literal (.invalidIntrinsic "Fn::Sub" (.variableNotScalar name)))
    else variableLeaves name rest

def joinedLeaves : Expr → List Leaf
  | .list items => joinedItemLeaves items
  | .intrinsic inner => leaves inner
  | _ => [.refused (.invalidIntrinsic "Fn::Join" .itemsNotList)]

def joinedItemLeaves : List Expr → List Leaf
  | [] => []
  | item :: rest =>
    (match item with
      | .intrinsic inner => leaves inner
      | literal => literalLeaves literal (.invalidIntrinsic "Fn::Join" .itemsNotScalar)) ++
      joinedItemLeaves rest

def argumentLeaves (tag : String) : Expr → List Leaf
  | .intrinsic inner => leaves inner
  | .list items => argumentsLeaves tag items
  | .object _ => [.refused (.invalidIntrinsic tag .objectArgument)]
  | _ => []

def argumentsLeaves (tag : String) : List Expr → List Leaf
  | [] => []
  | item :: rest => argumentLeaves tag item ++ argumentsLeaves tag rest

def keyLeaves : Expr → List Leaf
  | .string _ => []
  | .intrinsic inner =>
    match inner with
    | .ref name => [.reference name]
    | other => [.refused (.invalidFindInMapKey (.intrinsic other))]
  | value => [.refused (.invalidFindInMapKey value)]

end

/-! ### Parts one after the other -/

/-- Renders parts until one fails: the failure, if there is one, and what is declared then. -/
def carry (c : RenderContext) : List Leaf → Declarations → Option RenderError × Declarations
  | [], ds => (none, ds)
  | leaf :: rest, ds =>
    match leaf.outcome c with
    | .ok new => carry c rest (registerAll ds new)
    | .error e => (some e, ds)

variable {α β : Type} {c : RenderContext} {ds ds' : Declarations} {ls ls' : List Leaf}
  {x : Rendering α}

theorem carry_append (c : RenderContext) (ls ls' : List Leaf) (ds : Declarations) :
    carry c (ls ++ ls') ds =
      match carry c ls ds with
      | (none, ds₁) => carry c ls' ds₁
      | (some e, ds₁) => (some e, ds₁) := by
  induction ls generalizing ds with
  | nil => rfl
  | cons leaf rest ih =>
      rw [List.cons_append, carry, carry]
      cases leaf.outcome c with
      | ok new => exact ih _
      | error e => rfl

/-- What is declared when a part fails comes from the parts in front of it. -/
theorem exists_of_carry_eq_some {e : RenderError} (h : carry c ls ds = (some e, ds')) :
    ∃ done failing behind, ls = done ++ failing :: behind ∧
      (∀ leaf ∈ done, ∃ new, leaf.outcome c = .ok new) ∧ failing.outcome c = .error e ∧
      ds' = registerAll ds (done.flatMap (Leaf.declared c)) := by
  induction ls generalizing ds with
  | nil => cases h
  | cons leaf rest ih =>
      rw [carry] at h
      cases hleaf : leaf.outcome c with
      | ok new =>
          rw [hleaf] at h
          obtain ⟨done, failing, behind, rfl, hdone, hfailing, rfl⟩ := ih h
          refine ⟨leaf :: done, failing, behind, rfl, ?_, hfailing, ?_⟩
          · exact List.forall_mem_cons.mpr ⟨⟨new, hleaf⟩, hdone⟩
          · have hdeclared : leaf.declared c = new := by rw [Leaf.declared, hleaf]
            rw [List.flatMap_cons, hdeclared, registerAll_append]
      | error e' =>
          rw [hleaf] at h
          cases h
          exact ⟨[], leaf, rest, rfl, nofun, hleaf, rfl⟩

/-! ### Renderings and their parts -/

def fault? : Except RenderError α → Option RenderError
  | .ok _ => none
  | .error e => some e

/-- A rendering declares and fails as its parts do, one after the other. -/
def Follows (c : RenderContext) (x : Rendering α) (ls : List Leaf) : Prop :=
  ∀ ds, (fault? (x.run ds).1, (x.run ds).2) = carry c ls ds

theorem follows_pure (c : RenderContext) (a : α) : Follows c (pure a) [] := fun _ => rfl

theorem follows_throw (c : RenderContext) (e : RenderError) :
    Follows c (throw e : Rendering α) [.refused e] := fun _ => rfl

theorem Follows.bind {f : α → Rendering β} (hx : Follows c x ls) (hf : ∀ a, Follows c (f a) ls') :
    Follows c (x >>= f) (ls ++ ls') := by
  intro ds
  rw [run_bind, carry_append, ← hx ds]
  rcases x.run ds with ⟨e | a, ds₁⟩
  · rfl
  · exact hf a ds₁

/-- What is done with a result declares nothing. -/
theorem Follows.andThen {f : α → β} (hx : Follows c x ls) :
    Follows c (x >>= fun a => pure (f a)) ls := by
  have hall := hx.bind fun a => follows_pure c (f a)
  rwa [List.append_nil] at hall

theorem follows_check_bind {y : Except RenderError α} {f : α → Rendering β} {k : α → List Leaf}
    (hf : ∀ a, Follows c (f a) (k a)) : Follows c (liftM y >>= f) (checkedLeaves y k) := by
  cases y with
  | ok a => exact hf a
  | error e => exact fun _ => rfl

theorem follows_declare {leaf : Leaf} {d : Declaration} (h : leaf.outcome c = .ok [d])
    {f : Unit → Rendering α} (hf : Follows c (f ()) []) :
    Follows c (declare d >>= f) [leaf] := by
  intro ds
  have hrun : (declare d).run ds = (.ok (), ds.register d) := rfl
  rw [run_bind, hrun, carry, h]
  exact hf _

theorem follows_renderRef (c : RenderContext) (name : String) (index : Option Nat) :
    Follows c (c.renderRef name index) [.reference name] := by
  unfold renderRef
  split
  · next hname =>
      split
      · next hsource =>
          refine follows_declare ?_ (follows_pure c _)
          rw [Leaf.outcome, if_pos hname, hsource]
      · next hsource =>
          intro ds
          rw [carry, Leaf.outcome, if_pos hname, hsource]
          rfl
  · next hname =>
      split
      · next p hp =>
          refine follows_declare ?_ ?_
          · rw [Leaf.outcome, if_neg hname, hp]
          · split <;> exact follows_pure c _
      · next hp =>
          intro ds
          rw [carry, Leaf.outcome, if_neg hname, hp]
          cases c.mappingOf name <;> rfl

/-- Where only results and faults come of a part, it declares nothing. -/
theorem follows_lift {leaf : Leaf} {y : Except RenderError α}
    (h : leaf.outcome c = y.map fun _ => []) : Follows c (liftM y : Rendering α) [leaf] := by
  intro ds
  rw [carry, h]
  cases y <;> rfl

theorem follows_renderPlaceholder (c : RenderContext) (name : String) :
    Follows c (c.renderPlaceholder name) [placeholderLeaf name] := by
  unfold renderPlaceholder placeholderLeaf
  cases Text.splitOnce? '.' name with
  | some split =>
      dsimp only
      by_cases hname : name.startsWith "AWS::" = true
      · rw [if_pos hname, if_pos hname]
        exact follows_renderRef c name none
      · rw [if_neg hname, if_neg hname]
        exact follows_lift rfl
  | none => exact follows_renderRef c name none

theorem follows_getAtt (c : RenderContext) (resource : String) (field : Expr)
    (index : Option Nat) : Follows c (c.render (.getAtt resource field) index)
      [.field resource field] := by
  rw [render]
  cases hname : c.fieldName field with
  | ok name =>
      have hleaf : (Leaf.field resource field).outcome c =
          (c.renderField resource name).map fun _ => [] := by
        rw [Leaf.outcome, hname]
        rfl
      exact (follows_lift hleaf).andThen
  | error e =>
      intro ds
      rw [carry, Leaf.outcome, hname]
      rfl

theorem follows_renderParts {given : String → Option (Rendering String)}
    {given' : String → Option (List Leaf)}
    (hgiven : ∀ name, (∃ x ls, given name = some x ∧ given' name = some ls ∧ Follows c x ls) ∨
      given name = none ∧ given' name = none) (parts : List Interpolation.Part) :
    Follows c (c.renderParts given parts) (textLeaves given' parts) := by
  induction parts with
  | nil => exact follows_pure c _
  | cons part rest ih =>
      cases part with
      | literal text => exact ih.andThen
      | placeholder name =>
          rw [renderParts, textLeaves]
          rcases hgiven name with ⟨x, ls, hx, hls, hfollows⟩ | ⟨hx, hls⟩
          · rw [hx, hls]
            exact hfollows.bind fun _ => ih.andThen
          · rw [hx, hls]
            exact (follows_renderPlaceholder c name).andThen.bind fun _ => ih.andThen

mutual

/-- A call is rendered part by part. -/
theorem follows_render (c : RenderContext) (call : Intrinsic) (index : Option Nat) :
    Follows c (c.render call index) (leaves call) := by
  cases call with
  | ref name =>
      rw [render, leaves]
      exact follows_renderRef c name index
  | getAtt resource field =>
      rw [leaves]
      exact follows_getAtt c resource field index
  | sub text bindings =>
      rw [render, leaves]
      exact (follows_renderParts (fun name => follows_renderVariable c name bindings) _).andThen
  | join delimiter items =>
      rw [render, leaves]
      exact (follows_renderJoined c items).andThen
  | select selector items =>
      rw [render, leaves]
      exact follows_check_bind fun selected => follows_renderSelected c items selected index
  | split delimiter source =>
      rw [render, leaves]
      exact (follows_renderArgument c "Fn::Split" source).andThen
  | base64 value =>
      rw [render, leaves]
      exact (follows_renderArgument c "Fn::Base64" value).andThen
  | cidr block count bits =>
      have hblock := follows_renderArgument c "Fn::Cidr" block
      rw [render, leaves]
      exact follows_check_bind fun count => follows_check_bind fun bits =>
        follows_check_bind fun grown => hblock.andThen
  | findInMap map top second =>
      rw [render, leaves]
      exact (follows_renderKey c map).bind fun map => (follows_renderKey c top).bind fun top =>
        (follows_renderKey c second).andThen
  | zones region =>
      rw [render, leaves]
      exact follows_declare rfl (follows_pure c _)
  | importValue name =>
      rw [render, leaves]
      split
      · next htext =>
          intro ds
          rw [carry, Leaf.outcome, htext]
          rfl
      · next text htext =>
          refine follows_declare ?_ (follows_pure c _)
          rw [Leaf.outcome, htext]
  | unsupported tag =>
      rw [render, leaves]
      exact follows_throw c _

theorem follows_renderSelected (c : RenderContext) (items : Expr) (selected : Nat)
    (index : Option Nat) :
    Follows c (c.renderSelected items selected index) (selectedLeaves items selected) := by
  cases items with
  | intrinsic inner =>
      rw [renderSelected, selectedLeaves]
      exact follows_render c inner _
  | list items =>
      rw [renderSelected, selectedLeaves]
      exact follows_renderItem c items _ _ _ index
  | _ =>
      rw [renderSelected, selectedLeaves]
      · exact follows_throw c _
      all_goals simp

theorem follows_renderItem (c : RenderContext) (items : List Expr)
    (position selected count : Nat) (index : Option Nat) :
    Follows c (c.renderItem items position selected count index)
      (itemLeaves items position selected count) := by
  cases items with
  | nil =>
      rw [renderItem, itemLeaves]
      exact follows_throw c _
  | cons item rest =>
      cases position with
      | zero =>
          cases item with
          | intrinsic inner =>
              rw [renderItem, itemLeaves]
              exact follows_render c inner index
          | _ =>
              rw [renderItem, itemLeaves]
              · exact follows_throw c _
              all_goals simp
      | succ position =>
          rw [renderItem, itemLeaves]
          exact follows_renderItem c rest position selected count index

theorem follows_renderVariable (c : RenderContext) (name : String)
    (bindings : List (String × Expr)) :
    (∃ x ls, c.renderVariable name bindings = some x ∧ variableLeaves name bindings = some ls ∧
      Follows c x ls) ∨
      c.renderVariable name bindings = none ∧ variableLeaves name bindings = none := by
  cases bindings with
  | nil => exact .inr ⟨rfl, rfl⟩
  | cons binding rest =>
      obtain ⟨key, value⟩ := binding
      unfold renderVariable variableLeaves
      by_cases hkey : (key == name) = true
      · rw [if_pos hkey, if_pos hkey]
        refine .inl ⟨_, _, rfl, rfl, ?_⟩
        cases value with
        | intrinsic inner => exact (follows_render c inner none).andThen
        | _ =>
            dsimp only
            split
            · next text htext =>
                rw [literalLeaves, htext]
                exact follows_pure c _
            · next htext =>
                rw [literalLeaves, htext]
                exact follows_throw c _
      · rw [if_neg hkey, if_neg hkey]
        exact follows_renderVariable c name rest

theorem follows_renderJoined (c : RenderContext) (items : Expr) :
    Follows c (c.renderJoined items) (joinedLeaves items) := by
  cases items with
  | list items =>
      rw [renderJoined, joinedLeaves]
      exact (follows_renderJoinedItems c items).andThen
  | intrinsic inner =>
      rw [renderJoined, joinedLeaves]
      exact (follows_render c inner none).andThen
  | _ =>
      rw [renderJoined, joinedLeaves]
      · exact follows_throw c _
      all_goals simp

theorem follows_renderJoinedItems (c : RenderContext) (items : List Expr) :
    Follows c (c.renderJoinedItems items) (joinedItemLeaves items) := by
  cases items with
  | nil =>
      rw [renderJoinedItems, joinedItemLeaves]
      exact follows_pure c _
  | cons item rest =>
      have hrest := follows_renderJoinedItems c rest
      unfold renderJoinedItems joinedItemLeaves
      cases item with
      | intrinsic inner =>
          exact (follows_render c inner none).bind fun _ => (follows_pure c _).bind fun _ =>
            hrest.andThen
      | _ =>
          dsimp only
          split
          · next text htext =>
              rw [literalLeaves, htext]
              exact (follows_pure c _).bind fun _ => hrest.andThen
          · next htext =>
              rw [literalLeaves, htext]
              exact (follows_throw c _).bind fun _ => hrest.andThen

theorem follows_renderArgument (c : RenderContext) (tag : String) (e : Expr) :
    Follows c (c.renderArgument tag e) (argumentLeaves tag e) := by
  cases e with
  | intrinsic inner =>
      rw [renderArgument, argumentLeaves]
      exact (follows_render c inner none).andThen
  | list items =>
      rw [renderArgument, argumentLeaves]
      exact (follows_renderArguments c tag items).andThen
  | object _ =>
      rw [renderArgument, argumentLeaves]
      exact follows_throw c _
  | _ =>
      rw [renderArgument, argumentLeaves]
      · exact follows_pure c _
      all_goals simp

theorem follows_renderArguments (c : RenderContext) (tag : String) (items : List Expr) :
    Follows c (c.renderArguments tag items) (argumentsLeaves tag items) := by
  cases items with
  | nil =>
      rw [renderArguments, argumentsLeaves]
      exact follows_pure c _
  | cons item rest =>
      rw [renderArguments, argumentsLeaves]
      exact (follows_renderArgument c tag item).bind fun _ =>
        (follows_renderArguments c tag rest).andThen

theorem follows_renderKey (c : RenderContext) (e : Expr) :
    Follows c (c.renderKey e) (keyLeaves e) := by
  cases e with
  | string s =>
      rw [renderKey, keyLeaves]
      exact follows_pure c _
  | intrinsic inner =>
      unfold renderKey keyLeaves
      cases inner with
      | ref name => exact (follows_renderRef c name none).andThen
      | _ => exact follows_throw c _
  | _ =>
      rw [renderKey, keyLeaves]
      · exact follows_throw c _
      all_goals simp

end

/-! ### What is left -/

theorem register_eq_self_iff {d : Declaration} :
    ds.register d = ds ↔ ds.has d.address = true := by
  unfold Declarations.register
  split
  · next h => exact iff_of_true rfl h
  · next h => exact iff_of_false (by simp) h

/-- Registering leaves things as they are when every address is taken. -/
theorem registerAll_eq_self_iff {new : Declarations} :
    registerAll ds new = ds ↔ ∀ d ∈ new, ds.has d.address = true := by
  constructor
  · intro h d hd
    have hnew : new.has d.address = true := List.any_eq_true.mpr ⟨d, hd, beq_self_eq_true _⟩
    rw [← h, has_registerAll, hnew, Bool.or_true]
  · intro h
    induction new with
    | nil => rfl
    | cons d new ih =>
        obtain ⟨hd, hnew⟩ := List.forall_mem_cons.mp h
        rw [registerAll_cons, register_eq_self_iff.mpr hd, ih hnew]

variable {call : Intrinsic} {index : Option Nat} {e : RenderError}

/-- A rendering that fails registers what the parts in front of the failing one declare, one after
the other, and nothing else. So it leaves no trace exactly when all of that was there already. -/
theorem failed_rendering_registers (h : (c.render call index).run ds = (.error e, ds')) :
    ∃ done failing behind, leaves call = done ++ failing :: behind ∧
      (∀ leaf ∈ done, ∃ new, leaf.outcome c = .ok new) ∧ failing.outcome c = .error e ∧
      ds' = registerAll ds (done.flatMap (Leaf.declared c)) ∧
      (ds' = ds ↔ ∀ leaf ∈ done, ∀ d ∈ leaf.declared c, ds.has d.address = true) := by
  have hcarry := follows_render c call index ds
  rw [h] at hcarry
  obtain ⟨done, failing, behind, hleaves, hdone, hfailing, hds'⟩ :=
    exists_of_carry_eq_some hcarry.symm
  dsimp only at hds'
  refine ⟨done, failing, behind, hleaves, hdone, hfailing, hds', ?_⟩
  rw [hds', registerAll_eq_self_iff]
  constructor
  · intro h leaf hleaf d hd
    exact h d (List.mem_flatMap.mpr ⟨leaf, hleaf, hd⟩)
  · intro h d hd
    obtain ⟨leaf, hleaf, hd⟩ := List.mem_flatMap.mp hd
    exact h leaf hleaf d hd

/-- A context in which nothing is known. -/
def emptyContext : RenderContext := ⟨.empty, [], ⟨.none "", []⟩, []⟩

/-- The region and a resource that there is not, joined. -/
def regionAndUnknown : Intrinsic :=
  .join "-" (.list [.intrinsic (.ref "AWS::Region"), .intrinsic (.ref "Nope")])

def regionSource : Declaration := .dataSource ⟨"aws_region", "current", []⟩

theorem run_regionAndUnknown :
    (emptyContext.render regionAndUnknown none).run [] =
      (.error (.unresolvedReference "Nope"), [regionSource]) := by
  cbv

theorem failed_rendering_registers_region :
    ∃ done failing behind, leaves regionAndUnknown = done ++ failing :: behind ∧
      failing.outcome emptyContext = .error (.unresolvedReference "Nope") ∧
      [regionSource] = registerAll [] (done.flatMap (Leaf.declared emptyContext)) := by
  obtain ⟨done, failing, behind, hleaves, -, hfailing, hds, -⟩ :=
    failed_rendering_registers run_regionAndUnknown
  exact ⟨done, failing, behind, hleaves, hfailing, hds⟩

/-- The look-up of the region stays declared though its expression is never produced. -/
theorem failed_rendering_leaves_trace :
    (emptyContext.render regionAndUnknown none).run [] =
        (.error (.unresolvedReference "Nope"), [regionSource]) ∧
      [regionSource] ≠ ([] : Declarations) :=
  ⟨run_regionAndUnknown, by simp⟩

end StackExport.Proofs.FailedRendering
