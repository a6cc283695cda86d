import Mathlib
import StackExport.Proofs.ExpressionWords
import StackExport.Proofs.SubstitutionReading
/-!
The words of rendered calls.

Whatever a call is rendered as names variables and data sources that are declared behind it,
resources of the mappings, modules and the look-up tables, and nothing else: this holds as long as
the names that a template brings along are names of the configuration language and the pieces of
each substitution stay apart.
-/
namespace StackExport.Proofs.RenderedWords

open StackExport
open StackExport.RenderContext
open StackExport.Proofs.CodeWords
open StackExport.Proofs.ExpressionWords
open StackExport.Proofs.NumeralReading
open StackExport.Proofs.RegisteredDeclarations
open StackExport.Proofs.RenderingSteps
open StackExport.Proofs.RenderingIndependence
open StackExport.Proofs.RenderingResult
open StackExport.Proofs.SubstitutionReading
open StackExport.Proofs.TemplatePieces

variable {c : RenderContext} {D : String → Prop} {P : List Char → Prop}

/-! ### What rendering returns under its declarations -/

/-- What a rendering returns has a property, provided that what is declared behind it is in `D`. -/
def Under {α : Type} (D : String → Prop) (x : Rendering α) (Q : α → Prop) : Prop :=
  ∀ ds a ds', x.run ds = (.ok a, ds') → (∀ address, ds'.has address = true → D address) → Q a

variable {α β : Type} {x : Rendering α} {Q : α → Prop}

theorem under_of_returns (h : Returns x Q) : Under D x Q := fun ds a ds' hrun _ => h ds a ds' hrun

theorem under_throw (e : RenderError) : Under D (throw e : Rendering α) Q :=
  under_of_returns (returns_throw e)

theorem under_pure {a : α} (h : Q a) : Under D (pure a) Q := under_of_returns (returns_pure h)

theorem under_declare (d : Declaration) : Under D (declare d) fun _ => D d.address := by
  intro ds _ ds' hrun hall
  cases hrun
  apply hall
  change (registerAll ds [d]).has d.address = true
  rw [has_registerAll]
  simp [Declarations.has]

/-- What is declared stays declared while the rest is rendered. -/
theorem Under.bind {f : α → Rendering β} {R : β → Prop} (hx : Under D x Q)
    (hcomposed : ∀ a, Composed c (f a)) (hf : ∀ a, Q a → Under D (f a) R) :
    Under D (x >>= f) R := by
  intro ds b ds' hrun hall
  rw [run_bind] at hrun
  rcases hstep : x.run ds with ⟨e | a, ds₁⟩
  · rw [hstep] at hrun
    cases hrun
  · rw [hstep] at hrun
    dsimp only at hrun
    have hgrown := run_eq_of_composed (hcomposed a) ds₁
    rw [hrun, Prod.mk.injEq] at hgrown
    have hfirst : Q a := by
      refine hx ds a ds₁ hstep fun address hhas => hall address ?_
      rw [hgrown.2, has_registerAll, hhas, Bool.true_or]
    exact hf a hfirst ds₁ b ds' hrun hall

theorem Under.map {f : α → β} {R : β → Prop} (hx : Under D x Q) (hf : ∀ a, Q a → R (f a)) :
    Under D (x >>= fun a => pure (f a)) R := by
  intro ds b ds' hrun hall
  rw [run_bind] at hrun
  rcases hstep : x.run ds with ⟨e | a, ds₁⟩
  · rw [hstep] at hrun
    cases hrun
  · rw [hstep] at hrun
    cases hrun
    exact hf a (hx ds a _ hstep hall)

theorem Under.mono {Q' : α → Prop} (hx : Under D x Q) (h : ∀ a, Q a → Q' a) : Under D x Q' :=
  fun ds a ds' hrun hall => h a (hx ds a ds' hrun hall)

theorem Under.and_returns {Q' : α → Prop} (hx : Under D x Q) (h : Returns x Q') :
    Under D x fun a => Q a ∧ Q' a :=
  fun ds a ds' hrun hall => ⟨hx ds a ds' hrun hall, h ds a ds' hrun⟩

theorem under_lift_bind {γ : Type} {y : Except RenderError γ} {f : γ → Rendering β} {R : β → Prop}
    (hf : ∀ a, y = .ok a → Under D (f a) R) : Under D (liftM y >>= f) R := by
  cases y with
  | ok a => exact hf a rfl
  | error e => exact under_throw e

/-! ### Templates with legible names -/

/-- The expression for an attribute is a word. -/
def FieldIsPath (c : RenderContext) (resource field : String) : Prop :=
  ∀ r, c.renderField resource field = .ok r → IsPath r.expression

mutual

/-- True of a call whose attributes are words, also in the placeholders of texts, and whose
substitutions have their pieces apart. -/
def Legible (c : RenderContext) : Intrinsic → Prop
  | .getAtt resource field => ∀ name, c.fieldName field = .ok name → FieldIsPath c resource name
  | .sub text bindings =>
    (∀ ps, callPieces c (.sub text bindings) = some ps → Apart none ps) ∧
      (∀ name id field, .placeholder name ∈ Interpolation.parts text →
        Text.splitOnce? '.' name = some (id, field) → FieldIsPath c id field) ∧
      LegibleEntries c bindings
  | .join _ items => LegibleValue c items
  | .select _ items => LegibleValue c items
  | .split _ source => LegibleValue c source
  | .base64 value => LegibleValue c value
  | .cidr block _ _ => LegibleValue c block
  | _ => True

def LegibleValue (c : RenderContext) : Expr → Prop
  | .intrinsic call => Legible c call
  | .list items => LegibleItems c items
  | _ => True

def LegibleItems (c : RenderContext) : List Expr → Prop
  | [] => True
  | item :: rest => LegibleValue c item ∧ LegibleItems c rest

def LegibleEntries (c : RenderContext) : List (String × Expr) → Prop
  | [] => True
  | (_, value) :: rest => LegibleValue c value ∧ LegibleEntries c rest

end

/-! ### References and attributes -/

abbrev Writes (D : String → Prop) (P : List Char → Prop) (x : Rendering Reference) : Prop :=
  Under D x fun r => ReadsText P r.expression

theorem reads_parameter (h : Admits c D P) {p : Parameter} (hname : IsName p.name)
    (hdeclared : D (Declaration.ofParameter p).address) (index : Option Nat) :
    ReadsText P (if p.isStored then Reference.dataSource "aws_ssm_parameter" p.name "value" true
      else .variable p.name index).expression := by
  unfold Declaration.ofParameter at hdeclared
  split_ifs at hdeclared ⊢
  · have htype : IsName "aws_ssm_parameter" := isName_of_all (by decide)
    exact reads_dataSource h htype hname (isPath_of_isWord (by decide)) hdeclared true
  · exact reads_variable h hname hdeclared index

theorem writes_renderRef (h : Admits c D P) (hnamed : Named c) (name : String)
    (index : Option Nat) : Writes D P (c.renderRef name index) := by
  unfold renderRef
  split
  · split
    · next type source field hsource =>
        have hnames : type.toList.all Text.isNameRest = true ∧
            source.toList.all Text.isNameRest = true ∧ field.toList.all IsWord = true := by
          unfold pseudoSource? at hsource
          split at hsource <;> cases hsource <;> decide
        refine (under_declare _).map fun _ hdeclared => ?_
        exact reads_dataSource h (isName_of_all hnames.1) (isName_of_all hnames.2.1)
          (isPath_of_isWord hnames.2.2) hdeclared true
    · exact under_throw _
  · split
    · next p hp =>
        obtain ⟨hmem, rfl⟩ := mem_of_parameter? hp
        refine (under_declare (.ofParameter p)).bind (c := c) (fun _ => ?_) fun _ hdeclared => ?_
        · split <;> exact .result _
        · have hreads := reads_parameter h (hnamed.parameters p hmem) hdeclared index
          split_ifs at hreads ⊢ <;> exact under_pure hreads
    · refine under_lift_bind fun m hm => under_pure ?_
      exact reads_element h (reads_direct h hnamed (mem_of_mappingOf hm).1) rfl index

theorem reads_renderField (h : Admits c D P) {resource field : String}
    (hpath : FieldIsPath c resource field) {r : Reference}
    (hr : c.renderField resource field = .ok r) : ReadsText P r.expression := by
  have hword := hpath r hr
  rcases renderField_cases hr with ⟨path, rfl⟩ | ⟨m, name, hm, rfl⟩
  · exact reads_path hword (h.ofModule path)
  · exact reads_path hword (h.ofResource m (mem_of_mappingOf hm).1 name)

theorem takesIndex_renderField {resource field : String} {r : Reference}
    (hr : c.renderField resource field = .ok r) : takesIndex r = false := by
  obtain ⟨path, rfl⟩ | ⟨m, name, -, rfl⟩ := renderField_cases hr <;> rfl

theorem writes_renderPlaceholder (h : Admits c D P) (hnamed : Named c) (name : String)
    (hpath : ∀ id field, Text.splitOnce? '.' name = some (id, field) → FieldIsPath c id field) :
    Writes D P (c.renderPlaceholder name) := by
  unfold renderPlaceholder
  split
  · next id field hsplit =>
      split
      · exact writes_renderRef h hnamed name none
      · exact under_of_returns (returns_lift fun _ => reads_renderField h (hpath id field hsplit))
  · exact writes_renderRef h hnamed name none

/-! ### Quoted templates -/

/-- The expressions among some pieces have words with the property. -/
def LiveRead (P : List Char → Prop) (pieces : Option (List Piece)) : Prop :=
  ∀ ps, pieces = some ps → ∀ e, .live e ∈ ps → ReadsText P e

theorem liveRead_livePiece {r : Reference} (h : ReadsText P r.expression) :
    LiveRead P (livePiece (.ok r)) := by
  intro ps hps e he
  cases hps
  cases List.mem_singleton.mp he
  exact h

theorem liveRead_literal (text : Option String) :
    LiveRead P (text.map fun text => [.literal text]) := by
  intro ps hps e he
  obtain ⟨text, -, rfl⟩ := Option.map_eq_some_iff.mp hps
  cases List.mem_singleton.mp he

theorem LiveRead.append {a b : Option (List Piece)} (ha : LiveRead P a) (hb : LiveRead P b) :
    LiveRead P (do return (← a) ++ (← b)) := by
  intro ps hps e he
  obtain ⟨first, hfirst, hps⟩ := Option.bind_eq_some_iff.mp hps
  obtain ⟨rest, hrest, hps⟩ := Option.bind_eq_some_iff.mp hps
  cases hps
  exact (List.mem_append.mp he).elim (ha first hfirst e) (hb rest hrest e)

/-- Has the declarations behind it under which the expressions among some pieces have words with the
property. -/
abbrev LiveUnder (D : String → Prop) (P : List Char → Prop) {α : Type} (x : Rendering α)
    (pieces : Option (List Piece)) : Prop :=
  Under D x fun _ => LiveRead P pieces

theorem liveUnder_of_writes {x : Rendering Reference} (hx : Independent x) (h : Writes D P x) :
    LiveUnder D P x (livePiece (x.run []).1) := by
  intro ds r ds' hrun hall
  rw [returns_of_independent hx ds r ds' hrun]
  exact liveRead_livePiece (h ds r ds' hrun hall)

theorem liveUnder_renderParts {given : String → Option (Rendering String)}
    {valued : String → Option (Option (List Piece))} (parts : List Interpolation.Part)
    (hcomposed : ∀ name rendered, given name = some rendered → Composed c rendered)
    (hsome : ∀ name rendered, given name = some rendered →
      ∃ pieces, valued name = some pieces ∧ LiveUnder D P rendered pieces)
    (hnone : ∀ name, .placeholder name ∈ parts → given name = none →
      valued name = none ∧ LiveUnder D P (c.renderPlaceholder name) (placeholderPieces c name)) :
    LiveUnder D P (c.renderParts given parts)
      (partPieces (fun name => (valued name).getD (placeholderPieces c name)) parts) := by
  induction parts with
  | nil =>
      refine under_pure ?_
      rintro ps ⟨⟩ e ⟨⟩
  | cons part rest ih =>
      have hrest := ih fun name hname => hnone name (List.mem_cons_of_mem _ hname)
      have htail := composed_renderParts c hcomposed rest
      cases part with
      | literal text =>
          rw [renderParts, partPieces]
          refine hrest.map fun _ hlive ps hps e he => ?_
          obtain ⟨tail, htail, rfl⟩ := Option.map_eq_some_iff.mp hps
          rcases List.mem_cons.mp he with he | he
          · cases he
          · exact hlive tail htail e he
      | placeholder name =>
          rw [renderParts, partPieces]
          have hwith (x : Rendering String) (pieces : Option (List Piece))
              (hx : LiveUnder D P x pieces) :
              LiveUnder D P (do
                  let text ← x
                  let tail ← c.renderParts given rest
                  return text ++ tail)
                (do return (← pieces) ++ (← partPieces
                  (fun name => (valued name).getD (placeholderPieces c name)) rest)) :=
            hx.bind (fun _ => htail.bind fun _ => .result _) fun _ hfirst =>
              hrest.map fun _ hlive => hfirst.append hlive
          rcases hgiven : given name with _ | rendered
          · obtain ⟨hvalued, hlive⟩ := hnone name List.mem_cons_self hgiven
            rw [hvalued]
            exact hwith _ _ (hlive.map fun _ => id)
          · obtain ⟨pieces, hpieces, hlive⟩ := hsome name rendered hgiven
            rw [hpieces]
            exact hwith _ _ hlive

/-- What a call is rendered as has words with the property, and so have the expressions that it gives
inside a quoted template. -/
abbrev WritesCall (D : String → Prop) (P : List Char → Prop) (x : Rendering Reference)
    (index : Option Nat) (pieces : Option (List Piece)) : Prop :=
  Under D x fun r => ReadsText P r.expression ∧ (index = none → LiveRead P pieces)

theorem callPieces_of_plain {call : Intrinsic} (h : mayBeTemplate call = false) :
    callPieces c call = livePiece (rendering c call) := by
  unfold callPieces
  split <;> first | rfl | cases h

theorem writesCall_of_plain {call : Intrinsic} (hplain : mayBeTemplate call = false)
    {index : Option Nat} (hx : Writes D P (c.render call index)) :
    WritesCall D P (c.render call index) index (callPieces c call) := by
  intro ds r ds' hrun hall
  have hreads := hx ds r ds' hrun hall
  refine ⟨hreads, ?_⟩
  rintro rfl
  rw [callPieces_of_plain hplain, ← run_render_eq c call ds, hrun]
  exact liveRead_livePiece hreads

theorem reads_interpolation (h : Admits c D P) {ps : List Piece}
    (hlive : ∀ e, .live e ∈ ps → ReadsText P e) (hapart : Apart none ps) (index : Option Nat) :
    ReadsText P (indexed (.interpolation (body ps)) index).expression := by
  refine reads_element h ?_ rfl index
  have htext : (Reference.interpolation (body ps)).expression.toList =
      '"' :: ((body ps).toList ++ ['"']) := by
    rw [Reference.expression, String.toList_append, String.toList_append]
    rfl
  rw [ReadsText, htext]
  exact reads_template h.nil hlive hapart

/-! ### Calls -/

theorem reads_joined (h : Admits c D P) (delimiter : String) {items : Argument}
    (hitems : ReadsArgument P items) : ∀ arg ∈ [.string delimiter, items], ReadsArgument P arg := by
  intro arg harg
  rcases List.mem_cons.mp harg with rfl | harg
  · exact readsArgument_string h delimiter
  · obtain rfl := List.mem_singleton.mp harg
    exact hitems

theorem writes_zones (h : Admits c D P) (region : Expr) (index : Option Nat) :
    Writes D P (c.render (.zones region) index) := by
  rw [render]
  refine (under_declare _).map fun _ hdeclared => ?_
  have htype : IsName "aws_availability_zones" := isName_of_all (by decide)
  have hname : IsName "available" := isName_of_all (by decide)
  have hfield : IsPath "names" := isPath_of_isWord (by decide)
  have hnames := reads_dataSource h htype hname hfield hdeclared false
  have htext : (Reference.dataSource zonesSource.type zonesSource.name
      ("names" ++ indexSuffix index) false).expression =
      (Reference.dataSource "aws_availability_zones" "available" "names" false).expression ++
        indexSuffix index := by
    rw [Reference.expression, Reference.expression, ← String.append_assoc]
    rfl
  rw [htext]
  exact readsText_indexSuffix h hnames index

theorem writes_importValue (h : Admits c D P) (name : Expr) (index : Option Nat) :
    Writes D P (c.render (.importValue name) index) := by
  rw [render]
  split
  · exact under_throw _
  · next text htext =>
      refine (under_declare _).map fun _ hdeclared => reads_element h ?_ rfl index
      have htype : IsName "aws_cloudformation_export" := isName_of_all (by decide)
      exact reads_dataSource h htype (isName_label text) (isPath_of_isWord (by decide)) hdeclared
        false

/-! ### Look-ups -/

theorem extends_bracketed_text (h : Admits c D P) {text : String} (ht : ReadsText P text) :
    Extends P ("[" ++ text ++ "]").toList := by
  have htext : ("[" ++ text ++ "]").toList = '[' :: (text.toList ++ [']']) := by
    rw [String.toList_append, String.toList_append]
    rfl
  rw [htext]
  exact extends_bracketed ht h.nil

theorem extends_renderKey (h : Admits c D P) (hnamed : Named c) (e : Expr) :
    Under D (c.renderKey e) fun text => Extends P text.toList := by
  cases e with
  | string key =>
      rw [renderKey]
      refine under_pure ?_
      split_ifs with hkey
      · rw [String.toList_append]
        have hname := Lexemes.isNameRest_of_isIdentifier hkey
        exact extends_name h.hanging (isPath_of_isName (isName_of_isNameRest hname))
      · exact extends_bracketed_text h (reads_quote h.nil key)
  | intrinsic inner =>
      cases inner with
      | ref name =>
          rw [renderKey]
          exact (writes_renderRef h hnamed name none).map fun _ => extends_bracketed_text h
      | _ =>
          rw [renderKey]
          · exact under_throw _
          all_goals simp
  | _ =>
      rw [renderKey]
      · exact under_throw _
      all_goals simp

theorem reads_lookUp (h : Admits c D P) {map top second : String} (hmap : Extends P map.toList)
    (htop : Extends P top.toList) (hsecond : Extends P second.toList) (index : Option Nat) :
    ReadsText P
      (Reference.map ("local.mappings" ++ map ++ top ++ second ++ indexSuffix index)).expression := by
  refine readsText_indexSuffix h ?_ index
  have htext : ("local.mappings" ++ map ++ top ++ second).toList =
      "local.mappings".toList ++ (map.toList ++ top.toList ++ second.toList) := by
    simp [String.toList_append]
  rw [ReadsText, htext]
  exact Extends.reads h.nil
    (isPath_of_isWord (show "local.mappings".toList.all IsWord = true by decide))
    h.ofLookUps ((hmap.append htop).append hsecond)

theorem writes_findInMap (h : Admits c D P) (hnamed : Named c) (map top second : Expr)
    (index : Option Nat) : Writes D P (c.render (.findInMap map top second) index) := by
  rw [render]
  refine (extends_renderKey h hnamed map).bind (c := c) (fun _ => ?_) fun mapText hmap => ?_
  · refine (composed_renderKey c top).bind fun _ => ?_
    exact (composed_renderKey c second).bind fun _ => .result _
  refine (extends_renderKey h hnamed top).bind (c := c) (fun _ => ?_) fun topText htop => ?_
  · exact (composed_renderKey c second).bind fun _ => .result _
  exact (extends_renderKey h hnamed second).map fun _ hsecond =>
    reads_lookUp h hmap htop hsecond index

/-! ### All calls -/

-- One rule for each function of the rendering, by their recursion. The declarations that a property
-- may rely on are those behind the whole call, so each step must keep what the steps before it
-- declared: this is what `Composed` says of the steps that follow.
mutual

theorem writes_render (h : Admits c D P) (hnamed : Named c) (call : Intrinsic)
    (index : Option Nat) (hlegible : Legible c call) :
    WritesCall D P (c.render call index) index (callPieces c call) := by
  cases call with
  | ref name =>
      apply writesCall_of_plain rfl
      rw [render]
      exact writes_renderRef h hnamed name index
  | getAtt resource field =>
      apply writesCall_of_plain rfl
      rw [render]
      refine under_lift_bind fun name hname => under_lift_bind fun r hr => under_pure ?_
      exact reads_element h (reads_renderField h (hlegible name hname) hr)
        (takesIndex_renderField hr) index
  | sub text bindings =>
      obtain ⟨hapart, hfields, hbindings⟩ := hlegible
      rw [render]
      have hlive := liveUnder_renderParts (Interpolation.parts text)
        (fun name => composed_renderVariable c name bindings)
        (fun name => live_renderVariable h hnamed name bindings hbindings)
        fun name hname hnone => ⟨variablePieces_eq_none c name bindings hnone,
          liveUnder_of_writes (independent_renderPlaceholder c name)
            (writes_renderPlaceholder h hnamed name fun id field => hfields name id field hname)⟩
      have hbody := gives_renderParts c (fun name => gives_renderVariable c name bindings)
        (fun name => variablePieces_eq_none c name bindings) (Interpolation.parts text)
      refine (hlive.and_returns hbody).map ?_
      rintro _ ⟨hlive, ps, hps, rfl⟩
      refine ⟨reads_interpolation h (hlive ps hps) (hapart ps ?_) index, fun _ => ?_⟩
      · rw [callPieces, hps]
      · rwa [callPieces]
  | join delimiter items =>
      apply writesCall_of_plain rfl
      rw [render]
      exact (writes_renderJoined h hnamed items hlegible).map fun _ hitems =>
        reads_call h (by decide) (reads_joined h delimiter hitems) none index
  | select selector items =>
      cases items with
      | list items =>
          rw [render, callPieces]
          refine under_lift_bind fun selected hselected => ?_
          rw [index?_of_literalIndex hselected, renderSelected]
          exact writes_renderItem h hnamed items selected selected items.length index hlegible
      | intrinsic inner =>
          apply writesCall_of_plain rfl
          rw [render]
          refine under_lift_bind fun selected _ => ?_
          rw [renderSelected]
          exact (writes_render h hnamed inner (some selected) hlegible).mono fun _ => And.left
      | _ =>
          rw [render]
          refine under_lift_bind fun selected _ => ?_
          rw [renderSelected]
          · exact under_throw _
          all_goals simp
  | split delimiter source =>
      apply writesCall_of_plain rfl
      rw [render]
      exact (writes_renderArgument h hnamed _ source hlegible).map fun _ hsource =>
        reads_call h (by decide) (reads_joined h delimiter hsource) none index
  | base64 value =>
      apply writesCall_of_plain rfl
      rw [render]
      exact (writes_renderArgument h hnamed _ value hlegible).map fun _ hvalue =>
        reads_call h (by decide) (List.forall_mem_singleton.mpr hvalue) none index
  | cidr block count bits =>
      apply writesCall_of_plain rfl
      rw [render]
      refine under_lift_bind fun count _ => under_lift_bind fun bits _ =>
        under_lift_bind fun grown _ => ?_
      refine (writes_renderArgument h hnamed _ block hlegible).map fun _ hblock =>
        reads_call h (by decide) (fun arg harg => ?_) index index
      rcases List.mem_cons.mp harg with rfl | harg
      · exact hblock
      · obtain rfl := (List.mem_replicate.mp harg).2
        exact readsArgument_number h _
  | findInMap map top second =>
      exact writesCall_of_plain rfl (writes_findInMap h hnamed map top second index)
  | zones region => exact writesCall_of_plain rfl (writes_zones h region index)
  | importValue name => exact writesCall_of_plain rfl (writes_importValue h name index)
  | unsupported tag =>
      rw [render]
      exact under_throw _

theorem writes_renderItem (h : Admits c D P) (hnamed : Named c) (items : List Expr)
    (position selected count : Nat) (index : Option Nat) (hlegible : LegibleItems c items) :
    WritesCall D P (c.renderItem items position selected count index) index
      (itemPieces c items position) := by
  cases items with
  | nil =>
      rw [renderItem]
      exact under_throw _
  | cons item rest =>
      cases position with
      | zero =>
          cases item with
          | intrinsic inner =>
              rw [renderItem, itemPieces]
              exact writes_render h hnamed inner index hlegible.1
          | _ =>
              rw [renderItem]
              · exact under_throw _
              all_goals simp
      | succ position =>
          rw [renderItem, itemPieces]
          exact writes_renderItem h hnamed rest position selected count index hlegible.2

theorem live_renderVariable (h : Admits c D P) (hnamed : Named c) (name : String)
    (bindings : List (String × Expr)) (hlegible : LegibleEntries c bindings)
    (rendered : Rendering String) (hrendered : c.renderVariable name bindings = some rendered) :
    ∃ pieces, variablePieces c name bindings = some pieces ∧ LiveUnder D P rendered pieces := by
  cases bindings with
  | nil => cases hrendered
  | cons binding rest =>
      obtain ⟨key, value⟩ := binding
      unfold renderVariable at hrendered
      unfold variablePieces
      by_cases hkey : (key == name) = true
      · rw [if_pos hkey, Option.some.injEq] at hrendered
        rw [if_pos hkey]
        subst hrendered
        refine ⟨_, rfl, ?_⟩
        cases value with
        | intrinsic inner =>
            exact (writes_render h hnamed inner none hlegible.1).map fun _ hr => hr.2 rfl
        | _ =>
            dsimp only
            split
            · exact under_pure (liveRead_literal _)
            · exact under_throw _
      · rw [if_neg hkey] at hrendered
        rw [if_neg hkey]
        exact live_renderVariable h hnamed name rest hlegible.2 rendered hrendered

theorem writes_renderJoined (h : Admits c D P) (hnamed : Named c) (items : Expr)
    (hlegible : LegibleValue c items) : Under D (c.renderJoined items) (ReadsArgument P) := by
  cases items with
  | list items =>
      rw [renderJoined]
      exact (writes_renderJoinedItems h hnamed items hlegible).map fun _ => readsArgument_list h
  | intrinsic inner =>
      rw [renderJoined]
      exact (writes_render h hnamed inner none hlegible).map fun _ hr => hr.1
  | _ =>
      rw [renderJoined]
      · exact under_throw _
      all_goals simp

theorem writes_renderJoinedItems (h : Admits c D P) (hnamed : Named c) (items : List Expr)
    (hlegible : LegibleItems c items) :
    Under D (c.renderJoinedItems items) fun args => ∀ arg ∈ args, ReadsArgument P arg := by
  cases items with
  | nil =>
      rw [renderJoinedItems]
      exact under_pure nofun
  | cons item rest =>
      have hrest := writes_renderJoinedItems h hnamed rest hlegible.2
      have hcomposed := composed_renderJoinedItems c rest
      have hwith (item : Argument) (hitem : ReadsArgument P item) :
          Under D (do
              let rest ← c.renderJoinedItems rest
              return item :: rest) fun args => ∀ arg ∈ args, ReadsArgument P arg :=
        hrest.map fun _ hrest => List.forall_mem_cons.mpr ⟨hitem, hrest⟩
      unfold renderJoinedItems
      cases item with
      | intrinsic inner =>
          refine (writes_render h hnamed inner none hlegible.1).bind (c := c) (fun _ => ?_)
            fun r hr => hwith (.reference r) hr.1
          exact .bind (.result _) fun _ => hcomposed.bind fun _ => .result _
      | _ =>
          dsimp only
          split
          · exact hwith (.string _) (readsArgument_string h _)
          · exact under_throw _

theorem writes_renderArgument (h : Admits c D P) (hnamed : Named c) (tag : String) (e : Expr)
    (hlegible : LegibleValue c e) : Under D (c.renderArgument tag e) (ReadsArgument P) := by
  cases e with
  | intrinsic inner =>
      rw [renderArgument]
      exact (writes_render h hnamed inner none hlegible).map fun _ hr => hr.1
  | string s =>
      rw [renderArgument]
      exact under_pure (readsArgument_string h s)
  | number x =>
      rw [renderArgument]
      exact under_pure (readsArgument_number h x)
  | bool b =>
      rw [renderArgument]
      exact under_pure (readsArgument_bool h b)
  | null =>
      rw [renderArgument]
      exact under_pure (readsArgument_string h "")
  | list items =>
      rw [renderArgument]
      exact (writes_renderArguments h hnamed tag items hlegible).map fun _ => readsArgument_list h
  | object _ =>
      rw [renderArgument]
      exact under_throw _

theorem writes_renderArguments (h : Admits c D P) (hnamed : Named c) (tag : String)
    (items : List Expr) (hlegible : LegibleItems c items) :
    Under D (c.renderArguments tag items) fun args => ∀ arg ∈ args, ReadsArgument P arg := by
  cases items with
  | nil =>
      rw [renderArguments]
      exact under_pure nofun
  | cons item rest =>
      rw [renderArguments]
      refine (writes_renderArgument h hnamed tag item hlegible.1).bind (c := c) (fun _ => ?_)
        fun _ hitem => ?_
      · exact (composed_renderArguments c tag rest).bind fun _ => .result _
      exact (writes_renderArguments h hnamed tag rest hlegible.2).map fun _ hrest =>
        List.forall_mem_cons.mpr ⟨hitem, hrest⟩

end

end StackExport.Proofs.RenderedWords
