import Mathlib
import StackExport.Proofs.RenderingResult
import StackExport.Proofs.TemplatePieces
/-!
What the template that renders a substitution reads as.

The pieces of a substitution are its literal texts, the literal values of its variables, and one
live sequence for each placeholder that stands for a reference. Substitutions inside it give their own
pieces. Rendering escapes each piece on its own, so the template reads as its pieces exactly when no
literal ends in a sign that the next piece goes on with.
-/
namespace StackExport.Proofs.SubstitutionReading

open StackExport
open StackExport.RenderContext
open StackExport.Proofs.RenderingIndependence
open StackExport.Proofs.RenderingResult
open StackExport.Proofs.TemplatePieces

/-! ### Pieces of a substitution -/

/-- A rendered reference as a piece. -/
def livePiece : Except RenderError Reference → Option (List Piece)
  | .ok r => some [.live r.expression]
  | .error _ => none

/-- The pieces of a text with placeholders. -/
def partPieces (placeholder : String → Option (List Piece)) :
    List Interpolation.Part → Option (List Piece)
  | [] => some []
  | .literal text :: rest => (partPieces placeholder rest).map (.literal text :: ·)
  | .placeholder name :: rest => do return (← placeholder name) ++ (← partPieces placeholder rest)

/-- The pieces for a placeholder that has no value beside the text. -/
def placeholderPieces (c : RenderContext) (name : String) : Option (List Piece) :=
  livePiece ((c.renderPlaceholder name).run []).1

mutual

/-- The pieces that a call gives inside a quoted template. -/
def callPieces (c : RenderContext) : Intrinsic → Option (List Piece)
  | .sub text bindings =>
    partPieces (fun name => (variablePieces c name bindings).getD (placeholderPieces c name))
      (Interpolation.parts text)
  | .select selector (.list items) => selector.index?.bind (itemPieces c items)
  | call => livePiece (rendering c call)

/-- The pieces that the call at a position of a list gives. -/
def itemPieces (c : RenderContext) : List Expr → Nat → Option (List Piece)
  | .intrinsic inner :: _, 0 => callPieces c inner
  | _ :: rest, position + 1 => itemPieces c rest position
  | _, _ => none

/-- The pieces that the variable with a name gives, if there is one. -/
def variablePieces (c : RenderContext) (name : String) :
    List (String × Expr) → Option (Option (List Piece))
  | [] => none
  | (key, value) :: rest =>
    if key == name then
      some (match value with
        | .intrinsic inner => callPieces c inner
        | literal => literal.literalText?.map fun text => [.literal text])
    else variablePieces c name rest

end

/-! ### What rendering writes -/

/-- Writes the template that is made of some pieces, if it writes anything. -/
def Gives (x : Rendering String) (pieces : Option (List Piece)) : Prop :=
  Returns x fun text => ∃ ps, pieces = some ps ∧ text = body ps

/-- Returns what is written, inside a quoted template, as the template that is made of some pieces. -/
def Splices (x : Rendering Reference) (pieces : Option (List Piece)) : Prop :=
  Returns x fun r => ∃ ps, pieces = some ps ∧ splice r = body ps

theorem Splices.gives {x : Rendering Reference} {pieces : Option (List Piece)}
    (h : Splices x pieces) : Gives (splice <$> x) pieces := Returns.map h

theorem body_append (a b : List Piece) : body (a ++ b) = body a ++ body b := by
  simp [body]

theorem body_singleton (piece : Piece) : body [piece] = piece.write := by
  simp [body]

theorem splices_live {x : Rendering Reference} (hx : Independent x) (hplain : Plain x) :
    Splices x (livePiece (x.run []).1) := by
  have hresult : Returns x fun r => (x.run []).1 = .ok r ∧ isTemplate r = false := fun ds r ds' h =>
    ⟨returns_of_independent hx ds r ds' h, hplain ds r ds' h⟩
  refine hresult.mono ?_
  rintro r ⟨hr, hnot⟩
  rw [hr]
  refine ⟨[.live r.expression], rfl, ?_⟩
  rw [body_singleton]
  cases r <;> first | rfl | cases hnot

theorem gives_renderParts (c : RenderContext) {given : String → Option (Rendering String)}
    {valued : String → Option (Option (List Piece))}
    (hsome : ∀ name rendered, given name = some rendered →
      ∃ pieces, valued name = some pieces ∧ Gives rendered pieces)
    (hnone : ∀ name, given name = none → valued name = none)
    (parts : List Interpolation.Part) :
    Gives (c.renderParts given parts)
      (partPieces (fun name => (valued name).getD (placeholderPieces c name)) parts) := by
  induction parts with
  | nil => exact returns_pure ⟨[], rfl, rfl⟩
  | cons part rest ih =>
      cases part with
      | literal text =>
          rw [renderParts, partPieces]
          refine ih.bind ?_
          rintro _ ⟨ps, hps, rfl⟩
          rw [hps]
          exact returns_pure ⟨.literal text :: ps, rfl, by simp [body, Piece.write]⟩
      | placeholder name =>
          rw [renderParts, partPieces]
          have hwith (x : Rendering String) (pieces : Option (List Piece)) (hx : Gives x pieces) :
              Gives (do
                  let text ← x
                  let tail ← c.renderParts given rest
                  return text ++ tail)
                (do return (← pieces) ++ (← partPieces
                  (fun name => (valued name).getD (placeholderPieces c name)) rest)) := by
            refine Returns.bind hx ?_
            rintro _ ⟨first, rfl, rfl⟩
            refine ih.bind ?_
            rintro _ ⟨ps, hps, rfl⟩
            rw [hps]
            exact returns_pure ⟨first ++ ps, rfl, (body_append first ps).symm⟩
          rcases hgiven : given name with _ | rendered
          · rw [hnone name hgiven]
            exact hwith _ _ (splices_live (independent_renderPlaceholder c name)
              (plain_renderPlaceholder c name)).gives
          · obtain ⟨pieces, hpieces, hgives⟩ := hsome name rendered hgiven
            rw [hpieces]
            exact hwith _ _ hgives

theorem splices_plain_call (c : RenderContext) {call : Intrinsic} (h : mayBeTemplate call = false) :
    Splices (c.render call none) (livePiece (rendering c call)) :=
  splices_live (independent_render c call none) (plain_render c call none fun _ => h)

mutual

/-- A call that is put into a quoted template writes its pieces. -/
theorem splices_render (c : RenderContext) (call : Intrinsic) :
    Splices (c.render call none) (callPieces c call) := by
  cases call with
  | sub text bindings =>
      rw [render, callPieces]
      have hparts := gives_renderParts c (fun name => gives_renderVariable c name bindings)
        (fun name => variablePieces_eq_none c name bindings) (Interpolation.parts text)
      exact Returns.bind hparts fun _ hbody => returns_pure hbody
  | select selector items =>
      cases items with
      | list items =>
          rw [render, callPieces]
          refine Returns.bind (returns_lift fun _ => index?_of_literalIndex) ?_
          intro selected hselected
          rw [hselected, renderSelected]
          exact splices_renderItem c items selected selected items.length
      | _ =>
          rw [callPieces]
          · exact splices_plain_call c rfl
          all_goals simp
  | _ =>
      rw [callPieces]
      · exact splices_plain_call c rfl
      all_goals simp

theorem splices_renderItem (c : RenderContext) (items : List Expr)
    (position selected count : Nat) :
    Splices (c.renderItem items position selected count none) (itemPieces c items position) := by
  cases items with
  | nil =>
      rw [renderItem]
      exact returns_throw _
  | cons item rest =>
      cases position with
      | zero =>
          cases item with
          | intrinsic inner =>
              rw [renderItem, itemPieces]
              exact splices_render c inner
          | _ =>
              rw [renderItem]
              · exact returns_throw _
              all_goals simp
      | succ position =>
          rw [renderItem, itemPieces]
          exact splices_renderItem c rest position selected count

theorem gives_renderVariable (c : RenderContext) (name : String) (bindings : List (String × Expr))
    (rendered : Rendering String) (h : c.renderVariable name bindings = some rendered) :
    ∃ pieces, variablePieces c name bindings = some pieces ∧ Gives rendered pieces := by
  cases bindings with
  | nil => cases h
  | cons binding rest =>
      obtain ⟨key, value⟩ := binding
      unfold renderVariable at h
      unfold variablePieces
      by_cases hkey : (key == name) = true
      · rw [if_pos hkey, Option.some.injEq] at h
        rw [if_pos hkey]
        subst h
        refine ⟨_, rfl, ?_⟩
        cases value with
        | intrinsic inner => exact (splices_render c inner).gives
        | _ =>
            dsimp only
            split
            · next text htext =>
                refine returns_pure ⟨[.literal text], ?_, ?_⟩
                · rw [htext]
                  rfl
                · rw [body_singleton]
                  rfl
            · exact returns_throw _
      · rw [if_neg hkey] at h
        rw [if_neg hkey]
        exact gives_renderVariable c name rest rendered h

theorem variablePieces_eq_none (c : RenderContext) (name : String)
    (bindings : List (String × Expr)) (h : c.renderVariable name bindings = none) :
    variablePieces c name bindings = none := by
  cases bindings with
  | nil => rfl
  | cons binding rest =>
      obtain ⟨key, value⟩ := binding
      unfold renderVariable at h
      unfold variablePieces
      split_ifs at h ⊢
      exact variablePieces_eq_none c name rest h

end

theorem template_of_sub (c : RenderContext) (text : String) (bindings : List (String × Expr)) :
    Returns (c.render (.sub text bindings) none) fun r => isTemplate r = true := by
  rw [render]
  exact (returns_any _).bind fun _ _ => returns_pure rfl

/-- The template that renders a substitution is made of its pieces, and reads as them exactly when
every expression ends where its live sequence does and no literal ends in a sign that the next piece
goes on with. -/
theorem substitution_reads_iff (c : RenderContext) (text : String) (bindings : List (String × Expr))
    (r : Reference) (h : rendering c (.sub text bindings) = .ok r) :
    ∃ ps, callPieces c (.sub text bindings) = some ps ∧ r = .interpolation (body ps) ∧
      (readTemplate (body ps).toList = some (tokens ps) ↔
        (∀ e, .live e ∈ ps → Delimited e) ∧ Apart none ps) := by
  rcases hrun : (c.render (.sub text bindings) none).run [] with ⟨result, ds⟩
  have hresult : result = .ok r := by
    unfold rendering at h
    rw [hrun] at h
    exact h
  subst hresult
  obtain ⟨ps, hps, hsplice⟩ := splices_render c (.sub text bindings) [] r ds hrun
  have htemplate := template_of_sub c text bindings [] r ds hrun
  refine ⟨ps, hps, ?_, readTemplate_body_iff ps⟩
  cases r with
  | interpolation written =>
      change written = body ps at hsplice
      rw [hsplice]
  | _ => cases htemplate

/-- A context that declares nothing: pseudo parameters still render. -/
def undeclared : RenderContext := ⟨.empty, [], ⟨.none "", []⟩, []⟩

theorem substitution_reads_iff_region :
    rendering undeclared (.sub "in $\x7bAWS::Region\x7d" []) =
        .ok (.interpolation "in $\x7bdata.aws_region.current.name\x7d") ∧
      ∃ ps, callPieces undeclared (.sub "in $\x7bAWS::Region\x7d" []) = some ps ∧
        .interpolation "in $\x7bdata.aws_region.current.name\x7d" = Reference.interpolation (body ps) ∧
        (readTemplate (body ps).toList = some (tokens ps) ↔
          (∀ e, .live e ∈ ps → Delimited e) ∧ Apart none ps) := by
  have hrendering : rendering undeclared (.sub "in $\x7bAWS::Region\x7d" []) =
      .ok (.interpolation "in $\x7bdata.aws_region.current.name\x7d") := by cbv
  exact ⟨hrendering, substitution_reads_iff undeclared _ [] _ hrendering⟩

/-- A sign in front of a placeholder takes its life, and one in front of a brace that comes from a
variable gives life to text. -/
theorem substitution_misread :
    (rendering undeclared (.sub "cost: $$\x7bAWS::Region\x7d" []) =
        .ok (.interpolation "cost: $$\x7bdata.aws_region.current.name\x7d") ∧
      callPieces undeclared (.sub "cost: $$\x7bAWS::Region\x7d" []) =
        some [.literal "cost: $", .live "data.aws_region.current.name"] ∧
      readTemplate "cost: $$\x7bdata.aws_region.current.name\x7d".toList =
        some ("cost: $\x7bdata.aws_region.current.name\x7d".toList.map .char)) ∧
    (rendering undeclared (.sub "$$\x7bX\x7d" [("X", .string "\x7by\x7d")]) = .ok (.interpolation "$\x7by\x7d") ∧
      callPieces undeclared (.sub "$$\x7bX\x7d" [("X", .string "\x7by\x7d")]) =
        some [.literal "$", .literal "\x7by\x7d"] ∧
      readTemplate "$\x7by\x7d".toList = some [.opening '$', .code 'y', .closing]) := by
  refine ⟨⟨by cbv, by cbv, by decide⟩, by cbv, by cbv, by decide⟩

end StackExport.Proofs.SubstitutionReading
