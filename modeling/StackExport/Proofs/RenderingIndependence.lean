import StackExport.Proofs.RegisteredDeclarations
import StackExport.Proofs.RenderingSteps
/-!
What rendering gives does not depend on the declarations that there are already.

Rendering only adds to the accumulator and never looks into it, so a call has one rendering,
whenever it is asked for, and asks for the same declarations each time.
-/
namespace StackExport.Proofs.RenderingIndependence

open StackExport
open StackExport.RenderContext
open StackExport.Proofs.RegisteredDeclarations
open StackExport.Proofs.RenderingSteps

variable {α β : Type} {c : RenderContext}

/-- Gives the same result whatever has been declared before. -/
def Independent (x : Rendering α) : Prop :=
  ∀ ds ds' : Declarations, (x.run ds).1 = (x.run ds').1

theorem run_bind (x : Rendering α) (f : α → Rendering β) (ds : Declarations) :
    (x >>= f).run ds =
      match x.run ds with
      | (.ok a, ds₁) => (f a).run ds₁
      | (.error e, ds₁) => (.error e, ds₁) := by
  change ExceptT.bindCont f (x.run ds).1 (x.run ds).2 = _
  rcases x.run ds with ⟨_ | a, ds₁⟩ <;> rfl

/-- A run on an accumulator registers what a run on the empty one collects. -/
theorem run_eq_of_composed {x : Rendering α} (hx : Composed c x) (ds : Declarations) :
    x.run ds = ((x.run []).1, registerAll ds (x.run []).2) := by
  induction hx generalizing ds with
  | result a => rfl
  | fault e => rfl
  | declaration d => rfl
  | bind hx hf ihx ihf =>
      next x f =>
      rw [run_bind, run_bind, ihx ds]
      rcases x.run [] with ⟨e | a, new⟩
      · rfl
      · dsimp only
        rw [ihf a (registerAll ds new), ihf a new, registerAll_registerAll]

theorem independent_of_composed {x : Rendering α} (hx : Composed c x) : Independent x := by
  intro ds ds'
  rw [run_eq_of_composed hx ds, run_eq_of_composed hx ds']

theorem independent_renderPlaceholder (c : RenderContext) (name : String) :
    Independent (c.renderPlaceholder name) :=
  independent_of_composed (composed_renderPlaceholder c name)

theorem independent_render (c : RenderContext) (call : Intrinsic) (index : Option Nat) :
    Independent (c.render call index) :=
  independent_of_composed (composed_render c call index)

def rendering (c : RenderContext) (call : Intrinsic) : Except RenderError Reference :=
  ((c.render call none).run []).1

theorem run_render_eq (c : RenderContext) (call : Intrinsic) (ds : Declarations) :
    ((c.render call none).run ds).1 = rendering c call :=
  independent_render c call none ds []

/-- The declarations that rendering a call asks for, each address once. -/
def requested (c : RenderContext) (call : Intrinsic) (index : Option Nat) : Declarations :=
  ((c.render call index).run []).2

theorem snd_run_render (c : RenderContext) (call : Intrinsic) (index : Option Nat)
    (ds : Declarations) :
    ((c.render call index).run ds).2 = registerAll ds (requested c call index) := by
  rw [run_eq_of_composed (composed_render c call index) ds, requested]

/-- What holds of the declarations of two renderings holds of those of one after the other. -/
theorem forall_mem_run_bind {Q : Declaration → Prop} {x : Rendering α} {f : α → Rendering β}
    (hcomposed : ∀ a, Composed c (f a)) (hx : ∀ d ∈ (x.run []).2, Q d)
    (hf : ∀ a, ∀ d ∈ ((f a).run []).2, Q d) : ∀ d ∈ ((x >>= f).run []).2, Q d := by
  intro d hd
  rw [run_bind] at hd
  rcases hrun : x.run [] with ⟨e | a, new⟩
  · rw [hrun] at hd
    exact hx d (by rwa [hrun])
  · rw [hrun] at hd
    dsimp only at hd
    rw [run_eq_of_composed (hcomposed a) new] at hd
    rcases mem_of_mem_registerAll hd with hnew | hrest
    · exact hx d (by rwa [hrun])
    · exact hf a d hrest

/-- Every declaration that rendering adds is one that some call asks for itself. -/
theorem asks_of_composed {x : Rendering α} (hx : Composed c x) :
    ∀ d ∈ (x.run []).2, ∃ call, Asks c call d := by
  induction hx with
  | result a => exact fun _ h => absurd h (List.not_mem_nil)
  | fault e => exact fun _ h => absurd h (List.not_mem_nil)
  | @declaration call d hd =>
      intro e he
      obtain rfl := List.mem_singleton.mp he
      exact ⟨call, hd⟩
  | bind _ hf ihx ihf => exact forall_mem_run_bind hf ihx ihf

end StackExport.Proofs.RenderingIndependence
