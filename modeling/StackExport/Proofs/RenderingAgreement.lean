import Mathlib
import StackExport.Proofs.ReferenceAgreement
/-!
Rendering and evaluation agree.

What a call renders as stands for the value that the call has in the deployed stack. A selection
from the result of a selection is the exception: rendering drops the outer index.
-/
namespace StackExport.Proofs.RenderingAgreement

open StackExport
open StackExport.RenderContext
open StackExport.Proofs.ReferenceAgreement
open StackExport.Proofs.ReferenceMeaning
open StackExport.Proofs.RenderingIndependence
open StackExport.Proofs.RenderingResult

/-! ### Calls whose renderings have a meaning -/

/-- Whole numbers below this bound are written in full. -/
def wholeBound : Nat := 10 ^ 15

mutual

/-- Calls that are made of references, attributes, look-ups, texts that are joined or cut and
selections. -/
def Plain (s : Stack) : Intrinsic → Prop
  | .ref _ | .findInMap _ _ _ => True
  | .getAtt _ field =>
    ∀ name, s.evaluateText field = some name → Text.dropStart? outputQualifier name = none
  | .join _ items => PlainExpr s items
  | .split delimiter source => delimiter ≠ "" ∧ PlainExpr s source
  | .select selector items => (∀ i, selector.index? = some i → i < indexBound) ∧ PlainExpr s items
  | _ => False

def PlainExpr (s : Stack) : Expr → Prop
  | .number x => ∃ n, Decimal.whole? x = some n ∧ n.natAbs < wholeBound
  | .list items => PlainItems s items
  | .intrinsic call => Plain s call
  | _ => True

def PlainItems (s : Stack) : List Expr → Prop
  | [] => True
  | item :: rest => PlainExpr s item ∧ PlainItems s rest

end

mutual

/-- True of a selection from a call, perhaps behind selections from lists: an index that is asked of
it goes nowhere. -/
def ignoresIndex : Intrinsic → Bool
  | .select _ (.intrinsic _) => true
  | .select selector (.list items) => (selector.index?.map (itemIgnoresIndex items)).getD false
  | _ => false

def itemIgnoresIndex : List Expr → Nat → Bool
  | .intrinsic inner :: _, 0 => ignoresIndex inner
  | _ :: rest, position + 1 => itemIgnoresIndex rest position
  | _, _ => false

end

mutual

/-- No index is asked of a list that a selection from a call gives. -/
def KeepsIndices (s : Stack) : Intrinsic → Prop
  | .select _ (.intrinsic inner) =>
    (ignoresIndex inner = true → ∀ items, s.evaluateCall inner ≠ some (.array items)) ∧
      KeepsIndices s inner
  | .select selector (.list items) => ∀ i ∈ selector.index?, ItemKeepsIndices s items i
  | .join _ items | .split _ items => ExprKeepsIndices s items
  | _ => True

def ItemKeepsIndices (s : Stack) : List Expr → Nat → Prop
  | item :: _, 0 => ExprKeepsIndices s item
  | _ :: rest, position + 1 => ItemKeepsIndices s rest position
  | [], _ => True

def ExprKeepsIndices (s : Stack) : Expr → Prop
  | .list items => ItemsKeepIndices s items
  | .intrinsic call => KeepsIndices s call
  | _ => True

def ItemsKeepIndices (s : Stack) : List Expr → Prop
  | [] => True
  | item :: rest => ExprKeepsIndices s item ∧ ItemsKeepIndices s rest

end

variable {c : RenderContext} {s : Stack}

/-! ### Texts -/

theorem text_literal {e : Expr} (hplain : PlainExpr s e) {text : String}
    (htext : e.literalText? = some text) {v : Json} (hv : s.evaluate e = some v) :
    v.scalarText? = some text := by
  cases e with
  | string t =>
      cases htext
      cases hv
      rfl
  | bool b =>
      cases htext
      cases hv
      rfl
  | number x =>
      obtain ⟨n, hn, hbound⟩ := hplain
      have hword : n.natAbs < Nat.pow 2 63 := by
        simp only [wholeBound] at hbound
        simp only [Nat.pow_eq]
        omega
      have hwhole : n.natAbs < Nat.pow 10 15 := by
        simpa [wholeBound] using hbound
      have hformat : Decimal.format x = toString n := by
        rw [Decimal.format, hn]
        exact if_pos hwhole
      have hnumber : Stack.numberValue x = .number (.int n) := by
        rw [Stack.numberValue, hn]
        simp only [if_pos hword]
      cases htext
      cases hv
      rw [hnumber, hformat]
      rfl
  | _ => cases htext

/-! ### Selections -/

theorem indexOf?_of_index? {selector : Expr} {k i : Nat} {v : Json} (hk : selector.index? = some k)
    (hv : s.evaluate selector = some v) (hi : Stack.indexOf? v = some i) : i = k := by
  cases selector with
  | string text =>
      cases hv
      rw [Expr.index?] at hk
      rw [Stack.indexOf?, hk] at hi
      exact (Option.some.inj hi).symm
  | number x =>
      obtain ⟨n, hn, hk⟩ := Option.bind_eq_some_iff.mp hk
      cases hv
      rw [Stack.numberValue, hn] at hi
      dsimp only at hi
      split_ifs at hi hk with hword hpos
      · simp only [Stack.indexOf?, Number.word?, if_pos hpos, Option.some.injEq] at hi
        simp only [Nat.pow_eq, Option.some.injEq] at hk hword
        omega
      · cases hi
  | _ => cases hk

theorem exists_of_evaluate_select {selector items : Expr} {k : Nat} {v : Json}
    (hk : selector.index? = some k) (hv : s.evaluateCall (.select selector items) = some v) :
    ∃ vs, s.evaluate items = some (.array vs) ∧ vs[k]? = some v := by
  rw [Stack.evaluateCall] at hv
  obtain ⟨selectorValue, hselector, hv⟩ := Option.bind_eq_some_iff.mp hv
  obtain ⟨i, hi, hv⟩ := Option.bind_eq_some_iff.mp hv
  obtain ⟨itemsValue, hitems, hv⟩ := Option.bind_eq_some_iff.mp hv
  obtain ⟨vs, hvs, hv⟩ := Option.bind_eq_some_iff.mp hv
  obtain rfl := indexOf?_of_index? hk hselector hi
  obtain rfl := eq_array_of_listItems? hvs
  exact ⟨vs, hitems, hv⟩

/-! ### Texts that are put together -/

theorem evaluateItems_cons_eq_some {item : Expr} {rest : List Expr} {values : List Json} :
    s.evaluateItems (item :: rest) = some values ↔
      ∃ v vs, s.evaluate item = some v ∧ s.evaluateItems rest = some vs ∧ values = v :: vs := by
  rw [Stack.evaluateItems]
  simp only [Option.bind_eq_bind, Option.bind_eq_some_iff, Option.pure_def, Option.some.injEq]
  constructor
  · rintro ⟨v, hv, vs, hvs, rfl⟩
    exact ⟨v, vs, hv, hvs, rfl⟩
  · rintro ⟨v, vs, hv, hvs, rfl⟩
    exact ⟨v, hv, vs, hvs, rfl⟩

theorem mapM_scalarText?_cons_eq_some {v : Json} {vs : List Json} {texts : List String} :
    (v :: vs).mapM Json.scalarText? = some texts ↔
      ∃ text rest, v.scalarText? = some text ∧ vs.mapM Json.scalarText? = some rest ∧
        texts = text :: rest := by
  rw [List.mapM_cons]
  simp only [Option.bind_eq_bind, Option.bind_eq_some_iff, Option.pure_def, Option.some.injEq]
  constructor
  · rintro ⟨text, htext, rest, hrest, rfl⟩
    exact ⟨text, rest, htext, hrest, rfl⟩
  · rintro ⟨text, rest, htext, hrest, rfl⟩
    exact ⟨text, htext, rest, hrest, rfl⟩

/-- What is written has the text that a value has. -/
def SameText (value written : Option Json) : Prop :=
  ∀ text, value.bind Json.scalarText? = some text → written.bind Json.scalarText? = some text

def SameTexts (values written : Option (List Json)) : Prop :=
  ∀ texts, values.bind (·.mapM Json.scalarText?) = some texts →
    written.bind (·.mapM Json.scalarText?) = some texts

theorem sameText_of_eq {value written : Option Json} (h : ∀ v, value = some v → written = some v) :
    SameText value written := by
  intro text htext
  obtain ⟨v, hv, htext⟩ := Option.bind_eq_some_iff.mp htext
  rw [h v hv]
  exact htext

theorem sameTexts_cons {item : Expr} {rest : List Expr} {arg : Argument} {args : List Argument}
    (hitem : SameText (s.evaluate item) (meaningOf c.mappings s arg))
    (hrest : SameTexts (s.evaluateItems rest) (meanings c.mappings s args)) :
    SameTexts (s.evaluateItems (item :: rest)) (meanings c.mappings s (arg :: args)) := by
  intro parts hparts
  obtain ⟨values, hvalues, hparts⟩ := Option.bind_eq_some_iff.mp hparts
  obtain ⟨v, vs, hv, hvs, rfl⟩ := evaluateItems_cons_eq_some.mp hvalues
  obtain ⟨text, texts, htext, htexts, rfl⟩ := mapM_scalarText?_cons_eq_some.mp hparts
  have hwritten := hitem text (by rw [hv]; exact htext)
  have hwrittenRest := hrest texts (by rw [hvs]; exact htexts)
  obtain ⟨w, hw, hwText⟩ := Option.bind_eq_some_iff.mp hwritten
  obtain ⟨ws, hws, hwsTexts⟩ := Option.bind_eq_some_iff.mp hwrittenRest
  rw [meanings, hw, hws]
  exact mapM_scalarText?_cons_eq_some.mpr ⟨text, texts, hwText, hwsTexts, rfl⟩

theorem meaning_join {delimiter : String} {items : Expr} {arg : Argument}
    (harg : SameTexts ((s.evaluate items).bind Stack.listItems?)
      ((meaningOf c.mappings s arg).bind Stack.listItems?))
    {index : Option Nat} {v w : Json} (hv : s.evaluateCall (.join delimiter items) = some v)
    (hw : pick v index = some w) :
    meaning c.mappings s (indexed (.call "join" [.string delimiter, arg]) index) = some w := by
  rw [Stack.evaluateCall] at hv
  obtain ⟨itemsValue, hitems, hv⟩ := Option.bind_eq_some_iff.mp hv
  obtain ⟨vs, hvs, hv⟩ := Option.bind_eq_some_iff.mp hv
  obtain ⟨parts, hparts, hv⟩ := Option.bind_eq_some_iff.mp hv
  have hwritten := harg parts (by simp [hitems, hvs, hparts])
  obtain ⟨ws, hws, hwsParts⟩ := Option.bind_eq_some_iff.mp hwritten
  obtain ⟨value, hvalue, hws⟩ := Option.bind_eq_some_iff.mp hws
  obtain rfl := eq_array_of_listItems? hws
  have hvalues : meanings c.mappings s [.string delimiter, arg] =
      some [.string delimiter, .array ws] := by simp [meanings, meaningOf, hvalue]
  refine meaning_indexed_call hvalues ?_ hw
  simpa [callResult?, hwsParts] using hv

theorem meaning_split {delimiter : String} (hne : delimiter ≠ "") {source : Expr} {arg : Argument}
    (harg : SameText (s.evaluate source) (meaningOf c.mappings s arg)) {index : Option Nat}
    {v w : Json} (hv : s.evaluateCall (.split delimiter source) = some v)
    (hw : pick v index = some w) :
    meaning c.mappings s (indexed (.call "split" [.string delimiter, arg]) index) = some w := by
  rw [Stack.evaluateCall] at hv
  obtain ⟨text, htext, hv⟩ := exists_text_of_bind hv
  obtain ⟨value, hvalue, hscalar⟩ := Option.bind_eq_some_iff.mp (harg text htext)
  have hcut : cut delimiter text = Text.splitOn delimiter text := if_neg (by simpa using hne)
  have hvalues : meanings c.mappings s [.string delimiter, arg] =
      some [.string delimiter, value] := by simp [meanings, meaningOf, hvalue]
  refine meaning_indexed_call hvalues ?_ hw
  simpa [callResult?, hscalar, hcut] using hv

/-! ### Calls -/

theorem means_selected {selector items : Expr} {k : Nat} (hk : selector.index? = some k)
    {x : Rendering Reference} {value : Option Json} {index : Option Nat} (hx : Means c s x value index)
    (hvalue : ∀ vs, s.evaluate items = some (.array vs) → value = vs[k]?) :
    Means c s x (s.evaluateCall (.select selector items)) index := by
  refine hx.mono fun r hr v w hv hw => ?_
  obtain ⟨vs, hvs, hv⟩ := exists_of_evaluate_select hk hv
  exact hr v w ((hvalue vs hvs).trans hv) hw

mutual

theorem means_render (h : Describes c s) (call : Intrinsic) (index : Option Nat)
    (hplain : Plain s call) (hkeeps : KeepsIndices s call)
    (hindex : ∀ i ∈ index, i < indexBound ∧ ignoresIndex call = false) :
    Means c s (c.render call index) (s.evaluateCall call) index := by
  cases call with
  | ref name =>
      rw [render, Stack.evaluateCall]
      exact (refers_renderRef h name index).mono fun r hr => hr.meaning_eq
  | getAtt resource field => exact means_getAtt h hplain fun i hi => (hindex i hi).1
  | findInMap map top second => exact means_findInMap h map top second index
  | join delimiter items =>
      rw [render]
      refine (sameTexts_renderJoined h items hplain hkeeps).bind fun arg harg => returns_pure ?_
      exact fun v w => meaning_join harg
  | split delimiter source =>
      rw [render]
      refine (sameText_renderArgument h "Fn::Split" source hplain.2 hkeeps).bind fun arg harg =>
        returns_pure ?_
      exact fun v w => meaning_split hplain.1 harg
  | select selector items =>
      rw [render]
      refine (returns_lift fun _ => index?_of_literalIndex).bind fun selected hselected => ?_
      cases items with
      | intrinsic inner =>
          rw [renderSelected]
          by_cases hignores : ignoresIndex inner = true
          · refine (returns_any _).mono fun r _ v w hv _ => ?_
            obtain ⟨vs, hvs, -⟩ := exists_of_evaluate_select hselected hv
            rw [Stack.evaluate] at hvs
            exact absurd hvs (hkeeps.1 hignores vs)
          · have hinner : ∀ i ∈ some selected, i < indexBound ∧ ignoresIndex inner = false := by
              rintro i ⟨⟩
              exact ⟨hplain.1 selected hselected, by simpa using hignores⟩
            refine (means_render h inner (some selected) hplain.2 hkeeps.2 hinner).mono ?_
            intro r hr v w hv hw
            obtain ⟨vs, hvs, hk⟩ := exists_of_evaluate_select hselected hv
            rw [Stack.evaluate] at hvs
            -- An index is not asked of this selection, which would drop it.
            cases index with
            | none =>
                cases hw
                exact hr (.array vs) v hvs hk
            | some i => cases (hindex i rfl).2
      | list items =>
          rw [renderSelected]
          have hitem : ∀ i ∈ index, i < indexBound ∧ itemIgnoresIndex items selected = false := by
            intro i hi
            have := hindex i hi
            rw [ignoresIndex, hselected] at this
            exact this
          refine means_selected hselected (means_renderItem h items selected selected items.length
            index hplain.2 (hkeeps selected hselected) hitem) fun vs hvs => ?_
          obtain ⟨_, hvs, ⟨⟩⟩ := Option.map_eq_some_iff.mp hvs
          rw [hvs, Option.bind_some]
      | _ =>
          rw [renderSelected]
          · exact returns_throw _
          all_goals simp
  | _ => exact hplain.elim

theorem means_renderItem (h : Describes c s) (items : List Expr)
    (position selected count : Nat) (index : Option Nat) (hplain : PlainItems s items)
    (hkeeps : ItemKeepsIndices s items position)
    (hindex : ∀ i ∈ index, i < indexBound ∧ itemIgnoresIndex items position = false) :
    Means c s (c.renderItem items position selected count index)
      ((s.evaluateItems items).bind fun vs => vs[position]?) index := by
  cases items with
  | nil =>
      rw [renderItem]
      exact returns_throw _
  | cons item rest =>
      cases position with
      | zero =>
          cases item with
          | intrinsic inner =>
              rw [renderItem]
              refine (means_render h inner index hplain.1 hkeeps hindex).mono ?_
              intro r hr v w hv hw
              obtain ⟨values, hvalues, hk⟩ := Option.bind_eq_some_iff.mp hv
              obtain ⟨first, vs, hfirst, -, rfl⟩ := evaluateItems_cons_eq_some.mp hvalues
              cases hk
              exact hr v w hfirst hw
          | _ =>
              rw [renderItem]
              · exact returns_throw _
              all_goals simp
      | succ position =>
          rw [renderItem]
          have hrest : ∀ i ∈ index, i < indexBound ∧ itemIgnoresIndex rest position = false := by
            intro i hi
            have hignores := (hindex i hi).2
            rw [itemIgnoresIndex] at hignores
            exact ⟨(hindex i hi).1, hignores⟩
          refine (means_renderItem h rest position selected count index hplain.2 hkeeps
            hrest).mono ?_
          intro r hr v w hv hw
          obtain ⟨values, hvalues, hk⟩ := Option.bind_eq_some_iff.mp hv
          obtain ⟨first, vs, -, hvs, rfl⟩ := evaluateItems_cons_eq_some.mp hvalues
          refine hr v w ?_ hw
          rw [hvs]
          exact hk

theorem sameTexts_renderJoined (h : Describes c s) (items : Expr) (hplain : PlainExpr s items)
    (hkeeps : ExprKeepsIndices s items) :
    Returns (c.renderJoined items) fun arg =>
      SameTexts ((s.evaluate items).bind Stack.listItems?)
        ((meaningOf c.mappings s arg).bind Stack.listItems?) := by
  cases items with
  | list items =>
      rw [renderJoined]
      refine (sameTexts_renderJoinedItems h items hplain hkeeps).bind fun args hargs =>
        returns_pure ?_
      have hlist (values : Option (List Json)) :
          (values.map Json.array).bind Stack.listItems? = values := by
        cases values <;> rfl
      rw [Stack.evaluate, meaningOf, hlist, hlist]
      exact hargs
  | intrinsic inner =>
      rw [renderJoined]
      refine (means_render h inner none hplain hkeeps nofun).bind fun r hr => returns_pure ?_
      intro parts hparts
      obtain ⟨vs, hvs, hparts⟩ := Option.bind_eq_some_iff.mp hparts
      obtain ⟨v, hv, hvs⟩ := Option.bind_eq_some_iff.mp hvs
      rw [Stack.evaluate] at hv
      rw [meaningOf, hr v v hv rfl, Option.bind_some, hvs]
      exact hparts
  | _ =>
      rw [renderJoined]
      · exact returns_throw _
      all_goals simp

theorem sameTexts_renderJoinedItems (h : Describes c s) (items : List Expr)
    (hplain : PlainItems s items) (hkeeps : ItemsKeepIndices s items) :
    Returns (c.renderJoinedItems items) fun args =>
      SameTexts (s.evaluateItems items) (meanings c.mappings s args) := by
  cases items with
  | nil =>
      rw [renderJoinedItems]
      exact returns_pure fun _ hparts => hparts
  | cons item rest =>
      have hmore (arg : Argument) (harg : SameText (s.evaluate item) (meaningOf c.mappings s arg)) :
          Returns (do
              let rest ← c.renderJoinedItems rest
              return arg :: rest) fun args =>
            SameTexts (s.evaluateItems (item :: rest)) (meanings c.mappings s args) :=
        (sameTexts_renderJoinedItems h rest hplain.2 hkeeps.2).bind fun args hargs =>
          returns_pure (sameTexts_cons harg hargs)
      cases item with
      | intrinsic inner =>
          rw [renderJoinedItems]
          refine (means_render h inner none hplain.1 hkeeps.1 nofun).bind fun r hr => hmore _ ?_
          exact sameText_of_eq fun v hv => hr v v hv rfl
      | _ =>
          rw [renderJoinedItems]
          · split
            · next text htext =>
                refine hmore (.string text) fun text' htext' => ?_
                obtain ⟨v, hv, htext'⟩ := Option.bind_eq_some_iff.mp htext'
                rw [text_literal hplain.1 htext hv] at htext'
                exact htext'
            · exact returns_throw _
          all_goals simp

theorem sameText_renderArgument (h : Describes c s) (tag : String) (e : Expr)
    (hplain : PlainExpr s e) (hkeeps : ExprKeepsIndices s e) :
    Returns (c.renderArgument tag e) fun arg =>
      SameText (s.evaluate e) (meaningOf c.mappings s arg) := by
  cases e with
  | intrinsic inner =>
      rw [renderArgument]
      refine (means_render h inner none hplain hkeeps nofun).bind fun r hr => returns_pure ?_
      exact sameText_of_eq fun v hv => hr v v hv rfl
  | string t =>
      rw [renderArgument]
      exact returns_pure fun _ htext => htext
  | number x =>
      rw [renderArgument]
      exact returns_pure fun _ htext => htext
  | bool b =>
      rw [renderArgument]
      exact returns_pure fun _ htext => htext
  | null =>
      rw [renderArgument]
      refine returns_pure fun text htext => ?_
      cases htext
  | list items =>
      rw [renderArgument]
      refine (returns_any _).bind fun args _ => returns_pure fun text htext => ?_
      obtain ⟨v, hv, htext⟩ := Option.bind_eq_some_iff.mp htext
      obtain ⟨vs, -, rfl⟩ := Option.map_eq_some_iff.mp hv
      cases htext
  | object entries =>
      rw [renderArgument]
      exact returns_throw _

end

/-! ### Dropped indices -/

/-- A selection from a call asks for its own element, whatever is asked of it. -/
theorem render_select_intrinsic (c : RenderContext) {selector : Expr} {k : Nat}
    (h : selector.index? = some k) (inner : Intrinsic) (index : Option Nat) :
    c.render (.select selector (.intrinsic inner)) index = c.render inner (some k) := by
  rw [render_select c h, renderSelected]

mutual

theorem render_of_ignoresIndex (c : RenderContext) (call : Intrinsic) (i : Nat)
    (h : ignoresIndex call = true) : c.render call (some i) = c.render call none := by
  cases call with
  | select selector items =>
      cases items with
      | intrinsic inner =>
          rw [render, render]
          rfl
      | list items =>
          rw [ignoresIndex] at h
          rcases hselector : selector.index? with _ | selected
          · rw [hselector] at h
            cases h
          · rw [hselector] at h
            have hitem := renderItem_of_ignoresIndex c items selected selected items.length i h
            rw [render_select c hselector, render_select c hselector, renderSelected,
              renderSelected, hitem]
      | _ => cases h
  | _ => cases h

theorem renderItem_of_ignoresIndex (c : RenderContext) (items : List Expr)
    (position selected count i : Nat) (h : itemIgnoresIndex items position = true) :
    c.renderItem items position selected count (some i) =
      c.renderItem items position selected count none := by
  cases items with
  | nil => cases h
  | cons item rest =>
      cases position with
      | zero =>
          cases item with
          | intrinsic inner =>
              rw [renderItem, renderItem]
              exact render_of_ignoresIndex c inner i h
          | _ => cases h
      | succ position =>
          rw [renderItem, renderItem]
          refine renderItem_of_ignoresIndex c rest position selected count i ?_
          rwa [itemIgnoresIndex] at h

end

/-- A selection from what drops its index stands for the whole list, and for none of its elements. -/
theorem selection_dropped (h : Describes c s) {selector : Expr} {inner : Intrinsic}
    {index : Option Nat} (hplain : Plain s inner) (hkeeps : KeepsIndices s inner)
    (hignores : ignoresIndex inner = true) {items : List Json}
    (hitems : s.evaluateCall inner = some (.array items)) {r : Reference} {ds ds' : Declarations}
    (hr : (c.render (.select selector (.intrinsic inner)) index).run ds = (.ok r, ds')) :
    meaning c.mappings s r = some (.array items) ∧
      s.evaluateCall (.select selector (.intrinsic inner)) ≠ meaning c.mappings s r := by
  have hmeans : Returns (c.render (.select selector (.intrinsic inner)) index) fun r =>
      meaning c.mappings s r = some (.array items) := by
    rw [render]
    refine (returns_any _).bind fun selected _ => ?_
    rw [renderSelected, render_of_ignoresIndex c inner selected hignores]
    refine (means_render h inner none hplain hkeeps nofun).mono fun r hr => ?_
    exact hr _ _ hitems rfl
  have hmeaning := hmeans ds r ds' hr
  refine ⟨hmeaning, ?_⟩
  rw [hmeaning]
  intro hv
  rw [Stack.evaluateCall] at hv
  obtain ⟨selectorValue, -, hv⟩ := Option.bind_eq_some_iff.mp hv
  obtain ⟨i, -, hv⟩ := Option.bind_eq_some_iff.mp hv
  rw [Stack.evaluate, hitems] at hv
  -- No list is an element of itself.
  have hmem : Json.array items ∈ items := List.mem_of_getElem? hv
  have hsize := List.sizeOf_lt_of_mem hmem
  simp at hsize

/-! ### A sample deployment -/

def sampleTemplate : Template :=
  { Template.empty with
    parameters := [⟨"Stage", "String", some "blue", none, false, none⟩]
    mappings := [("Sizes", .object [("eu-west-1", .object [("web",
      .array [.string "small", .string "large"])])])]
    resources := [⟨"Queue", "AWS::SQS::Queue", .object [], [], none⟩] }

def sampleContext : RenderContext :=
  ⟨sampleTemplate, [⟨"Queue", "AWS::SQS::Queue", "aws_sqs_queue", "jobs", none⟩],
    ⟨.none "", []⟩, []⟩

def sampleStack : Stack :=
  ⟨sampleTemplate, ⟨"eu-west-1", "123456789012", "aws", "amazonaws.com", "jobs", none⟩,
    ⟨.none "", []⟩, [("Queue", ⟨"aws_sqs_queue", "jobs", none⟩)], []⟩

theorem describes_sample : Describes sampleContext sampleStack := by
  constructor
  · rfl
  · rfl
  · simp [sampleContext]
  · intro m hm
    obtain rfl := List.mem_singleton.mp hm
    refine ⟨?_, by decide⟩
    simp
    decide
  · intro m hm r hr
    obtain rfl := List.mem_singleton.mp hm
    cases hr
    rfl
  · intro p hp
    obtain rfl := List.mem_singleton.mp hp
    simp
    decide
  · intro p hp
    obtain rfl := List.mem_singleton.mp hp
    decide

def sampleSizes : Intrinsic :=
  .findInMap (.string "Sizes") (.intrinsic (.ref "AWS::Region")) (.string "web")

def sampleCall : Intrinsic :=
  .join "/" (.list [.intrinsic (.ref "Queue"),
    .intrinsic (.select (.string "1") (.intrinsic sampleSizes))])

theorem evaluateCall_select {text : String} {items : Expr} {k : Nat} {vs : List Json}
    (hk : Decimal.word? (Text.trim text) = some k) (hvs : s.evaluate items = some (.array vs)) :
    s.evaluateCall (.select (.string text) items) = vs[k]? := by
  simp [Stack.evaluateCall, Stack.evaluate, Stack.indexOf?, Stack.listItems?, hk, hvs]

theorem evaluateCall_sample :
    sampleStack.evaluateCall sampleCall = some (.string "jobs/large") := by
  have hqueue : sampleStack.evaluateCall (.ref "Queue") = some (.string "jobs") := by cbv
  have hsizes : sampleStack.evaluate (.intrinsic sampleSizes) =
      some (.array [.string "small", .string "large"]) := by cbv
  have hword : Decimal.word? (Text.trim "1") = some 1 := by decide
  have hitems : sampleStack.evaluateItems [.intrinsic (.ref "Queue"),
      .intrinsic (.select (.string "1") (.intrinsic sampleSizes))] =
      some [.string "jobs", .string "large"] := by
    rw [Stack.evaluateItems, Stack.evaluateItems, Stack.evaluateItems, Stack.evaluate,
      Stack.evaluate, hqueue, evaluateCall_select hword hsizes]
    rfl
  rw [sampleCall, Stack.evaluateCall, Stack.evaluate, hitems]
  simp [Stack.listItems?, Json.scalarText?]

def sampleReference : Reference :=
  .call "join" [.string "/", .list [.reference (.direct "aws_sqs_queue.Queue"),
    .reference (.map "local.mappings.Sizes[data.aws_region.current.name].web[1]")]]

theorem rendering_sample : rendering sampleContext sampleCall = .ok sampleReference := by
  have hindex : (Expr.string "1").index? = some 1 := by decide
  rw [rendering, sampleCall, render, renderJoined, renderJoinedItems, renderJoinedItems,
    renderJoinedItems, render_select_intrinsic _ hindex]
  cbv

theorem plain_sample : Plain sampleStack sampleCall := by
  refine ⟨trivial, ⟨?_, trivial⟩, trivial⟩
  intro i hi
  have hindex : (Expr.string "1").index? = some 1 := by decide
  rw [hindex] at hi
  cases hi
  simp [indexBound]

theorem keepsIndices_sample : KeepsIndices sampleStack sampleCall :=
  ⟨trivial, ⟨nofun, trivial⟩, trivial⟩

/-- Where no index is dropped, a call that has a value and is rendered is rendered as an expression
that stands for this value. -/
theorem rendering_agrees (h : Describes c s) (call : Intrinsic) (hplain : Plain s call)
    (hkeeps : KeepsIndices s call) {v : Json} (hv : s.evaluateCall call = some v) {r : Reference}
    {ds ds' : Declarations} (hr : (c.render call none).run ds = (.ok r, ds')) :
    meaning c.mappings s r = some v :=
  means_render h call none hplain hkeeps nofun ds r ds' hr v v hv rfl

theorem rendering_agrees_sample :
    Describes sampleContext sampleStack ∧ Plain sampleStack sampleCall ∧
      KeepsIndices sampleStack sampleCall ∧
      sampleStack.evaluateCall sampleCall = some (.string "jobs/large") ∧
      rendering sampleContext sampleCall = .ok sampleReference ∧
      meaning sampleContext.mappings sampleStack sampleReference = some (.string "jobs/large") := by
  refine ⟨describes_sample, plain_sample, keepsIndices_sample, evaluateCall_sample,
    rendering_sample, ?_⟩
  exact rendering_agrees describes_sample sampleCall plain_sample keepsIndices_sample
    evaluateCall_sample (Prod.ext rendering_sample rfl)

def nestedTemplate : Template :=
  { Template.empty with
    mappings := [("M", .object [("t", .object [("s",
      .array [.array [.string "a", .string "b"], .array [.string "c", .string "d"]])])])] }

def nestedContext : RenderContext := ⟨nestedTemplate, [], ⟨.none "", []⟩, []⟩

def nestedStack : Stack :=
  ⟨nestedTemplate, ⟨"eu-west-1", "123456789012", "aws", "amazonaws.com", "jobs", none⟩,
    ⟨.none "", []⟩, [], []⟩

def nestedRow : Intrinsic :=
  .select (.string "1") (.intrinsic (.findInMap (.string "M") (.string "t") (.string "s")))

/-- The first cell of a row is rendered as the row. -/
theorem select_of_select_misread :
    nestedStack.evaluateCall (.select (.string "0") (.intrinsic nestedRow)) = some (.string "c") ∧
      rendering nestedContext (.select (.string "0") (.intrinsic nestedRow)) =
        .ok (.map "local.mappings.M.t.s[1]") ∧
      meaning nestedContext.mappings nestedStack (.map "local.mappings.M.t.s[1]") =
        some (.array [.string "c", .string "d"]) ∧
      meaning nestedContext.mappings nestedStack (.map "local.mappings.M.t.s[1]") ≠
        some (.string "c") := by
  have hrow : nestedStack.evaluate (.intrinsic nestedRow) =
      some (.array [.string "c", .string "d"]) := by
    have hlook : nestedStack.evaluate
        (.intrinsic (.findInMap (.string "M") (.string "t") (.string "s"))) =
        some (.array [.array [.string "a", .string "b"], .array [.string "c", .string "d"]]) := by
      cbv
    have hword : Decimal.word? (Text.trim "1") = some 1 := by decide
    rw [nestedRow, Stack.evaluate, evaluateCall_select hword hlook]
    rfl
  have hword : Decimal.word? (Text.trim "0") = some 0 := by decide
  have hindex : (Expr.string "0").index? = some 0 := by decide
  have hindex' : (Expr.string "1").index? = some 1 := by decide
  have hmeaning : meaning nestedContext.mappings nestedStack (.map "local.mappings.M.t.s[1]") =
      some (.array [.string "c", .string "d"]) := by
    cbv
  refine ⟨evaluateCall_select hword hrow, ?_, hmeaning, ?_⟩
  · rw [rendering, render_select_intrinsic _ hindex, nestedRow, render_select_intrinsic _ hindex']
    cbv
  · rw [hmeaning]
    simp

end StackExport.Proofs.RenderingAgreement
