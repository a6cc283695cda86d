import Mathlib.Data.List.Nodup
import StackExport.Proofs.LinkedTree
/-!
The walk through the attributes of a resource.

The walk keeps the calls that have results and renders each of them once. `Claims` says which calls
these are, `Follows` that what is kept is the rendering of each value met so far, so that the order
of the walk does not show in its result.
-/
namespace StackExport.Proofs.ResolutionWalk

open StackExport
open StackExport.Resolution
open StackExport.Proofs.RenderingIndependence
open StackExport.Proofs.LinkedTree

/-! ### The calls with results -/

/-- The first call with each result is there, unrendered. -/
structure Claims (s : Stack) (calls : List Intrinsic) (initial : List Candidate) : Prop where
  nodup : (initial.map Candidate.evaluated).Nodup
  unrendered : ∀ k ∈ initial, k.rendered = none
  claimant_eq : ∀ v,
    (initial.find? fun k => k.evaluated = v).map Candidate.call = claimant s calls v

variable {s : Stack} {calls : List Intrinsic} {initial : List Candidate}

theorem Claims.none_of_result?_eq_none (h : Claims s calls initial) {call : Intrinsic}
    (hr : result? s call = none) : Claims s (calls ++ [call]) initial := by
  refine ⟨h.nodup, h.unrendered, fun v => ?_⟩
  rw [h.claimant_eq, claimant, claimant, List.find?_append]
  simp [hr]

theorem Claims.of_mem (h : Claims s calls initial) {call : Intrinsic} {e : Evaluated}
    (hr : result? s call = some e) (he : e ∈ initial.map Candidate.evaluated) :
    Claims s (calls ++ [call]) initial := by
  refine ⟨h.nodup, h.unrendered, fun v => ?_⟩
  rw [claimant, List.find?_append]
  change _ = (claimant s calls v).or _
  rw [← h.claimant_eq]
  by_cases hv : e = v
  · subst hv
    obtain ⟨k, hk, hke⟩ := List.mem_map.1 he
    have : (initial.find? fun k => k.evaluated = e).isSome := by
      rw [List.find?_isSome]
      exact ⟨k, hk, by simpa using hke⟩
    obtain ⟨k', hk'⟩ := Option.isSome_iff_exists.1 this
    simp [hk']
  · simp [hr, hv]

theorem Claims.concat (h : Claims s calls initial) {call : Intrinsic} {e : Evaluated}
    (hr : result? s call = some e) (he : e ∉ initial.map Candidate.evaluated) :
    Claims s (calls ++ [call]) (initial ++ [⟨call, e, none⟩]) := by
  refine ⟨?_, ?_, fun v => ?_⟩
  · rw [List.map_append]
    exact List.nodup_append.2 ⟨h.nodup, by simp, by
      rintro a ha b hb rfl
      simp only [List.map_cons, List.map_nil, List.mem_singleton] at hb
      exact he (hb ▸ ha)⟩
  · intro k hk
    rcases List.mem_append.1 hk with hk | hk
    · exact h.unrendered k hk
    · simp [List.mem_singleton.1 hk]
  · rw [claimant, List.find?_append, List.find?_append]
    change _ = (claimant s calls v).or _
    rw [← h.claimant_eq]
    by_cases hv : e = v
    · cases initial.find? fun k => k.evaluated = v <;> simp [hr, hv]
    · cases initial.find? fun k => k.evaluated = v <;> simp [hr, hv]

/-- One call more. -/
def addCall (s : Stack) (candidates : List Candidate) (call : Intrinsic) : List Candidate :=
  match result? s call with
  | some e =>
    if candidates.any (·.evaluated == e) then candidates else candidates ++ [⟨call, e, none⟩]
  | none => candidates

theorem ofCalls_eq_foldl (s : Stack) (calls : List Intrinsic) :
    Candidate.ofCalls s calls = calls.foldl (addCall s) [] := rfl

theorem Claims.addCall (h : Claims s calls initial) (call : Intrinsic) :
    Claims s (calls ++ [call]) (addCall s initial call) := by
  cases hr : result? s call with
  | none =>
      rw [ResolutionWalk.addCall, hr]
      exact h.none_of_result?_eq_none hr
  | some e =>
      rw [ResolutionWalk.addCall, hr]
      by_cases he : e ∈ initial.map Candidate.evaluated
      · have hany : initial.any (·.evaluated == e) = true := by simpa using he
        simp only [hany, if_true]
        exact h.of_mem hr he
      · have hany : initial.any (·.evaluated == e) = false := by simpa using he
        simp only [hany]
        exact h.concat hr he

theorem claims_ofCalls (s : Stack) (calls : List Intrinsic) :
    Claims s calls (Candidate.ofCalls s calls) := by
  have hrun : ∀ rest seen initial, Claims s seen initial →
      Claims s (seen ++ rest) (rest.foldl (addCall s) initial) := by
    intro rest
    induction rest with
    | nil =>
        intro seen initial h
        simpa using h
    | cons call rest ih =>
        intro seen initial h
        rw [List.foldl_cons, List.append_cons]
        exact ih _ _ (h.addCall call)
  rw [ofCalls_eq_foldl]
  exact hrun calls [] [] ⟨by simp, by simp, fun v => rfl⟩

theorem Claims.claimant_of_mem (h : Claims s calls initial) {k : Candidate} (hk : k ∈ initial) :
    claimant s calls k.evaluated = some k.call := by
  rw [← h.claimant_eq]
  cases hfind : initial.find? fun k' => k'.evaluated = k.evaluated with
  | none => simpa using List.find?_eq_none.1 hfind k hk
  | some k' =>
      have heq : k'.evaluated = k.evaluated := by simpa using List.find?_some hfind
      have hsame : k' = k :=
        List.inj_on_of_nodup_map h.nodup (List.mem_of_find?_eq_some hfind) hk heq
      rw [hsame]
      rfl

theorem Claims.mem_of_claimant (h : Claims s calls initial) {v : Evaluated} {call : Intrinsic}
    (hv : claimant s calls v = some call) : v ∈ initial.map Candidate.evaluated := by
  rw [← h.claimant_eq, Option.map_eq_some_iff] at hv
  obtain ⟨k, hk, -⟩ := hv
  have heq : k.evaluated = v := by simpa using List.find?_some hk
  exact List.mem_map.2 ⟨k, List.mem_of_find?_eq_some hk, heq⟩

theorem result?_eq_none_of_ofCalls (h : Candidate.ofCalls s calls = []) :
    ∀ call ∈ calls, result? s call = none := by
  intro call hcall
  have hclaims := claims_ofCalls s calls
  rw [h] at hclaims
  cases hr : result? s call with
  | none => rfl
  | some e =>
      have hsome : (claimant s calls e).isSome := by
        rw [claimant, List.find?_isSome]
        exact ⟨call, hcall, by simpa using hr⟩
      obtain ⟨first, hfirst⟩ := Option.isSome_iff_exists.1 hsome
      simpa using hclaims.mem_of_claimant hfirst

/-! ### What the walk keeps -/

variable {c : RenderContext} {met met' : List Evaluated} {n n' : Nat} {p : Progress}

/-- The calls as they are once some values have been met. -/
def settled (c : RenderContext) (initial : List Candidate) (met : List Evaluated) :
    List Candidate :=
  initial.map fun k =>
    if k.evaluated ∈ met then { k with rendered := some (rendering c k.call) } else k

/-- The walk has met the given values and put the given number of references in place. -/
structure Follows (c : RenderContext) (initial : List Candidate) (met : List Evaluated) (n : Nat)
    (p : Progress) : Prop where
  candidates_eq : p.candidates = settled c initial met
  replaced_eq : p.replaced = n

theorem settled_nil : settled c initial [] = initial := by
  simp [settled]

theorem settled_concat_of_not_mem {v : Evaluated} (h : v ∉ initial.map Candidate.evaluated) :
    settled c initial (met ++ [v]) = settled c initial met := by
  refine List.map_congr_left fun k hk => ?_
  have : k.evaluated ≠ v := by
    rintro rfl
    exact h (List.mem_map_of_mem hk)
  simp [this]

theorem settled_concat {i : Nat} {k : Candidate} (hnodup : (initial.map Candidate.evaluated).Nodup)
    (hk : initial[i]? = some k) :
    settled c initial (met ++ [k.evaluated]) =
      (settled c initial met).set i { k with rendered := some (rendering c k.call) } := by
  obtain ⟨hi, rfl⟩ := List.getElem?_eq_some_iff.1 hk
  refine List.ext_getElem (by simp [settled]) fun j hj _ => ?_
  have hj' : j < initial.length := by simpa [settled] using hj
  rw [List.getElem_set]
  by_cases hij : i = j
  · subst hij
    simp [settled]
  · have hne : initial[j].evaluated ≠ initial[i].evaluated := by
      intro heq
      have hsame : initial[j] = initial[i] :=
        List.inj_on_of_nodup_map hnodup (List.getElem_mem hj') (List.getElem_mem hi) heq
      exact hij ((hnodup.of_map).getElem_inj_iff.1 hsame).symm
    simp [settled, hij, hne]

/-- From wherever the walk is, a part of it gives a result that fits its numbers of references and
its values met. -/
def Meets {α : Type} (c : RenderContext) (initial : List Candidate) (x : Walk α)
    (Q : α → Nat → List Evaluated → Prop) : Prop :=
  ∀ met n p, Follows c initial met n p →
    ∃ n' met', Q (x p).1 n' met' ∧ Follows c initial (met ++ met') (n + n') (x p).2

section

variable {α β : Type} {x : Walk α} {Q R : α → Nat → List Evaluated → Prop}

theorem Meets.pure {a : α} (h : Q a 0 []) : Meets c initial (Pure.pure a) Q := by
  intro met n p hp
  refine ⟨0, [], h, ?_⟩
  rw [List.append_nil, Nat.add_zero]
  exact hp

theorem Meets.bind {f : α → Walk β} {T : β → Nat → List Evaluated → Prop}
    (hx : Meets c initial x Q)
    (hf : ∀ a n met, Q a n met →
      Meets c initial (f a) fun b n' met' => T b (n + n') (met ++ met')) :
    Meets c initial (x >>= f) T := by
  intro met n p hp
  obtain ⟨n₁, met₁, hq, hp₁⟩ := hx met n p hp
  obtain ⟨n₂, met₂, ht, hp₂⟩ := hf _ n₁ met₁ hq _ _ _ hp₁
  refine ⟨n₁ + n₂, met₁ ++ met₂, ht, ?_⟩
  rw [← List.append_assoc, ← Nat.add_assoc]
  exact hp₂

end

/-- What looking a value up has to do. -/
def Found (c : RenderContext) (s : Stack) (calls : List Intrinsic) (v : Evaluated)
    (r : Option Reference) (n : Nat) (met : List Evaluated) : Prop :=
  r = link c s calls v ∧ n = (if r.isSome then 1 else 0) ∧ met = [v]

theorem findIdx?_settled (v : Evaluated) :
    (settled c initial met).findIdx? (fun k => k.evaluated == v) =
      initial.findIdx? fun k => k.evaluated = v := by
  rw [settled, List.findIdx?_map]
  refine congrArg (fun f => List.findIdx? f initial) ?_
  funext k
  by_cases hk : k.evaluated ∈ met <;> simp [hk, beq_eq_decide]

/-- A call is rendered when it is looked up for the first time; later its rendering is there. -/
theorem referenceFor_eq {v : Evaluated} {i : Nat} {k : Candidate}
    (hindex : p.candidates.findIdx? (fun k => k.evaluated == v) = some i)
    (hk : p.candidates[i]? = some k)
    (hr : k.rendered = none ∨ k.rendered = some (rendering c k.call)) :
    ∃ declarations, referenceFor c v p =
      ((rendering c k.call).toOption,
        { candidates := p.candidates.set i { k with rendered := some (rendering c k.call) }
          declarations := declarations
          replaced := p.replaced + if (rendering c k.call).toOption.isSome then 1 else 0 }) := by
  rcases hr with hr | hr
  · have hrun : (c.render k.call none).run p.declarations =
        (rendering c k.call, ((c.render k.call none).run p.declarations).2) :=
      Prod.ext (run_render_eq c k.call p.declarations) rfl
    refine ⟨((c.render k.call none).run p.declarations).2, ?_⟩
    simp only [referenceFor, hindex, hk, hr]
    rw [hrun]
    cases rendering c k.call <;> rfl
  · refine ⟨p.declarations, ?_⟩
    simp only [referenceFor, hindex, hk, hr]
    cases rendering c k.call <;> rfl

theorem meets_referenceFor (h : Claims s calls initial) (v : Evaluated) :
    Meets c initial (referenceFor c v) (Found c s calls v) := by
  intro met n p hp
  have hindex : p.candidates.findIdx? (fun k => k.evaluated == v) =
      initial.findIdx? fun k => k.evaluated = v := by
    rw [hp.candidates_eq, findIdx?_settled]
  have hclaim := h.claimant_eq v
  rw [List.find?_eq_bind_findIdx?_getElem?] at hclaim
  cases hfind : initial.findIdx? fun k => k.evaluated = v with
  | none =>
      rw [hfind] at hindex hclaim
      have hrun : referenceFor c v p = (none, p) := by simp only [referenceFor, hindex]
      have hlink : link c s calls v = none := by simp [link, ← hclaim]
      have habsent : v ∉ initial.map Candidate.evaluated := by
        simpa [List.findIdx?_eq_none_iff] using hfind
      refine ⟨0, [v], ⟨by rw [hrun, hlink], by simp [hrun], rfl⟩, ?_, ?_⟩
      · rw [hrun, settled_concat_of_not_mem habsent]
        exact hp.candidates_eq
      · rw [hrun]
        exact hp.replaced_eq
  | some i =>
      rw [hfind] at hindex hclaim
      obtain ⟨hi, hv, -⟩ := List.findIdx?_eq_some_iff_getElem.1 hfind
      have hk : initial[i]? = some initial[i] := List.getElem?_eq_getElem hi
      rw [Option.bind_some, hk, Option.map_some] at hclaim
      generalize initial[i] = k at hk hclaim hv
      obtain rfl : k.evaluated = v := by simpa using hv
      have hlink : link c s calls k.evaluated = (rendering c k.call).toOption := by
        simp [link, ← hclaim]
      -- what the walk keeps at this place
      obtain ⟨k', hk', hcall, hevaluated, hrendered⟩ : ∃ k', p.candidates[i]? = some k' ∧
          k'.call = k.call ∧ k'.evaluated = k.evaluated ∧
          (k'.rendered = none ∨ k'.rendered = some (rendering c k'.call)) := by
        rw [hp.candidates_eq, settled, List.getElem?_map, hk]
        refine ⟨_, rfl, ?_⟩
        by_cases hmem : k.evaluated ∈ met
        · simp [hmem]
        · simp [hmem, h.unrendered k (List.mem_of_getElem? hk)]
      obtain ⟨declarations, hrun⟩ := referenceFor_eq (c := c) hindex hk' hrendered
      rw [hcall] at hrun
      refine ⟨_, [k.evaluated], ⟨by rw [hrun, hlink], rfl, rfl⟩, ?_, ?_⟩
      · rw [hrun, settled_concat h.nodup hk, ← hp.candidates_eq, hevaluated]
      · rw [hrun, hp.replaced_eq]

/-- A value whose reference takes its place, or for which the walk goes on. -/
theorem meets_replace (h : Claims s calls initial) (v : Evaluated) {x : Walk AttributeTree}
    {Q : AttributeTree → Nat → List Evaluated → Prop}
    (hsome : ∀ r, link c s calls v = some r → Q (.reference r) 1 [v])
    (hnone : link c s calls v = none → Meets c initial x fun tree n met => Q tree n (v :: met)) :
    Meets c initial (referenceFor c v >>= fun found =>
      match found with
      | some r => pure (.reference r)
      | none => x) Q := by
  refine (meets_referenceFor h v).bind ?_
  rintro found n met ⟨rfl, rfl, rfl⟩
  cases hl : link c s calls v with
  | some r => exact Meets.pure (hsome r hl)
  | none => simpa using hnone hl

/-! ### The walk -/

mutual

theorem meets_walkDocument (traits : ResourceTraits) (h : Claims s calls initial) : ∀ tree,
    Meets c initial (walkDocument c tree) (Linked traits (link c s calls) .document tree)
  | .null => Meets.pure (.leaf rfl trivial (by simp [Scope.value?]))
  | .bool b => Meets.pure (.leaf rfl trivial (by simp [Scope.value?]))
  | .number n => Meets.pure (.leaf rfl trivial (by simp [Scope.value?]))
  | .reference r => Meets.pure (.leaf rfl trivial (by simp [Scope.value?]))
  | .string text => by
      rw [walkDocument]
      refine meets_replace h (.text text) ?_ ?_
      · intro r hl
        exact .reference rfl rfl hl
      · intro hl
        refine Meets.pure (.leaf rfl trivial ?_)
        simpa [Scope.value?] using hl
  | .list items => by
      rw [walkDocument]
      apply (meets_walkDocumentItems traits h 0 items).bind
      intro items' n met hitems
      apply Meets.pure
      rw [List.append_nil]
      exact .list rfl (by simp [Scope.value?]) hitems
  | .object entries => by
      rw [walkDocument]
      apply (meets_walkDocumentEntries traits h entries).bind
      intro entries' n met hentries
      apply Meets.pure
      rw [List.append_nil]
      exact .object rfl hentries
  | .document inner => by
      rw [walkDocument]
      apply (meets_walkDocument traits h inner).bind
      intro inner' n met hinner
      apply Meets.pure
      rw [List.append_nil]
      exact .document rfl hinner

theorem meets_walkDocumentItems (traits : ResourceTraits) (h : Claims s calls initial)
    (index : Nat) : ∀ items, Meets c initial (walkDocumentItems c items)
      (LinkedItems traits (link c s calls) .document index items)
  | [] => Meets.pure .nil
  | item :: rest => by
      rw [walkDocumentItems]
      apply (meets_walkDocument traits h item).bind
      intro item' n met hitem
      apply (meets_walkDocumentItems traits h (index + 1) rest).bind
      intro rest' n' met' hrest
      apply Meets.pure
      rw [List.append_nil]
      exact .cons hitem hrest

theorem meets_walkDocumentEntries (traits : ResourceTraits) (h : Claims s calls initial) :
    ∀ entries, Meets c initial (walkDocumentEntries c entries)
      (LinkedEntries traits (link c s calls) .document entries)
  | [] => Meets.pure .nil
  | (key, item) :: rest => by
      rw [walkDocumentEntries]
      apply (meets_walkDocument traits h item).bind
      intro item' n met hitem
      apply (meets_walkDocumentEntries traits h rest).bind
      intro rest' n' met' hrest
      apply Meets.pure
      rw [List.append_nil]
      exact .cons hitem hrest

end

theorem meets_walkString (traits : ResourceTraits) (h : Claims s calls initial) {path : Path}
    (ho : (Scope.attributes path).isOpaque traits = false) (text : String) :
    Meets c initial (walkString c text)
      (Linked traits (link c s calls) (.attributes path) (.string text)) := by
  unfold walkString
  refine meets_replace h (.text text) ?_ ?_
  · intro r hl
    exact .reference ho rfl hl
  · intro hl
    cases hd : Json.document? text with
    | some doc =>
        apply (meets_walkDocument traits h (.ofJson doc)).bind
        intro inner n met hinner
        apply Meets.pure
        rw [List.append_nil]
        exact .expanded ho hl hd hinner
    | none =>
        refine Meets.pure (.leaf ho hd ?_)
        simpa [Scope.value?] using hl

mutual

theorem meets_walk (traits : ResourceTraits) (h : Claims s calls initial) (path : Path) : ∀ tree,
    Meets c initial (walk c traits path tree)
      (Linked traits (link c s calls) (.attributes path) tree)
  | .null => by
      cases ho : isOpaque traits path with
      | true => exact Meets.pure (.untouched ho)
      | false => exact Meets.pure (.leaf ho trivial (by simp [Scope.value?]))
  | .bool b => by
      cases ho : isOpaque traits path with
      | true => exact Meets.pure (.untouched ho)
      | false => exact Meets.pure (.leaf ho trivial (by simp [Scope.value?]))
  | .reference r => by
      cases ho : isOpaque traits path with
      | true => exact Meets.pure (.untouched ho)
      | false => exact Meets.pure (.leaf ho trivial (by simp [Scope.value?]))
  | .string text => by
      rw [walk]
      cases ho : isOpaque traits path with
      | true => exact Meets.pure (.untouched ho)
      | false => exact meets_walkString traits h ho text
  | .number x => by
      rw [walk]
      cases ho : isOpaque traits path with
      | true => exact Meets.pure (.untouched ho)
      | false =>
          refine meets_replace h (.text x.text) ?_ ?_
          · intro r hl
            exact .reference ho rfl hl
          · intro hl
            refine Meets.pure (.leaf ho trivial ?_)
            simpa [Scope.value?] using hl
  | .list items => by
      rw [walk]
      cases ho : isOpaque traits path with
      | true => exact Meets.pure (.untouched ho)
      | false =>
          have hitems (hl : ∀ v ∈ (Scope.attributes path).value? (.list items),
              link c s calls v = none) : Meets c initial
                (walkItems c traits path 0 items >>= fun items => pure (.list items))
                fun tree n met =>
                  Linked traits (link c s calls) (.attributes path) (.list items) tree n
                    (((Scope.attributes path).value? (.list items)).toList ++ met) := by
            apply (meets_walkItems traits h path 0 items).bind
            intro items' n met hitems
            apply Meets.pure
            rw [List.append_nil]
            exact .list ho hl hitems
          cases ht : listTexts? items with
          | none =>
              have hv : (Scope.attributes path).value? (.list items) = none := by
                simp [Scope.value?, ht]
              rw [hv] at hitems
              exact hitems (by simp)
          | some texts =>
              have hv : (Scope.attributes path).value? (.list items) = some (.list texts) := by
                simp [Scope.value?, ht]
              rw [hv] at hitems
              refine meets_replace h (.list texts) ?_ ?_
              · intro r hl
                exact .reference ho hv hl
              · intro hl
                exact hitems (by simpa using hl)
  | .object entries => by
      rw [walk]
      cases ho : isOpaque traits path with
      | true => exact Meets.pure (.untouched ho)
      | false =>
          apply (meets_walkEntries traits h path entries).bind
          intro entries' n met hentries
          apply Meets.pure
          rw [List.append_nil]
          exact .object ho hentries
  | .document inner => by
      rw [walk]
      cases ho : isOpaque traits path with
      | true => exact Meets.pure (.untouched ho)
      | false =>
          apply (meets_walkDocument traits h inner).bind
          intro inner' n met hinner
          apply Meets.pure
          rw [List.append_nil]
          exact .document ho hinner

theorem meets_walkItems (traits : ResourceTraits) (h : Claims s calls initial) (path : Path)
    (index : Nat) : ∀ items, Meets c initial (walkItems c traits path index items)
      (LinkedItems traits (link c s calls) (.attributes path) index items)
  | [] => Meets.pure .nil
  | item :: rest => by
      rw [walkItems]
      apply (meets_walk traits h (path.element index) item).bind
      intro item' n met hitem
      apply (meets_walkItems traits h path (index + 1) rest).bind
      intro rest' n' met' hrest
      apply Meets.pure
      rw [List.append_nil]
      exact .cons hitem hrest

theorem meets_walkEntries (traits : ResourceTraits) (h : Claims s calls initial) (path : Path) :
    ∀ entries, Meets c initial (walkEntries c traits path entries)
      (LinkedEntries traits (link c s calls) (.attributes path) entries)
  | [] => Meets.pure .nil
  | (key, item) :: rest => by
      rw [walkEntries]
      apply (meets_walk traits h (path.child key) item).bind
      intro item' n met hitem
      apply (meets_walkEntries traits h path rest).bind
      intro rest' n' met' hrest
      apply Meets.pure
      rw [List.append_nil]
      exact .cons hitem hrest

end

end StackExport.Proofs.ResolutionWalk
