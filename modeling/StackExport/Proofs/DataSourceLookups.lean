import Mathlib
import StackExport.Proofs.ReferenceMeaning
import StackExport.Proofs.RenderingResult
/-!
The data sources that calls read, and what is declared under their addresses.

The address of a look-up fixes its arguments, except for exported values: their addresses are labels
made from the names of the exports, and different names may have the same label. Then the first of
them is declared, and the look-ups of the others read it too.
-/
namespace StackExport.Proofs.DataSourceLookups

open StackExport
open StackExport.RenderContext
open StackExport.Proofs.ReferenceMeaning
open StackExport.Proofs.RegisteredDeclarations
open StackExport.Proofs.RenderingSteps
open StackExport.Proofs.RenderingIndependence
open StackExport.Proofs.RenderingResult

variable {c : RenderContext} {ds : Declarations}

/-! ### Addresses -/

theorem toList_address (d : DataSource) :
    d.address.toList = "data.".toList ++ (d.type.toList ++ '.' :: d.name.toList) := by
  simp [DataSource.address]

theorem eq_of_address_eq {d e : DataSource} (hd : '.' ∉ d.type.toList) (he : '.' ∉ e.type.toList)
    (h : d.address = e.address) : d.type = e.type ∧ d.name = e.name := by
  have hlist := congrArg String.toList h
  rw [toList_address, toList_address, List.append_cancel_left_eq] at hlist
  have hsplit := splitFirst_append hd d.name.toList
  rw [hlist, splitFirst_append he, Option.some.injEq, Prod.mk.injEq] at hsplit
  exact ⟨String.toList_inj.mp hsplit.1.symm, String.toList_inj.mp hsplit.2.symm⟩

theorem address_variable_ne (v : Variable) (d : DataSource) : v.address ≠ d.address := by
  intro h
  have hlist := congrArg String.toList h
  simp [Variable.address, DataSource.address] at hlist

/-- The data sources whose type and name are always the same. -/
def fixedSources : List DataSource :=
  [⟨"aws_region", "current", []⟩, ⟨"aws_caller_identity", "current", []⟩,
    ⟨"aws_partition", "partition", []⟩, ⟨"aws_partition", "url_suffix", []⟩, zonesSource]

theorem mem_fixedSources {name type source field : String}
    (h : pseudoSource? name = some (type, source, field)) :
    (⟨type, source, []⟩ : DataSource) ∈ fixedSources := by
  unfold pseudoSource? at h
  split at h <;> cases h <;> decide

/-- A data source that a call asks for is a fixed one, a stored parameter or an exported value. -/
theorem cases_of_asks {call : Intrinsic} {d : DataSource} (h : Asks c call (.dataSource d)) :
    d ∈ fixedSources ∨
      (∃ p, c.template.parameter? p.name = some p ∧ Declaration.ofParameter p = .dataSource d) ∨
      ∃ text, d = exportSource text := by
  generalize hd : Declaration.dataSource d = declared at h
  cases h with
  | pseudo hname hsource =>
      cases hd
      exact Or.inl (mem_fixedSources hsource)
  | @parameter name p hname hp =>
      obtain rfl := (mem_of_parameter? hp).2
      exact Or.inr (Or.inl ⟨p, hp, rfl⟩)
  | zones region =>
      cases hd
      exact Or.inl (by decide)
  | exported htext =>
      cases hd
      exact Or.inr (Or.inr ⟨_, rfl⟩)

theorem fixed_eq : ∀ d ∈ fixedSources, ∀ e ∈ fixedSources, d.type = e.type → d.name = e.name →
    d = e := by
  decide

theorem fixed_type : ∀ d ∈ fixedSources, d.type ≠ "aws_ssm_parameter" ∧
    d.type ≠ "aws_cloudformation_export" ∧ '.' ∉ d.type.toList := by
  decide

theorem stored_type_ne : "aws_ssm_parameter" ≠ "aws_cloudformation_export" := by
  decide

theorem no_dot_export : '.' ∉ "aws_cloudformation_export".toList := by
  decide

theorem no_dot_stored : '.' ∉ "aws_ssm_parameter".toList := by
  decide

theorem cases_of_ofParameter {p : Parameter} {d : DataSource}
    (h : Declaration.ofParameter p = .dataSource d) :
    d.type = "aws_ssm_parameter" ∧ d.name = p.name := by
  unfold Declaration.ofParameter at h
  split at h
  · cases h
    exact ⟨rfl, rfl⟩
  · cases h

theorem no_dot_of_asks {call : Intrinsic} {d : DataSource} (h : Asks c call (.dataSource d)) :
    '.' ∉ d.type.toList := by
  rcases cases_of_asks h with hfixed | ⟨p, -, hp⟩ | ⟨text, rfl⟩
  · exact (fixed_type d hfixed).2.2
  · rw [(cases_of_ofParameter hp).1]
    decide
  · exact no_dot_export

/-- Two calls that ask for data sources of one type and name ask for the same one, or for exported
values. -/
theorem eq_or_exports {call call' : Intrinsic} {d e : DataSource} (hd : Asks c call (.dataSource d))
    (he : Asks c call' (.dataSource e)) (htype : d.type = e.type) (hname : d.name = e.name) :
    d = e ∨ ∃ text text', d = exportSource text ∧ e = exportSource text' := by
  rcases cases_of_asks hd with hdfixed | ⟨p, hp, hdp⟩ | ⟨text, rfl⟩ <;>
    rcases cases_of_asks he with hefixed | ⟨q, hq, heq⟩ | ⟨text', rfl⟩
  · exact Or.inl (fixed_eq d hdfixed e hefixed htype hname)
  · exact absurd (htype.trans (cases_of_ofParameter heq).1) (fixed_type d hdfixed).1
  · exact absurd htype (fixed_type d hdfixed).2.1
  · exact absurd (htype.symm.trans (cases_of_ofParameter hdp).1) (fixed_type e hefixed).1
  · have hnames : p.name = q.name := by
      rw [← (cases_of_ofParameter hdp).2, ← (cases_of_ofParameter heq).2, hname]
    rw [hnames, hq, Option.some.injEq] at hp
    rw [← hp, heq, Declaration.dataSource.injEq] at hdp
    exact Or.inl hdp.symm
  · exact absurd ((cases_of_ofParameter hdp).1.symm.trans htype) stored_type_ne
  · exact absurd htype.symm (fixed_type e hefixed).2.1
  · exact absurd ((cases_of_ofParameter heq).1.symm.trans htype.symm) stored_type_ne
  · exact Or.inr ⟨text, text', rfl, rfl⟩

/-! ### What is declared -/

/-- What is declared for an address that a call may ask for is what a call asks for. -/
def Settled (c : RenderContext) (ds : Declarations) : Prop :=
  ∀ call d e, Asks c call d → declared? ds d.address = some e → ∃ call', Asks c call' e

theorem settled_nil (c : RenderContext) : Settled c [] := by
  intro call d e _ h
  cases h

theorem settled_registerAll (h : Settled c ds) {new : Declarations}
    (hnew : ∀ d ∈ new, ∃ call, Asks c call d) : Settled c (registerAll ds new) := by
  intro call d e hd he
  rw [declared?_registerAll, declared?_append, Option.or_eq_some_iff] at he
  rcases he with hold | ⟨-, hin⟩
  · exact h call d e hd hold
  · exact hnew e (mem_of_declared? hin)

/-- The first element that passes a test passes it first among those that pass a sharper one. -/
theorem find?_of_sharper {α : Type} {test sharper : α → Bool} {xs : List α} {x y : α}
    (hsharper : ∀ z, sharper z = true → test z = true) (hx : xs.find? test = some x)
    (hpass : sharper x = true) (hy : xs.find? sharper = some y) : y = x := by
  induction xs with
  | nil => cases hx
  | cons z xs ih =>
      by_cases hz : test z = true
      · rw [List.find?_cons_of_pos hz, Option.some.injEq] at hx
        subst hx
        rw [List.find?_cons_of_pos hpass, Option.some.injEq] at hy
        exact hy.symm
      · have hsharp : ¬sharper z = true := fun h => hz (hsharper z h)
        rw [List.find?_cons_of_neg hz] at hx
        rw [List.find?_cons_of_neg hsharp] at hy
        exact ih hx hy

theorem name_of_address_ofParameter {p q : Parameter}
    (h : (Declaration.ofParameter q).address = (Declaration.ofParameter p).address) :
    q.name = p.name := by
  unfold Declaration.ofParameter at h
  split at h <;> split at h
  · exact (eq_of_address_eq no_dot_stored no_dot_stored h).2
  · exact absurd h.symm (address_variable_ne _ _)
  · exact absurd h (address_variable_ne _ _)
  · simpa [Declaration.address, Variable.address] using h

theorem address_ofParameter_ne {d : DataSource} (hdot : '.' ∉ d.type.toList)
    (htype : d.type ≠ "aws_ssm_parameter") (q : Parameter) :
    (Declaration.ofParameter q).address ≠ d.address := by
  unfold Declaration.ofParameter
  split
  · intro h
    exact htype (eq_of_address_eq no_dot_stored hdot h).1.symm
  · exact address_variable_ne _ d

/-- A parameter that is the first of its name is declared by the template, whatever the others. -/
theorem declared?_ofTemplate {t : Template} {name : String} {p : Parameter}
    (hp : t.parameter? name = some p) :
    declared? (.ofTemplate t) (Declaration.ofParameter p).address =
      some (Declaration.ofParameter p) := by
  obtain rfl := (mem_of_parameter? hp).2
  rw [RegisteredDeclarations.ofTemplate_eq, declared?_registerAll, List.nil_append, declared?,
    List.find?_map]
  rcases hfound : t.parameters.find? _ with _ | q
  · have hnone := List.find?_eq_none.mp hfound p (List.mem_of_find?_eq_some hp)
    simp at hnone
  · obtain rfl : q = p := by
      refine find?_of_sharper (fun r hr => ?_) hp (by simp) hfound
      simpa using name_of_address_ofParameter (by simpa using hr)
    rfl

theorem settled_ofTemplate (c : RenderContext) : Settled c (.ofTemplate c.template) := by
  intro call d e hd he
  have hother {d : DataSource} (hd : Asks c call (.dataSource d))
      (htype : d.type ≠ "aws_ssm_parameter")
      (he : declared? (.ofTemplate c.template) d.address = some e) : ∃ call', Asks c call' e := by
    rw [RegisteredDeclarations.ofTemplate_eq, declared?_registerAll, List.nil_append] at he
    obtain ⟨q, -, rfl⟩ := List.mem_map.mp (mem_of_declared? he)
    exact absurd (address_of_declared? he) (address_ofParameter_ne (no_dot_of_asks hd) htype q)
  cases hd with
  | pseudo hname hsource =>
      exact hother (.pseudo hname hsource) (fixed_type _ (mem_fixedSources hsource)).1 he
  | @parameter name p hname hp =>
      rw [declared?_ofTemplate hp, Option.some.injEq] at he
      exact ⟨.ref name, he ▸ .parameter hname hp⟩
  | zones region => exact hother (.zones region) (by decide) he
  | exported htext => exact hother (.exported htext) stored_type_ne.symm he

/-- Renders calls one after the other. -/
def renderAll (c : RenderContext) (ds : Declarations) (calls : List (Intrinsic × Option Nat)) :
    Declarations :=
  calls.foldl (fun ds call => ((c.render call.1 call.2).run ds).2) ds

/-- Whatever registering what calls ask for keeps is kept by rendering calls. -/
theorem renderAll_preserves {Q : Declarations → Prop}
    (hstep : ∀ ds new, (∀ d ∈ new, ∃ call, Asks c call d) → Q ds → Q (registerAll ds new))
    (h : Q ds) (calls : List (Intrinsic × Option Nat)) : Q (renderAll c ds calls) := by
  induction calls generalizing ds with
  | nil => exact h
  | cons call calls ih =>
      apply ih
      dsimp only
      rw [snd_run_render]
      exact hstep ds _ (asks_of_composed (composed_render c call.1 call.2)) h

theorem settled_renderAll (h : Settled c ds) (calls : List (Intrinsic × Option Nat)) :
    Settled c (renderAll c ds calls) :=
  renderAll_preserves (Q := Settled c) (fun _ _ hnew hds => settled_registerAll hds hnew) h calls

theorem nodup_renderAll (h : (ds.map Declaration.address).Nodup)
    (calls : List (Intrinsic × Option Nat)) :
    ((renderAll c ds calls).map Declaration.address).Nodup :=
  renderAll_preserves (Q := fun ds => (ds.map Declaration.address).Nodup)
    (fun _ new _ hds => nodup_registerAll hds new) h calls

theorem declared?_renderAll {address : String} {d : Declaration}
    (h : declared? ds address = some d) (calls : List (Intrinsic × Option Nat)) :
    declared? (renderAll c ds calls) address = some d :=
  renderAll_preserves (Q := fun ds => declared? ds address = some d)
    (fun _ new _ hds => declared?_registerAll_of_some hds new) h calls

/-- What is declared for a look-up is the look-up itself or that of another exported value. -/
theorem eq_or_exports_of_declared? (h : Settled c ds) {call : Intrinsic} {d : DataSource}
    (hd : Asks c call (.dataSource d)) {e : Declaration}
    (he : declared? ds d.address = some e) :
    e = .dataSource d ∨
      ∃ text text', d = exportSource text ∧ e = .dataSource (exportSource text') := by
  obtain ⟨call', he'⟩ := h call (.dataSource d) e hd he
  have haddress := address_of_declared? he
  rcases e with v | e
  · exact absurd haddress (address_variable_ne v d)
  · have hsame := eq_of_address_eq (no_dot_of_asks he') (no_dot_of_asks hd) haddress
    rcases eq_or_exports hd he' hsame.1.symm hsame.2.symm with rfl | ⟨text, text', hd', rfl⟩
    · exact Or.inl rfl
    · exact Or.inr ⟨text, text', hd', rfl⟩

/-! ### What a call reads -/

/-- The call that decides what a call stands for: itself, or the one that an index selects. -/
inductive Selects : Intrinsic → Intrinsic → Prop where
  | itself (call : Intrinsic) : Selects call call
  | element {selector : Expr} {inner leaf : Intrinsic} (h : Selects inner leaf) :
      Selects (.select selector (.intrinsic inner)) leaf
  | item {selector : Expr} {items : List Expr} {i : Nat} {inner leaf : Intrinsic}
      (hi : selector.index? = some i) (hitem : items[i]? = some (.intrinsic inner))
      (h : Selects inner leaf) : Selects (.select selector (.list items)) leaf

/-- A data source that a rendering gives is one that is asked for, and is registered. -/
def Reads (c : RenderContext) (selects : Intrinsic → Prop) (x : Rendering Reference) : Prop :=
  ∀ ds ds' type name field parameter,
    x.run ds = (.ok (.dataSource type name field parameter), ds') →
      ∃ leaf d, selects leaf ∧ Asks c leaf (.dataSource d) ∧ d.type = type ∧ d.name = name ∧
        ds' = ds.register (.dataSource d)

def isLookUp : Reference → Bool
  | .dataSource _ _ _ _ => true
  | _ => false

theorem isLookUp_element (r : Reference) (i : Nat) : isLookUp (indexed r (some i)) = false := by
  cases r <;> rfl

theorem isLookUp_indexed {r : Reference} (h : isLookUp r = false) (index : Option Nat) :
    isLookUp (indexed r index) = false := by
  cases index with
  | none => exact h
  | some i => exact isLookUp_element r i

variable {selects selects' : Intrinsic → Prop} {x : Rendering Reference}

theorem reads_of_returns (h : Returns x fun r => isLookUp r = false) : Reads c selects x := by
  intro ds ds' type name field parameter hrun
  cases h ds _ ds' hrun

theorem reads_throw (e : RenderError) : Reads c selects (throw e) :=
  reads_of_returns (returns_throw e)

theorem Reads.mono (hx : Reads c selects x) (h : ∀ leaf, selects leaf → selects' leaf) :
    Reads c selects' x := by
  intro ds ds' type name field parameter hrun
  obtain ⟨leaf, d, hleaf, hrest⟩ := hx ds ds' type name field parameter hrun
  exact ⟨leaf, d, h leaf hleaf, hrest⟩

/-- Registering a look-up that a call asks for and giving a reference to it. -/
theorem reads_declare {call : Intrinsic} {d : DataSource} (hcall : selects call)
    (hd : Asks c call (.dataSource d)) {r : Reference}
    (hr : ∀ type name field parameter, r = .dataSource type name field parameter →
      d.type = type ∧ d.name = name) :
    Reads c selects (declare (.dataSource d) >>= fun _ => pure r) := by
  intro ds ds' type name field parameter hrun
  cases hrun
  obtain ⟨htype, hname⟩ := hr type name field parameter rfl
  exact ⟨call, d, hcall, hd, htype, hname, rfl⟩

theorem reads_renderRef (c : RenderContext) (name : String) (index : Option Nat) :
    Reads c (Selects (.ref name)) (c.renderRef name index) := by
  unfold renderRef
  split
  · next hname =>
      split
      · next hsource =>
          refine reads_declare (.itself _) (.pseudo hname hsource) ?_
          rintro type name field parameter ⟨⟩
          exact ⟨rfl, rfl⟩
      · exact reads_throw _
  · next hname =>
      split
      · next p hp =>
          by_cases hstored : p.isStored = true
          · have hasks := Asks.parameter hname hp
            have hpname := (mem_of_parameter? hp).2
            rw [Declaration.ofParameter, if_pos hstored] at hasks ⊢
            simp only [if_pos hstored]
            refine reads_declare (.itself _) hasks ?_
            rintro type name field parameter ⟨⟩
            exact ⟨rfl, hpname⟩
          · simp only [if_neg hstored]
            exact reads_of_returns ((returns_any _).bind fun _ _ => returns_pure rfl)
      · exact reads_of_returns
          ((returns_any _).bind fun _ _ => returns_pure (isLookUp_indexed rfl index))

theorem isLookUp_renderField {resource field : String} {r : Reference}
    (h : c.renderField resource field = .ok r) : isLookUp r = false := by
  obtain ⟨path, rfl⟩ | ⟨m, name, -, rfl⟩ := renderField_cases h <;> rfl

theorem reads_lift_bind {α : Type} {x : Except RenderError α} {f : α → Rendering Reference}
    (hf : ∀ a, x = .ok a → Reads c selects (f a)) : Reads c selects (liftM x >>= f) := by
  cases x with
  | ok a => exact hf a rfl
  | error e => exact reads_throw e

-- Data sources are given by references, zones and imported values, which register them as their
-- last step. Only selections hand on what another call gives, so they alone are followed inwards.
mutual

theorem reads_render (c : RenderContext) (call : Intrinsic) (index : Option Nat) :
    Reads c (Selects call) (c.render call index) := by
  cases call with
  | ref name => exact reads_renderRef c name index
  | getAtt resource field =>
      rw [render]
      refine reads_of_returns ((returns_any _).bind fun _ _ =>
        (returns_lift fun _ => isLookUp_renderField).bind fun _ hr => ?_)
      exact returns_pure (isLookUp_indexed hr index)
  | select selector items =>
      rw [render]
      refine reads_lift_bind fun selected hselected => ?_
      exact reads_renderSelected c (index?_of_literalIndex hselected) items index
  | findInMap map top second =>
      rw [render]
      exact reads_of_returns ((returns_any _).bind fun _ _ => (returns_any _).bind fun _ _ =>
        (returns_any _).bind fun _ _ => returns_pure rfl)
  | cidr block count bits =>
      rw [render]
      exact reads_of_returns ((returns_any _).bind fun _ _ => (returns_any _).bind fun _ _ =>
        (returns_any _).bind fun _ _ => (returns_any _).bind fun _ _ =>
          returns_pure (isLookUp_indexed rfl index))
  | zones region =>
      rw [render]
      refine reads_declare (.itself _) (.zones region) ?_
      rintro type name field parameter ⟨⟩
      exact ⟨rfl, rfl⟩
  | importValue name =>
      rw [render]
      split
      · exact reads_throw _
      · next text htext =>
          cases index with
          | none =>
              refine reads_declare (.itself _) (.exported htext) ?_
              rintro type name field parameter ⟨⟩
              exact ⟨rfl, rfl⟩
          | some i =>
              exact reads_of_returns
                ((returns_any _).bind fun _ _ => returns_pure (isLookUp_element _ i))
  | unsupported tag =>
      rw [render]
      exact reads_throw _
  | _ =>
      rw [render]
      exact reads_of_returns
        ((returns_any _).bind fun _ _ => returns_pure (isLookUp_indexed rfl index))

theorem reads_renderSelected (c : RenderContext) {selector : Expr} {selected : Nat}
    (h : selector.index? = some selected) (items : Expr) (index : Option Nat) :
    Reads c (Selects (.select selector items)) (c.renderSelected items selected index) := by
  cases items with
  | intrinsic inner =>
      rw [renderSelected]
      exact (reads_render c inner (some selected)).mono fun leaf => .element
  | list items =>
      rw [renderSelected]
      refine (reads_renderItem c items selected selected items.length index).mono ?_
      rintro leaf ⟨inner, hitem, hleaf⟩
      exact .item h hitem hleaf
  | _ =>
      rw [renderSelected]
      · exact reads_throw _
      all_goals simp

theorem reads_renderItem (c : RenderContext) (items : List Expr)
    (position selected count : Nat) (index : Option Nat) :
    Reads c (fun leaf => ∃ inner, items[position]? = some (.intrinsic inner) ∧ Selects inner leaf)
      (c.renderItem items position selected count index) := by
  cases items with
  | nil =>
      rw [renderItem]
      exact reads_throw _
  | cons item rest =>
      cases position with
      | zero =>
          cases item with
          | intrinsic inner =>
              rw [renderItem]
              exact (reads_render c inner index).mono fun leaf hleaf => ⟨inner, rfl, hleaf⟩
          | _ =>
              rw [renderItem]
              · exact reads_throw _
              all_goals simp
      | succ position =>
          rw [renderItem]
          exact reads_renderItem c rest position selected count index

end

theorem declared?_register_address (ds : Declarations) (d : Declaration) :
    declared? (ds.register d) d.address = some ((declared? ds d.address).getD d) := by
  rw [declared?_register, declared?_append]
  have hd : declared? [d] d.address = some d := by simp [declared?]
  rw [hd]
  cases declared? ds d.address <;> rfl

theorem exportSource_inj {text other : String} (h : exportSource text = exportSource other) :
    text = other := by
  simpa [exportSource] using congrArg DataSource.arguments h

/-- In an accumulator without repeated addresses, what is declared for an address is all that it has
for it. -/
theorem declared?_of_mem (h : (ds.map Declaration.address).Nodup) {d : Declaration} (hd : d ∈ ds) :
    declared? ds d.address = some d := by
  induction ds with
  | nil => cases hd
  | cons e ds ih =>
      rw [List.map_cons, List.nodup_cons] at h
      rcases List.mem_cons.mp hd with rfl | hin
      · simp [declared?]
      · have hne : e.address ≠ d.address := fun heq => h.1 (heq ▸ List.mem_map_of_mem hin)
        rw [declared?, List.find?_cons_of_neg (by simpa using hne)]
        exact ih h.2 hin

/-- Some export of another name has the label of this one. -/
def Taken (ds : Declarations) (d : DataSource) : Prop :=
  ∃ text other, d = exportSource text ∧ .dataSource (exportSource other) ∈ ds ∧
    Text.label other = Text.label text ∧ other ≠ text

theorem stored_eq_iff (hsettled : Settled c ds) (hnodup : (ds.map Declaration.address).Nodup)
    {call : Intrinsic} {d : DataSource} (hd : Asks c call (.dataSource d)) :
    (declared? ds d.address).getD (.dataSource d) = .dataSource d ↔ ¬Taken ds d := by
  constructor
  · rintro hstored ⟨text, other, rfl, hother, hlabel, hne⟩
    have haddress : (exportSource other).address = (exportSource text).address := by
      simp only [DataSource.address, exportSource, hlabel]
    have hfound := declared?_of_mem hnodup hother
    rw [Declaration.address, haddress] at hfound
    rw [hfound, Option.getD_some, Declaration.dataSource.injEq] at hstored
    exact hne (exportSource_inj hstored)
  · intro hfree
    rcases hfound : declared? ds d.address with _ | e
    · rfl
    · rcases eq_or_exports_of_declared? hsettled hd hfound with rfl | ⟨text, other, rfl, rfl⟩
      · rfl
      · by_contra hne
        refine hfree ⟨text, other, rfl, mem_of_declared? hfound, ?_, ?_⟩
        · exact (eq_of_address_eq no_dot_export no_dot_export (address_of_declared? hfound)).2
        · rintro rfl
          exact hne rfl

/-- A call that gives a data source gives the one that it asks for, and in the end that one is
declared under its address, unless an export of another name took its label before. -/
theorem stored_look_up_iff (c : RenderContext) (start : Declarations)
    (hstart : start = [] ∨ start = .ofTemplate c.template)
    (before after : List (Intrinsic × Option Nat)) (call : Intrinsic) (index : Option Nat)
    {type name field : String} {parameter : Bool} {ds' : Declarations}
    (hrun : (c.render call index).run (renderAll c start before) =
      (.ok (.dataSource type name field parameter), ds')) :
    ∃ leaf d stored, Selects call leaf ∧ Asks c leaf (.dataSource d) ∧
      d.type = type ∧ d.name = name ∧
      declared? (renderAll c ds' after) ("data." ++ type ++ "." ++ name) = some stored ∧
      (stored = .dataSource d ↔ ¬Taken (renderAll c start before) d) := by
  have hsettled : Settled c start := by
    rcases hstart with rfl | rfl
    · exact settled_nil c
    · exact settled_ofTemplate c
  have hnodup : (start.map Declaration.address).Nodup := by
    rcases hstart with rfl | rfl
    · exact List.nodup_nil
    · exact nodup_registerAll (show (List.map Declaration.address []).Nodup from List.nodup_nil) _
  obtain ⟨leaf, d, hleaf, hd, rfl, rfl, rfl⟩ := reads_render c call index _ _ _ _ _ _ hrun
  refine ⟨leaf, d, _, hleaf, hd, rfl, rfl, declared?_renderAll ?_ after,
    stored_eq_iff (settled_renderAll hsettled before) (nodup_renderAll hnodup before) hd⟩
  exact declared?_register_address _ (.dataSource d)

/-- A context without parameters, resources and modules. -/
def emptyContext : RenderContext := ⟨.empty, [], ⟨.none "", []⟩, []⟩

def imported (name : String) : Intrinsic := .importValue (.string name)

theorem run_imported (name : String) (ds : Declarations) :
    (emptyContext.render (imported name) none).run ds =
      (.ok (.dataSource "aws_cloudformation_export" (Text.label name) "value" false),
        ds.register (.dataSource (exportSource name))) := by
  rw [imported, render]
  rfl

def secondImport : Intrinsic :=
  .select (.string "1") (.list [.null, .intrinsic (imported "net/a")])

theorem run_secondImport (ds : Declarations) :
    (emptyContext.render secondImport none).run ds =
      (emptyContext.render (imported "net/a") none).run ds := by
  have hindex : (Expr.string "1").index? = some 1 := by decide
  rw [secondImport, render_select emptyContext hindex, renderSelected, renderItem, renderItem]

theorem stored_look_up_iff_selected :
    (emptyContext.render secondImport none).run
        (renderAll emptyContext [] [(imported "net:b", none)]) =
      (.ok (.dataSource "aws_cloudformation_export" "net_a" "value" false),
        [.dataSource (exportSource "net:b"), .dataSource (exportSource "net/a")]) ∧
    ∃ leaf d stored, Selects secondImport leaf ∧ Asks emptyContext leaf (.dataSource d) ∧
      d.type = "aws_cloudformation_export" ∧ d.name = "net_a" ∧
      declared? (renderAll emptyContext
          [.dataSource (exportSource "net:b"), .dataSource (exportSource "net/a")]
          [(imported "net:a", none)])
        ("data." ++ "aws_cloudformation_export" ++ "." ++ "net_a") = some stored ∧
      (stored = .dataSource d ↔ ¬Taken (renderAll emptyContext [] [(imported "net:b", none)]) d) := by
  have hrun : (emptyContext.render secondImport none).run
        (renderAll emptyContext [] [(imported "net:b", none)]) =
      (.ok (.dataSource "aws_cloudformation_export" "net_a" "value" false),
        [.dataSource (exportSource "net:b"), .dataSource (exportSource "net/a")]) := by
    have hlabel : Text.label "net/a" = "net_a" := by decide
    have hds : Declarations.register [.dataSource (exportSource "net:b")]
        (.dataSource (exportSource "net/a")) =
        [.dataSource (exportSource "net:b"), .dataSource (exportSource "net/a")] := by
      decide
    have hbefore : renderAll emptyContext [] [(imported "net:b", none)] =
        [.dataSource (exportSource "net:b")] := by
      rw [renderAll, List.foldl_cons, run_imported]
      rfl
    rw [run_secondImport, hbefore, run_imported, hlabel, hds]
  exact ⟨hrun, stored_look_up_iff emptyContext [] (Or.inl rfl) _ _ _ none hrun⟩

/-- Two exports with one label: the look-up of the second reads the first. -/
theorem second_export_reads_first :
    (emptyContext.render (imported "net:a") none).run [] =
      (.ok (.dataSource "aws_cloudformation_export" "net_a" "value" false),
        [.dataSource (exportSource "net:a")]) ∧
    (emptyContext.render (imported "net/a") none).run [.dataSource (exportSource "net:a")] =
      (.ok (.dataSource "aws_cloudformation_export" "net_a" "value" false),
        [.dataSource (exportSource "net:a")]) ∧
    Asks emptyContext (imported "net/a") (.dataSource (exportSource "net/a")) ∧
    exportSource "net/a" ≠ exportSource "net:a" := by
  refine ⟨by cbv, by cbv, .exported rfl, ?_⟩
  decide

end StackExport.Proofs.DataSourceLookups
