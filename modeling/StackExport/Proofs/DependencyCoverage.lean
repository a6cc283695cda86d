import StackExport.Proofs.DataSourceLookups
import StackExport.Proofs.DeclaredNames
/-!
The dependencies of a template cover what rendering uses.

A resource that a call does not depend on may as well not be there: rendering goes on the same way
without it. The parameters that rendering declares are those that the call depends on, and no others
are named in its result, as long as the text of a template stays text.
-/
namespace StackExport.Proofs.DependencyCoverage

open StackExport
open StackExport.RenderContext
open StackExport.Template
open StackExport.Proofs.CodeWords
open StackExport.Proofs.DataSourceLookups
open StackExport.Proofs.DeclaredNames
open StackExport.Proofs.ExpressionWords
open StackExport.Proofs.Lexemes
open StackExport.Proofs.RegisteredDeclarations
open StackExport.Proofs.RenderedWords
open StackExport.Proofs.RenderingIndependence
open StackExport.Proofs.RenderingResult
open StackExport.Proofs.RenderingSteps
open StackExport.Proofs.SubstitutionReading
open StackExport.Proofs.TemplateDependencies
open StackExport.Proofs.TemplatePieces

/-! ### Resources -/

/-- A context that lacks a resource, and what it became. -/
def hide (c : RenderContext) (id : String) : RenderContext :=
  { c with
    template := { c.template with resources := c.template.resources.filter (·.id != id) }
    mappings := c.mappings.filter (·.logicalId != id)
    modules := c.modules.filter (·.logicalId != id) }

/-- Rendering uses a resource of the template: it does not go on the same way without it. -/
def ResolvesThrough (c : RenderContext) (call : Intrinsic) (index : Option Nat) (id : String) :
    Prop :=
  HasResource c.template id ∧ (hide c id).render call index ≠ c.render call index

section Hide

variable {c : RenderContext} {id name : String}

theorem find?_filter_of_imp {α : Type} {keep test : α → Bool} (h : ∀ a, test a = true → keep a = true)
    (l : List α) : (l.filter keep).find? test = l.find? test := by
  rw [List.find?_filter]
  congr 1
  funext a
  cases htest : test a with
  | false => simp
  | true => simp [h a htest]

theorem mappingOf_hide (h : name ≠ id) : (hide c id).mappingOf name = c.mappingOf name := by
  have hmapping : findMapping? (hide c id).mappings name = findMapping? c.mappings name := by
    refine find?_filter_of_imp (fun m hm => ?_) c.mappings
    rw [beq_iff_eq] at hm
    rwa [bne_iff_ne, hm]
  have hresource : (hide c id).template.resource? name = c.template.resource? name := by
    refine find?_filter_of_imp (fun r hr => ?_) c.template.resources
    rw [beq_iff_eq] at hr
    rwa [bne_iff_ne, hr]
  rw [mappingOf, mappingOf, hmapping, hresource]

theorem renderRef_hide (h : ¬name.startsWith "AWS::" = true → name ≠ id) (index : Option Nat) :
    (hide c id).renderRef name index = c.renderRef name index := by
  by_cases hpseudo : name.startsWith "AWS::" = true
  · rw [renderRef, renderRef, if_pos hpseudo, if_pos hpseudo]
  · have hparameter : (hide c id).template.parameter? name = c.template.parameter? name := rfl
    rw [renderRef, renderRef, if_neg hpseudo, if_neg hpseudo, hparameter,
      mappingOf_hide (h hpseudo)]

theorem renderField_hide (h : name ≠ id) (field : String) :
    (hide c id).renderField name field = c.renderField name field := by
  have hmodule : (hide c id).moduleOutput? name field = c.moduleOutput? name field := by
    have hfind (output : String) :
        (hide c id).modules.find? (fun m => m.logicalId == name && m.outputs.contains output) =
          c.modules.find? fun m => m.logicalId == name && m.outputs.contains output := by
      refine find?_filter_of_imp (fun m hm => ?_) c.modules
      rw [Bool.and_eq_true, beq_iff_eq] at hm
      rwa [bne_iff_ne, hm.1]
    simp only [moduleOutput?, hfind]
  rw [renderField, renderField, hmodule, mappingOf_hide h]
  rfl

theorem eq_of_alike_hide {α : Type} {x x' : Rendering α}
    (h : Alike c (hide c id) (fun name => name ≠ id) x x') : x = x' := by
  induction h with
  | result a => rfl
  | fault e => rfl
  | dataSource _ _ => rfl
  | reference hname index => exact (renderRef_hide hname index).symm
  | field hname field => rw [renderField_hide hname field]
  | bind _ _ ihx ihf =>
      rw [ihx]
      congr 1
      funext a
      exact ihf a

/-- A call depends on every resource that rendering uses. -/
theorem exists_dependency_of_resolvesThrough {call : Intrinsic} {index : Option Nat}
    (h : ResolvesThrough c call index id) :
    ∃ d ∈ c.template.dependenciesOfCall call, d.target = id := by
  obtain ⟨hresource, hrender⟩ := h
  by_contra hno
  rw [not_exists] at hno
  have hcomparable : Comparable c (hide c id) fun name => name ≠ id := by
    refine ⟨rfl, ?_⟩
    rintro name hunknown - rfl
    exact hunknown hresource
  have halike := alike_render hcomparable call index fun d hd heq => hno d ⟨hd, heq⟩
  exact hrender (eq_of_alike_hide halike).symm

end Hide

/-! ### Parameters -/

section Parameters

variable {c c' : RenderContext} {P : String → Prop} {d : Declaration}

/-- A declaration is one of a parameter with the property, or a data source of another kind. -/
def DeclaresOnly (P : String → Prop) (d : Declaration) : Prop :=
  (∃ p, d = .ofParameter p ∧ P p.name) ∨
    ∃ s, d = .dataSource s ∧ s.type ≠ "aws_ssm_parameter" ∧ '.' ∉ s.type.toList

theorem declaresOnly_of_fixed {s : DataSource} (h : s ∈ fixedSources) :
    DeclaresOnly P (.dataSource s) :=
  .inr ⟨s, rfl, (fixed_type s h).1, (fixed_type s h).2.2⟩

theorem declaresOnly_of_asks {call : Intrinsic} {s : DataSource} (h : Asks c call (.dataSource s))
    (hcall : ∀ name, call ≠ .ref name) : DeclaresOnly P (.dataSource s) := by
  generalize hd : Declaration.dataSource s = d at h
  cases h with
  | pseudo => exact absurd rfl (hcall _)
  | parameter => exact absurd rfl (hcall _)
  | zones region => exact declaresOnly_of_fixed (by decide)
  | exported htext => exact .inr ⟨_, rfl, stored_type_ne.symm, no_dot_export⟩

theorem declaresOnly_renderRef {name : String} (h : ¬name.startsWith "AWS::" = true → P name)
    (index : Option Nat) :
    ∀ d ∈ ((c.renderRef name index).run []).2, DeclaresOnly P d := by
  unfold renderRef
  split
  · split
    · next hsource =>
        intro d hd
        obtain rfl := List.mem_singleton.mp hd
        exact declaresOnly_of_fixed (mem_fixedSources hsource)
    · exact List.forall_mem_nil _
  · next hname =>
      split
      · next p hp =>
          intro d hd
          have hone : d = .ofParameter p := by
            split at hd <;> exact List.mem_singleton.mp hd
          refine .inl ⟨p, hone, ?_⟩
          rw [(mem_of_parameter? hp).2]
          exact h hname
      · intro d hd
        cases hm : c.mappingOf name <;> rw [hm] at hd <;> cases hd

theorem declaresOnly_of_alike {α : Type} {x x' : Rendering α} (h : Alike c c' P x x') :
    ∀ d ∈ (x.run []).2, DeclaresOnly P d := by
  induction h with
  | result a => exact List.forall_mem_nil _
  | fault e => exact List.forall_mem_nil _
  | dataSource hd hcall =>
      intro d hmem
      obtain rfl := List.mem_singleton.mp hmem
      exact declaresOnly_of_asks hd hcall
  | reference hname index => exact declaresOnly_renderRef hname index
  | @field name _ field =>
      cases c.renderField name field <;> exact List.forall_mem_nil _
  | bind _ hf ihx ihf => exact forall_mem_run_bind (fun a => (hf a).composed) ihx ihf

/-- The call depends on every parameter that rendering declares. -/
theorem exists_dependency_of_requested {call : Intrinsic} {index : Option Nat} {p : Parameter}
    (hp : p ∈ c.template.parameters)
    (h : (requested c call index).has (Declaration.ofParameter p).address = true) :
    ∃ d ∈ c.template.dependenciesOfCall call, d.target = p.name := by
  have hcomparable : Comparable c c fun name => HasParameter c.template name →
      ∃ d ∈ c.template.dependenciesOfCall call, d.target = name :=
    ⟨rfl, fun name _ hno hparameter => absurd hparameter hno⟩
  have halike := alike_render hcomparable call index fun d hd _ => ⟨d, hd, rfl⟩
  obtain ⟨d, hd, haddress⟩ := List.any_eq_true.mp h
  rw [beq_iff_eq] at haddress
  rcases declaresOnly_of_alike halike d hd with ⟨q, rfl, hq⟩ | ⟨s, rfl, htype, hdot⟩
  · obtain hname := name_of_address_ofParameter haddress
    rw [← hname]
    exact hq ⟨p, hp, hname.symm⟩
  · exact absurd haddress.symm (address_ofParameter_ne hdot htype p)

end Parameters

/-! ### Edges -/

/-- A word names the variable or the stored value of a parameter. -/
def NamesParameter (word : List Char) (p : Parameter) : Prop :=
  ∃ rest, segments word =
    (if p.isStored then ["data", "aws_ssm_parameter", p.name] else ["var", p.name]) ++ rest

theorem has_of_namesParameter {ds : Declarations} {word : List Char} {p : Parameter}
    (hword : Declared ds word) (h : NamesParameter word p) :
    ds.has (Declaration.ofParameter p).address = true := by
  obtain ⟨rest, hrest⟩ := h
  unfold Declaration.ofParameter
  split_ifs at hrest ⊢
  · exact hword.lookedUp _ _ _ hrest
  · exact hword.named _ _ hrest

section Edges

variable {t : Template}

mutual

theorem mem_dependenciesOf_of_mem_intrinsics {call : Intrinsic} {d : Dependency}
    (hd : d ∈ t.dependenciesOfCall call) :
    ∀ e : Expr, call ∈ e.intrinsics → d ∈ t.dependenciesOf e
  | .intrinsic _, h => by
      obtain rfl := List.mem_singleton.mp h
      exact hd
  | .list items, h => mem_dependenciesOfItems_of_mem hd items h
  | .object entries, h => mem_dependenciesOfEntries_of_mem hd entries h

theorem mem_dependenciesOfItems_of_mem {call : Intrinsic} {d : Dependency}
    (hd : d ∈ t.dependenciesOfCall call) :
    ∀ items : List Expr, call ∈ Expr.intrinsicsOfItems items → d ∈ t.dependenciesOfItems items
  | item :: rest, h => by
      rw [Expr.intrinsicsOfItems, List.mem_append] at h
      rw [dependenciesOfItems, List.mem_append]
      exact h.imp (mem_dependenciesOf_of_mem_intrinsics hd item)
        (mem_dependenciesOfItems_of_mem hd rest)

theorem mem_dependenciesOfEntries_of_mem {call : Intrinsic} {d : Dependency}
    (hd : d ∈ t.dependenciesOfCall call) :
    ∀ entries : List (String × Expr), call ∈ Expr.intrinsicsOfEntries entries →
      d ∈ t.dependenciesOfEntries entries
  | (_, item) :: rest, h => by
      rw [Expr.intrinsicsOfEntries, List.mem_append] at h
      rw [dependenciesOfEntries, List.mem_append]
      exact h.imp (mem_dependenciesOf_of_mem_intrinsics hd item)
        (mem_dependenciesOfEntries_of_mem hd rest)

end

/-- What an outermost call of a resource depends on is the target of an edge that tells whether it is
a resource or a parameter. -/
theorem exists_edge {r : TemplateResource} (hr : r ∈ t.resources) {call : Intrinsic}
    (hcall : call ∈ r.properties.intrinsics) {d : Dependency}
    (hd : d ∈ t.dependenciesOfCall call) :
    ⟨r.id, d.target, d.kind⟩ ∈ t.edges ∧ Known t d :=
  ⟨mem_edges_iff.mpr ⟨r, hr, rfl, .inl (mem_dependenciesOf_of_mem_intrinsics hd _ hcall)⟩,
    known_of_mem_call t call d hd⟩

end Edges

/-- What rendering an outermost call of a resource uses is the target of an edge of that resource:
the resources that it resolves through, the parameters that it declares and, as long as its text
stays text, those that its result names. The latter takes names of the configuration language, and
substitutions in which no sign meets a brace. -/
theorem dependencies_cover_rendering (c : RenderContext)
    (hdisjoint : ∀ name, HasParameter c.template name → ¬HasResource c.template name)
    (r : TemplateResource) (hr : r ∈ c.template.resources) (call : Intrinsic)
    (hcall : call ∈ r.properties.intrinsics) (index : Option Nat) (ds ds' : Declarations)
    (result : Reference) (h : (c.render call index).run ds = (.ok result, ds')) :
    (∀ id, ResolvesThrough c call index id → ∃ kind, (kind = .reference ∨ kind = .field) ∧
        ⟨r.id, id, kind⟩ ∈ c.template.edges) ∧
      (∀ p ∈ c.template.parameters,
        (requested c call index).has (Declaration.ofParameter p).address = true →
          ⟨r.id, p.name, .parameter⟩ ∈ c.template.edges) ∧
      (Named c → Legible c call → ∀ p ∈ c.template.parameters,
        ∀ word ∈ words (lexemes result.expression), NamesParameter word p →
          ⟨r.id, p.name, .parameter⟩ ∈ c.template.edges) := by
  have hparameters : ∀ p ∈ c.template.parameters,
      (requested c call index).has (Declaration.ofParameter p).address = true →
        ⟨r.id, p.name, .parameter⟩ ∈ c.template.edges := by
    intro p hp hhas
    obtain ⟨d, hd, htarget⟩ := exists_dependency_of_requested hp hhas
    obtain ⟨hedge, hknown⟩ := exists_edge hr hcall hd
    rw [htarget] at hedge
    rcases hknown with ⟨hresource, -⟩ | ⟨-, -, hkind⟩
    · rw [htarget] at hresource
      exact absurd hresource (hdisjoint p.name ⟨p, hp, rfl⟩)
    · rwa [hkind] at hedge
  refine ⟨?_, hparameters, ?_⟩
  · intro id hid
    obtain ⟨d, hd, rfl⟩ := exists_dependency_of_resolvesThrough hid
    obtain ⟨hedge, hknown⟩ := exists_edge hr hcall hd
    rcases hknown with ⟨-, hkind⟩ | ⟨hno, -⟩
    · exact ⟨d.kind, hkind, hedge⟩
    · exact absurd hid.1 hno
  · intro hnamed hlegible p hp word hword hnames
    refine hparameters p hp (has_of_namesParameter ?_ hnames)
    have hrun : (c.render call index).run [] = (.ok result, requested c call index) :=
      Prod.ext (by rw [independent_render c call index [] ds, h]) rfl
    have hwrites := writes_render (admits_declared hnamed (requested c call index)) hnamed call
      index hlegible
    have hreads := (hwrites [] result _ hrun fun _ => id).1
    exact (allWords_iff _).mp (hreads.words []) word hword

/-! ### A template of two resources -/

/-- A resource with one call among its properties. -/
def taskResource (call : Intrinsic) : TemplateResource :=
  ⟨"Task", "T", .object [("P", .intrinsic call)], [], none⟩

def taskTemplate (p : Parameter) (call : Intrinsic) : Template :=
  { Template.empty with
    parameters := [p]
    resources := [taskResource call, ⟨"Queue", "T", .object [], [], none⟩] }

def taskContext (p : Parameter) (call : Intrinsic) : RenderContext :=
  ⟨taskTemplate p call, [⟨"Queue", "T", "test_queue", "q", none⟩], ⟨.none "", []⟩, []⟩

def storedImage : Parameter :=
  ⟨"Image", "AWS::SSM::Parameter::Value<String>", some "/image", none, false, none⟩

/-- Joins a stored parameter and a resource. -/
def joinedCall : Intrinsic :=
  .join "-" (.list [.intrinsic (.ref "Image"), .intrinsic (.ref "Queue")])

def joinedResult : Reference :=
  .function "join" [.string "-", .list [
    .reference (.dataSource "aws_ssm_parameter" "Image" "value" true),
    .reference (.direct "test_queue.Queue")]] none

theorem dependencies_cover_rendering_joined :
    ((taskContext storedImage joinedCall).render joinedCall none).run [] =
        (.ok joinedResult, [.ofParameter storedImage]) ∧
      (∃ kind, (kind = .reference ∨ kind = .field) ∧
        ⟨"Task", "Queue", kind⟩ ∈ (taskTemplate storedImage joinedCall).edges) ∧
      ⟨"Task", "Image", .parameter⟩ ∈ (taskTemplate storedImage joinedCall).edges := by
  have hrun : ((taskContext storedImage joinedCall).render joinedCall none).run [] =
      (.ok joinedResult, [.ofParameter storedImage]) := by cbv
  have hresolves : ResolvesThrough (taskContext storedImage joinedCall) joinedCall none "Queue" := by
    refine ⟨⟨_, List.mem_cons_of_mem _ List.mem_cons_self, rfl⟩, fun heq => ?_⟩
    have hhidden : (((hide (taskContext storedImage joinedCall) "Queue").render
        joinedCall none).run []).1 = .error (.unresolvedReference "Queue") := by cbv
    rw [heq, hrun] at hhidden
    cases hhidden
  have hnamed : Named (taskContext storedImage joinedCall) := by
    constructor
    · intro p hp
      obtain rfl := List.mem_singleton.mp hp
      exact isName_of_all (by decide)
    · intro m hm
      obtain rfl := List.mem_singleton.mp hm
      exact ⟨isName_of_all (by decide), by decide⟩
  have hdisjoint : ∀ name, HasParameter (taskTemplate storedImage joinedCall) name →
      ¬HasResource (taskTemplate storedImage joinedCall) name := by
    rintro _ ⟨p, hp, rfl⟩ ⟨r, hr, hname⟩
    obtain rfl := List.mem_singleton.mp hp
    have hids : r.id ∈ ["Task", "Queue"] := List.mem_map_of_mem (f := (·.id)) hr
    rw [hname] at hids
    revert hids
    decide
  have hword : "data.aws_ssm_parameter.Image.value".toList ∈
      words (lexemes joinedResult.expression) := by decide +kernel
  have hnames : NamesParameter "data.aws_ssm_parameter.Image.value".toList storedImage :=
    ⟨["value"], by decide +kernel⟩
  obtain ⟨hresources, -, hparameters⟩ := dependencies_cover_rendering
    (taskContext storedImage joinedCall) hdisjoint _ List.mem_cons_self joinedCall
    List.mem_cons_self none _ _ _ hrun
  exact ⟨hrun, hresources "Queue" hresolves,
    hparameters hnamed ⟨trivial, trivial, trivial⟩ storedImage List.mem_cons_self _ hword hnames⟩

/-- A sign in front of a value that begins with a brace. -/
def signedCall : Intrinsic := .sub "$$\x7bX\x7d" [("X", .string "\x7bvar.Env\x7d")]

def envParameter : Parameter := ⟨"Env", "String", none, none, false, none⟩

/-- The brace of the value opens a live sequence behind the sign of the text, so the result names a
parameter that the resource does not depend on. -/
theorem mention_without_edge :
    ((taskContext envParameter signedCall).render signedCall none).run [] =
        (.ok (.interpolation "$\x7bvar.Env\x7d"), []) ∧
      "var.Env".toList ∈
        words (lexemes (Reference.interpolation "$\x7bvar.Env\x7d").expression) ∧
      NamesParameter "var.Env".toList envParameter ∧
      (taskTemplate envParameter signedCall).edges = [] :=
  ⟨by cbv, by decide, ⟨[], by decide⟩, by cbv⟩

end StackExport.Proofs.DependencyCoverage
