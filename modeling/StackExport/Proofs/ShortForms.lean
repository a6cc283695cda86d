import Mathlib
import StackExport.Proofs.CallForms
/-!
Templates in which calls are written in their short and in their long form.

`Rewritten` relates values in which any number of calls, at any depth, change their form. The
documents that they stand for are alike, so the templates that are read from them are the same but
for the calls that stand in place of the variables of a substitution.
-/
namespace StackExport.Proofs.ShortForms

open StackExport
open StackExport.Template
open StackExport.Yaml (Value)
open StackExport.Proofs.CallForms

/-! ### Changing the form of calls -/

/-- The key of the call that a tag with its exclamation marks stands for. -/
def tagKey (tag : String) : String :=
  callKey (String.ofList (tag.toList.dropWhile (· == '!')))

/-- The same value, but for calls that have a tag in one and a key in the other. The texts of keys
stay as they are. -/
inductive Rewritten : Value → Value → Prop where
  | null : Rewritten .null .null
  | bool (b : Bool) : Rewritten (.bool b) (.bool b)
  | int (n : Int) : Rewritten (.int n) (.int n)
  | float (x : Float) : Rewritten (.float x) (.float x)
  | string (s : String) : Rewritten (.string s) (.string s)
  | sequence {items items' : List Value} (h : List.Forall₂ Rewritten items items') :
      Rewritten (.sequence items) (.sequence items')
  | mapping {entries entries' : List (Value × Value)}
      (h : Matching keyText (fun _ => Rewritten) entries entries') :
      Rewritten (.mapping entries) (.mapping entries')
  | tagged (tag : String) {v w : Value} (h : Rewritten v w) :
      Rewritten (.tagged tag v) (.tagged tag w)
  | lengthened (tag : String) {v w : Value} (h : Rewritten v w) :
      Rewritten (.tagged tag v) (.mapping [(.string (tagKey tag), w)])
  | shortened (tag : String) {v w : Value} (h : Rewritten v w) :
      Rewritten (.mapping [(.string (tagKey tag), v)]) (.tagged tag w)

/-- The same value, or mappings with related values. -/
inductive Entrywise (R : String → Value → Value → Prop) : Value → Value → Prop where
  | same (v : Value) : Entrywise R v v
  | mapping {entries entries' : List (Value × Value)} (h : Matching keyText R entries entries') :
      Entrywise R (.mapping entries) (.mapping entries')

/-- Values are related in the field with a name and the same in any other. -/
def InField {α : Type} (name : String) (R : α → α → Prop) (key : String) (v w : α) : Prop :=
  if key = name then R v w else v = w

/-- Values are related as the section of a template says in which they stand. -/
def InSections {α : Type} (resources outputs : α → α → Prop) (key : String) (v w : α) : Prop :=
  if key = "Resources" then resources v w
  else if key = "Outputs" then outputs v w
  else v = w

/-- Templates in which calls change their form in the properties of resources and the values of
outputs. -/
def TemplateRewritten : Value → Value → Prop :=
  Entrywise (InSections (Entrywise fun _ => Entrywise (InField "Properties" Rewritten))
    (Entrywise fun _ => Entrywise (InField "Value" Rewritten)))

/-! ### Documents -/

/-- The argument of a call stays as it is, or it is a dotted text of which a list is made. -/
theorem callArgument_cases (name : String) (argument : Json) :
    callArgument name argument = argument ∨
      name = "GetAtt" ∧ ∃ text resource field, argument = .string text ∧
        Text.splitOnce? '.' text = some (resource, field) ∧
        callArgument name argument = .array [.string resource, .string field] := by
  cases argument with
  | string text =>
      rw [callArgument]
      split_ifs with hname
      · cases hsplit : Text.splitOnce? '.' text with
        | none => exact .inl rfl
        | some pair => exact .inr ⟨by simpa using hname, text, pair.1, pair.2, rfl, hsplit, rfl⟩
      · exact .inl rfl
  | _ => exact .inl rfl

theorem callKey_getAtt : callKey "GetAtt" = "Fn::GetAtt" := by decide

theorem alike_lengthened (name : String) {a b : Json} (h : Alike a b) :
    Alike (.object [(callKey name, callArgument name a)]) (.object [(callKey name, b)]) := by
  rcases callArgument_cases name a with hsame | ⟨rfl, text, resource, field, rfl, hsplit, hlist⟩
  · rw [hsame]
    exact .object (.cons rfl h .nil)
  · cases h
    rw [hlist, callKey_getAtt]
    exact .dotted hsplit

theorem alike_shortened (name : String) {a b : Json} (h : Alike a b) :
    Alike (.object [(callKey name, a)]) (.object [(callKey name, callArgument name b)]) := by
  rcases callArgument_cases name b with hsame | ⟨rfl, text, resource, field, rfl, hsplit, hlist⟩
  · rw [hsame]
    exact .object (.cons rfl h .nil)
  · cases h
    rw [hlist, callKey_getAtt]
    exact .listed hsplit

theorem alike_callArgument (name : String) {a b : Json} (h : Alike a b) :
    Alike (callArgument name a) (callArgument name b) := by
  rcases callArgument_cases name a with ha | ⟨rfl, text, resource, field, rfl, hsplit, hlist⟩
  · rcases callArgument_cases name b with hb | ⟨rfl, text, resource, field, rfl, hsplit, hlist⟩
    · rw [ha, hb]
      exact h
    · cases h
      rw [hlist]
      exact .array (.cons (.string _) (.cons (.string _) .nil))
  · cases h
    rw [hlist]
    exact .array (.cons (.string _) (.cons (.string _) .nil))

/-- The document of a mapping with one entry under a text. -/
theorem longForm_single (key : String) (v : Value) :
    longForm (.mapping [(.string key, v)]) = .object [(key, longForm v)] := by
  rw [longForm, longFormEntries, longFormEntries]
  rfl

theorem longForm_tagged (tag : String) (v : Value) :
    longForm (.tagged tag v) = .object [(tagKey tag,
      callArgument (String.ofList (tag.toList.dropWhile (· == '!'))) (longForm v))] := by
  rw [longForm]
  rfl

theorem longForm_string (text : String) : longForm (.string text) = .string text := by
  rw [longForm]

theorem longForm_pair (resource field : String) :
    longForm (.sequence [.string resource, .string field]) =
      .array [.string resource, .string field] := by
  rw [longForm, longFormItems, longFormItems, longFormItems, longForm_string, longForm_string]

theorem longForm_getAtt (v : Value) :
    longForm (.tagged "GetAtt" v) =
      .object [("Fn::GetAtt", callArgument "GetAtt" (longForm v))] := by
  have hname : String.ofList ("GetAtt".toList.dropWhile (· == '!')) = "GetAtt" := by decide
  rw [longForm_tagged, tagKey, hname, callKey_getAtt]

mutual

/-- The documents of values in which calls change their form are alike. -/
theorem alike_longForm {v w : Value} (h : Rewritten v w) : Alike (longForm v) (longForm w) := by
  cases v with
  | sequence items =>
      cases h with
      | sequence hitems =>
          rw [longForm, longForm]
          exact .array (forall_alike_longForm hitems)
  | mapping entries =>
      cases h with
      | mapping hentries =>
          rw [longForm, longForm]
          exact .object (matching_alike_longForm hentries).mergeEntries
      | shortened tag h =>
          rw [longForm_single, longForm_tagged]
          exact alike_shortened _ (alike_longForm h)
  | tagged tag v =>
      cases h with
      | tagged _ h =>
          rw [longForm_tagged, longForm_tagged]
          exact .object (.cons rfl (alike_callArgument _ (alike_longForm h)) .nil)
      | lengthened _ h =>
          rw [longForm_single, longForm_tagged]
          exact alike_lengthened _ (alike_longForm h)
  | null =>
      cases h
      exact .null
  | bool b =>
      cases h
      rw [longForm]
      exact .bool b
  | int n =>
      cases h
      rw [longForm]
      exact .number _
  | float x =>
      cases h
      rw [longForm]
      split_ifs
      · exact .number _
      · exact .null
  | string s =>
      cases h
      rw [longForm]
      exact .string s

theorem forall_alike_longForm {items items' : List Value}
    (h : List.Forall₂ Rewritten items items') :
    List.Forall₂ Alike (longFormItems items) (longFormItems items') := by
  cases items with
  | nil =>
      cases h
      exact .nil
  | cons v items =>
      cases h with
      | cons hv hrest =>
          rw [longFormItems, longFormItems]
          exact .cons (alike_longForm hv) (forall_alike_longForm hrest)

theorem matching_alike_longForm {entries entries' : List (Value × Value)}
    (h : Matching keyText (fun _ => Rewritten) entries entries') :
    Matching id (fun _ => Alike) (longFormEntries entries) (longFormEntries entries') := by
  cases entries with
  | nil =>
      cases h
      exact .nil
  | cons entry entries =>
      cases h with
      | cons hkey hv hrest =>
          rw [longFormEntries, longFormEntries]
          exact .cons hkey (alike_longForm hv) (matching_alike_longForm hrest)

end

/-- The same document, or objects with related values. -/
inductive Fieldwise (R : String → Json → Json → Prop) : Json → Json → Prop where
  | same (a : Json) : Fieldwise R a a
  | object {entries entries' : List (String × Json)} (h : Matching id R entries entries') :
      Fieldwise R (.object entries) (.object entries')

theorem matching_longForm {R : String → Value → Value → Prop} {S : String → Json → Json → Prop}
    (hRS : ∀ key v w, R key v w → S key (longForm v) (longForm w))
    {entries entries' : List (Value × Value)} (h : Matching keyText R entries entries') :
    Matching id S (longFormEntries entries) (longFormEntries entries') := by
  induction h with
  | nil => exact .nil
  | cons hkey hv _ ih =>
      rw [longFormEntries, longFormEntries]
      exact .cons hkey (hRS _ _ _ hv) ih

theorem fieldwise_longForm {R : String → Value → Value → Prop} {S : String → Json → Json → Prop}
    (hRS : ∀ key v w, R key v w → S key (longForm v) (longForm w)) {v w : Value}
    (h : Entrywise R v w) : Fieldwise S (longForm v) (longForm w) := by
  cases h with
  | same v => exact .same _
  | mapping hentries =>
      rw [longForm, longForm]
      exact .object (matching_longForm hRS hentries).mergeEntries

theorem InField.longForm {name key : String} {v w : Value} (h : InField name Rewritten key v w) :
    InField name Alike key (Template.longForm v) (Template.longForm w) := by
  unfold InField at h ⊢
  split_ifs at h ⊢
  · exact alike_longForm h
  · rw [h]

/-- Documents of templates that differ only in the form of calls in the properties of resources and
the values of outputs. -/
def TemplateAlike : Json → Json → Prop :=
  Fieldwise (InSections (Fieldwise fun _ => Fieldwise (InField "Properties" Alike))
    (Fieldwise fun _ => Fieldwise (InField "Value" Alike)))

theorem templateAlike_longForm {v w : Value} (h : TemplateRewritten v w) :
    TemplateAlike (longForm v) (longForm w) := by
  have hfields {name : String} {v w : Value} (h : Entrywise (InField name Rewritten) v w) :
      Fieldwise (InField name Alike) (longForm v) (longForm w) :=
    fieldwise_longForm (fun _ _ _ hfield => hfield.longForm) h
  refine fieldwise_longForm (fun key v w h => ?_) h
  unfold InSections at h ⊢
  split_ifs at h ⊢
  · exact fieldwise_longForm (fun _ _ _ => hfields) h
  · exact fieldwise_longForm (fun _ _ _ => hfields) h
  · rw [h]

/-! ### Fields -/

section Fields

variable {R : String → Json → Json → Prop} {a b : Json}

theorem Fieldwise.get?_cases (h : Fieldwise R a b) (key : String) :
    a.get? key = b.get? key ∨ ∃ v w, a.get? key = some v ∧ b.get? key = some w ∧ R key v w := by
  cases h with
  | same _ => exact .inl rfl
  | object hentries =>
      rcases hentries.lookup?_cases key with ⟨ha, hb⟩ | ⟨v, w, ha, hb, hvw⟩
      · exact .inl (ha.trans hb.symm)
      · exact .inr ⟨v, w, ha, hb, hvw⟩

theorem Fieldwise.get?_eq (h : Fieldwise R a b) {key : String} (hkey : ∀ v w, R key v w → v = w) :
    a.get? key = b.get? key := by
  rcases h.get?_cases key with heq | ⟨v, w, ha, hb, hvw⟩
  · exact heq
  · rw [ha, hb, hkey v w hvw]

theorem Fieldwise.matching {name : String} {S : String → Json → Json → Prop}
    (h : Fieldwise R a b) (hname : ∀ v w, R name v w → Fieldwise S v w)
    (hS : ∀ key v, S key v v) :
    Together (Matching id S) (sectionEntries a name) (sectionEntries b name) := by
  have hsame : a.get? name = b.get? name →
      Together (Matching id S) (sectionEntries a name) (sectionEntries b name) := by
    intro heq
    unfold sectionEntries
    rw [heq]
    exact .refl (Matching.refl hS) _
  rcases h.get?_cases name with heq | ⟨v, w, ha, hb, hvw⟩
  · exact hsame heq
  · cases hname v w hvw with
    | same v => exact hsame (ha.trans hb.symm)
    | object hentries =>
        unfold sectionEntries
        rw [ha, hb]
        exact .ok hentries

end Fields

theorem inField_eq {α : Type} {name key : String} {R : α → α → Prop} (hne : key ≠ name) (v w : α)
    (h : InField name R key v w) : v = w := by
  rwa [InField, if_neg hne] at h

theorem inSections_eq {α : Type} {resources outputs : α → α → Prop} {key : String}
    (hresources : key ≠ "Resources") (houtputs : key ≠ "Outputs") (v w : α)
    (h : InSections resources outputs key v w) : v = w := by
  rwa [InSections, if_neg hresources, if_neg houtputs] at h

/-! ### Templates -/

def resourceSlots (r : TemplateResource) : List Expr := slots r.properties

def outputSlots (o : TemplateOutput) : List Expr := slots o.value

/-- What the substitutions in a template read for a call that stands in place of their variables. -/
def templateSlots (t : Template) : List Expr :=
  t.resources.flatMap resourceSlots ++ t.outputs.flatMap outputSlots

/-- The properties that a declaration gives. -/
def propertiesOf (declaration : Json) : Except TemplateError Expr :=
  match declaration.get? "Properties" with
  | some (.object entries) => Expr.ofJson (.object entries)
  | _ => .ok (.object [])

theorem resourceOf_eq (id : String) (d : Json) :
    resourceOf id d =
      match textField d "Type" with
      | none => .error (.missingType id)
      | some type => do
        return ⟨id, type, ← propertiesOf d, dependsOnOf d, textField d "Condition"⟩ := by
  rw [resourceOf, propertiesOf]
  cases textField d "Type" with
  | none => rfl
  | some type =>
      generalize d.get? "Properties" = properties
      rcases properties with _ | _ | _ | _ | _ | _ | _ <;> rfl

theorem together_propertiesOf {d d' : Json} (h : Fieldwise (InField "Properties" Alike) d d') :
    Together (SameBut slots) (propertiesOf d) (propertiesOf d') := by
  unfold propertiesOf
  rcases h.get?_cases "Properties" with heq | ⟨v, w, ha, hb, hvw⟩
  · rw [heq]
    exact .refl (SameBut.refl _) _
  · have halike : Alike v w := by rwa [InField, if_pos rfl] at hvw
    rw [ha, hb]
    rcases halike.objects with ⟨entries, entries', rfl, rfl⟩ | ⟨hv, hw⟩
    · exact (readAlike_of_alike halike).value
    · split
      · next heq => exact absurd (Option.some.inj heq) (hv _)
      · split
        · next heq => exact absurd (Option.some.inj heq) (hw _)
        · exact .ok (.refl _ _)

theorem together_resourceOf (id : String) {d d' : Json}
    (h : Fieldwise (InField "Properties" Alike) d d') :
    Together (SameBut resourceSlots) (resourceOf id d) (resourceOf id d') := by
  have htype : textField d "Type" = textField d' "Type" := by
    rw [textField, textField, h.get?_eq (inField_eq (by decide))]
  have hdepends : dependsOnOf d = dependsOnOf d' := by
    rw [dependsOnOf, dependsOnOf, h.get?_eq (inField_eq (by decide))]
  have hcondition : textField d "Condition" = textField d' "Condition" := by
    rw [textField, textField, h.get?_eq (inField_eq (by decide))]
  rw [resourceOf_eq, resourceOf_eq, htype, hdepends, hcondition]
  cases textField d' "Type" with
  | none => exact .error _
  | some type =>
      refine (together_propertiesOf h).bind fun p p' hp => .pure ?_
      exact hp.within
        (fun p => (⟨id, type, p, dependsOnOf d', textField d' "Condition"⟩ : TemplateResource))
        fun _ => rfl

theorem together_outputOf (name : String) {d d' : Json}
    (h : Fieldwise (InField "Value" Alike) d d') :
    Together (SameBut outputSlots) (outputOf name d) (outputOf name d') := by
  have hdescription : textField d "Description" = textField d' "Description" := by
    rw [textField, textField, h.get?_eq (inField_eq (by decide))]
  have hvalue : Together (SameBut slots) (Expr.ofJson ((d.get? "Value").getD .null))
      (Expr.ofJson ((d'.get? "Value").getD .null)) := by
    rcases h.get?_cases "Value" with heq | ⟨v, w, ha, hb, hvw⟩
    · rw [heq]
      exact .refl (SameBut.refl _) _
    · have halike : Alike v w := by rwa [InField, if_pos rfl] at hvw
      rw [ha, hb]
      exact (readAlike_of_alike halike).value
  rw [outputOf, outputOf, hdescription]
  refine hvalue.bind fun e e' he => .pure ?_
  exact he.within (fun e => (⟨name, e, textField d' "Description"⟩ : TemplateOutput))
    fun _ => rfl

theorem together_template {a b : Json} (h : TemplateAlike a b) :
    Together (SameBut templateSlots) (Template.ofJson a) (Template.ofJson b) := by
  have hsection (name : String) (hr : name ≠ "Resources") (ho : name ≠ "Outputs") :
      sectionEntries a name = sectionEntries b name := by
    unfold sectionEntries
    rw [h.get?_eq (inSections_eq hr ho)]
  have hresources : Together (Matching id fun _ => Fieldwise (InField "Properties" Alike))
      (sectionEntries a "Resources") (sectionEntries b "Resources") := by
    refine Fieldwise.matching h (fun v w hvw => ?_) fun _ => .same
    rwa [InSections, if_pos rfl] at hvw
  have houtputs : Together (Matching id fun _ => Fieldwise (InField "Value" Alike))
      (sectionEntries a "Outputs") (sectionEntries b "Outputs") := by
    refine Fieldwise.matching h (fun v w hvw => ?_) fun _ => .same
    rwa [InSections, if_neg (by decide), if_pos rfl] at hvw
  have hdescription : textField a "Description" = textField b "Description" := by
    rw [textField, textField, h.get?_eq (inSections_eq (by decide) (by decide))]
  cases h with
  | same _ => exact .refl (SameBut.refl _) _
  | @object entries entries' hentries =>
      rw [Template.ofJson, Template.ofJson, hdescription,
        hsection "Parameters" (by decide) (by decide), hsection "Mappings" (by decide) (by decide),
        hsection "Conditions" (by decide) (by decide)]
      have hsame {α : Type} (x : Except TemplateError α) : Together (fun v w => v = w) x x :=
        .refl (fun _ => rfl) x
      refine (hsame _).bind ?_
      rintro parameters _ rfl
      refine (hsame _).bind ?_
      rintro mappings _ rfl
      refine (hsame _).bind ?_
      rintro conditions _ rfl
      refine hresources.bind fun _ _ hrs => ?_
      refine (hrs.mapM fun id _ _ => together_resourceOf id).bind fun _ _ hresources => ?_
      refine houtputs.bind fun _ _ hos => ?_
      refine (hos.mapM fun name _ _ => together_outputOf name).bind fun _ _ houtputs => .pure ?_
      exact SameBut.pair (k := templateSlots) (fun resources outputs =>
          ⟨textField (.object entries') "Description",
            parameters.map fun p => parameterOf p.1 p.2, mappings, conditions.map (·.1),
            resources, outputs⟩)
        (fun _ _ => rfl) (SameBut.flatMap hresources) (SameBut.flatMap houtputs)

/-- Templates whose calls have another form are both refused for the same reason, or both are read.
Then they are the same exactly when the substitutions read the same for the calls that stand in
place of their variables, so always where there are none. Every form of a call of an attribute, with
a dotted text or a list, is read as the same call. -/
theorem forms_agree_iff (v w : Value) (h : TemplateRewritten v w) :
    ((∃ e, Template.ofJson (longForm v) = .error e ∧ Template.ofJson (longForm w) = .error e) ∨
        ∃ t u, Template.ofJson (longForm v) = .ok t ∧ Template.ofJson (longForm w) = .ok u ∧
          (t = u ↔ templateSlots t = templateSlots u) ∧ (templateSlots t = [] → t = u)) ∧
      ∀ text resource field, Text.splitOnce? '.' text = some (resource, field) →
        ∀ call ∈ [.tagged "GetAtt" (.string text),
            .tagged "GetAtt" (.sequence [.string resource, .string field]),
            .mapping [(.string "Fn::GetAtt", .string text)],
            .mapping [(.string "Fn::GetAtt", .sequence [.string resource, .string field])]],
          Expr.ofJson (longForm call) = .ok (.intrinsic (.getAtt resource (.string field))) := by
  constructor
  · have htogether := together_template (templateAlike_longForm h)
    revert htogether
    generalize Template.ofJson (longForm v) = x
    generalize Template.ofJson (longForm w) = y
    rintro (⟨hsame⟩ | ⟨e⟩)
    · refine .inr ⟨_, _, rfl, rfl, ⟨fun heq => heq ▸ rfl, hsame.eq⟩, fun hnil => hsame.eq ?_⟩
      have hlength := hsame.length
      rw [hnil, List.length_nil] at hlength
      rw [hnil, List.eq_nil_of_length_eq_zero hlength.symm]
    · exact .inl ⟨e, rfl, rfl⟩
  · intro text resource field hsplit call hcall
    obtain ⟨htext, hlist⟩ := ofJson_getAtt_forms hsplit
    simp only [List.mem_cons, List.not_mem_nil, or_false] at hcall
    rcases hcall with rfl | rfl | rfl | rfl
    · rw [longForm_getAtt, longForm_string, callArgument, if_pos (by decide), hsplit]
      exact hlist
    · rw [longForm_getAtt, longForm_pair]
      exact hlist
    · rw [longForm_single, longForm_string]
      exact htext
    · rw [longForm_single, longForm_pair]
      exact hlist

/-- A template with a value as property of its resource and another one as its output. -/
def templateOf (property output : Value) : Value :=
  .mapping [
    (.string "Resources", .mapping [(.string "Queue", .mapping [
      (.string "Type", .string "AWS::SQS::Queue"),
      (.string "Properties", .mapping [(.string "Name", property)])])]),
    (.string "Outputs", .mapping [(.string "Url", .mapping [(.string "Value", output)])])]

theorem templateRewritten_templateOf {v v' w w' : Value} (hv : Rewritten v v')
    (hw : Rewritten w w') : TemplateRewritten (templateOf v w) (templateOf v' w') := by
  have hproperties : Rewritten (.mapping [(.string "Name", v)]) (.mapping [(.string "Name", v')]) :=
    .mapping (.cons rfl hv .nil)
  have hresource : Entrywise (InField "Properties" Rewritten)
      (.mapping [(.string "Type", .string "AWS::SQS::Queue"),
        (.string "Properties", .mapping [(.string "Name", v)])])
      (.mapping [(.string "Type", .string "AWS::SQS::Queue"),
        (.string "Properties", .mapping [(.string "Name", v')])]) := by
    refine .mapping (.cons rfl ?_ (.cons rfl ?_ .nil))
    · rw [InField, if_neg (by decide)]
    · rw [InField, if_pos (by decide)]
      exact hproperties
  have houtput : Entrywise (InField "Value" Rewritten) (.mapping [(.string "Value", w)])
      (.mapping [(.string "Value", w')]) := by
    refine .mapping (.cons rfl ?_ .nil)
    rw [InField, if_pos (by decide)]
    exact hw
  refine .mapping (.cons rfl ?_ (.cons rfl ?_ .nil))
  · rw [InSections, if_pos (by decide)]
    exact .mapping (.cons rfl hresource .nil)
  · rw [InSections, if_neg (by decide), if_pos (by decide)]
    exact .mapping (.cons rfl houtput .nil)

/-- The values of the outputs of a template. -/
def outputValues (v : Value) : Except TemplateError (List Expr) :=
  (Template.ofJson (longForm v)).map fun t => t.outputs.map (·.value)

/-- A list of two calls, joined, where the outer call and one of the inner ones have a tag. -/
def joinedShort : Value :=
  .tagged "Join" (.sequence [.string "-", .sequence [.tagged "GetAtt" (.string "A.B.C"),
    .mapping [(.string "Ref", .string "A")]]])

/-- The same, where the other one of the inner calls has a tag. -/
def joinedLong : Value :=
  .mapping [(.string "Fn::Join", .sequence [.string "-", .sequence
    [.mapping [(.string "Fn::GetAtt", .string "A.B.C")], .tagged "Ref" (.string "A")]])]

theorem rewritten_joined : Rewritten joinedShort joinedLong := by
  have hattribute : Rewritten (.tagged "GetAtt" (.string "A.B.C"))
      (.mapping [(.string "Fn::GetAtt", .string "A.B.C")]) :=
    .lengthened "GetAtt" (.string "A.B.C")
  have hreference : Rewritten (.mapping [(.string "Ref", .string "A")])
      (.tagged "Ref" (.string "A")) :=
    .shortened "Ref" (.string "A")
  exact .lengthened "Join" (.sequence (.cons (.string "-")
    (.cons (.sequence (.cons hattribute (.cons hreference .nil))) .nil)))

/-- A template with a joined list, whose calls change their form, is read as the same template. -/
theorem forms_agree_iff_joined :
    TemplateRewritten (templateOf joinedShort .null) (templateOf joinedLong .null) ∧
      (∃ t, Template.ofJson (longForm (templateOf joinedShort .null)) = .ok t ∧
        Template.ofJson (longForm (templateOf joinedLong .null)) = .ok t) ∧
      Text.splitOnce? '.' "A.B.C" = some ("A", "B.C") ∧
        Expr.ofJson (longForm (.tagged "GetAtt" (.string "A.B.C"))) =
          .ok (.intrinsic (.getAtt "A" (.string "B.C"))) := by
  have hrewritten := templateRewritten_templateOf rewritten_joined .null
  have hsplit : Text.splitOnce? '.' "A.B.C" = some ("A", "B.C") := by decide
  refine ⟨hrewritten, ?_, hsplit, ?_⟩
  · have hread : ∃ t, Template.ofJson (longForm (templateOf joinedShort .null)) = .ok t ∧
        templateSlots t = [] := ⟨⟨none, [], [], [], [⟨"Queue", "AWS::SQS::Queue",
          .object [("Name", .intrinsic (.join "-" (.list [.intrinsic (.getAtt "A" (.string "B.C")),
            .intrinsic (.ref "A")])))], [], none⟩], [⟨"Url", .null, none⟩]⟩, by cbv, by cbv⟩
    obtain ⟨t, ht, hslots⟩ := hread
    rcases (forms_agree_iff _ _ hrewritten).1 with ⟨e, he, -⟩ | ⟨t', u, ht', hu, -, hsame⟩
    · rw [ht] at he
      cases he
    · obtain rfl : t = t' := Except.ok.inj (ht.symm.trans ht')
      exact ⟨t, ht, hsame hslots ▸ hu⟩
  · exact (forms_agree_iff _ _ hrewritten).2 _ _ _ hsplit _ (by simp)

/-- A call of an attribute in place of the variables of a substitution is taken for a variable,
whose value is a list when the call has a tag and a text when it has a key. A call inside a key is
not read at all: the key is the text of the form that it has. -/
theorem forms_disagree :
    (¬ ∀ v w, TemplateRewritten v w →
        Template.ofJson (longForm v) = Template.ofJson (longForm w)) ∧
      Template.ofJson (longForm (templateOf .null
          (.mapping [(.tagged "Ref" (.string "A"), .null)]))) ≠
        Template.ofJson (longForm (templateOf .null
          (.mapping [(.mapping [(.string "Ref", .string "A")], .null)]))) := by
  constructor
  · intro hall
    have hattribute : Rewritten (.tagged "GetAtt" (.string "A.B"))
        (.mapping [(.string "Fn::GetAtt", .string "A.B")]) :=
      .lengthened "GetAtt" (.string "A.B")
    have hvalue : Rewritten
        (.tagged "Sub" (.sequence [.string "x", .tagged "GetAtt" (.string "A.B")]))
        (.tagged "Sub" (.sequence [.string "x",
          .mapping [(.string "Fn::GetAtt", .string "A.B")]])) :=
      .tagged "Sub" (.sequence (.cons (.string "x") (.cons hattribute .nil)))
    have hsame := hall _ _ (templateRewritten_templateOf .null hvalue)
    have hshort : outputValues (templateOf .null
        (.tagged "Sub" (.sequence [.string "x", .tagged "GetAtt" (.string "A.B")]))) =
        .ok [.intrinsic (.sub "x" [("Fn::GetAtt", .list [.string "A", .string "B"])])] := by cbv
    have hlong : outputValues (templateOf .null (.tagged "Sub"
        (.sequence [.string "x", .mapping [(.string "Fn::GetAtt", .string "A.B")]]))) =
        .ok [.intrinsic (.sub "x" [("Fn::GetAtt", .string "A.B")])] := by cbv
    rw [outputValues, hsame, ← outputValues, hlong] at hshort
    simp at hshort
  · intro hsame
    have hshort : outputValues (templateOf .null
        (.mapping [(.tagged "Ref" (.string "A"), .null)])) =
        .ok [.object [("!Ref A", .null)]] := by cbv
    have hlong : outputValues (templateOf .null
        (.mapping [(.mapping [(.string "Ref", .string "A")], .null)])) =
        .ok [.object [("Ref: A", .null)]] := by cbv
    rw [outputValues, hsame, ← outputValues, hlong] at hshort
    simp at hshort

end StackExport.Proofs.ShortForms
