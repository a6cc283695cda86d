import Mathlib
import StackExport.Proofs.ReferenceMeaning
import StackExport.Proofs.RenderingResult
import StackExport.Template.Reader
/-!
Where the attribute of a resource is read and where a reference to it leads.

Evaluation reads an attribute of the live resource, and rendering gives the address of the resource
and a path. Both translate the attribute's name, each in its own way where the name is that of an
output of a nested stack.
-/
namespace StackExport.Proofs.AttributeAgreement

open StackExport
open StackExport.RenderContext
open StackExport.Proofs.ReferenceMeaning
open StackExport.Proofs.RenderingIndependence
open StackExport.Proofs.RenderingResult

/-! ### Ways to name an attribute -/

/-- The forms in which a template names an attribute of a resource. -/
inductive Form where
  /-- A call with two arguments. -/
  | long
  /-- A call with the resource and the attribute in one text. -/
  | dotted
  /-- A tag in front of such a text. -/
  | tagged
  /-- A call with two arguments, of which the second one refers to a parameter. -/
  | computed (parameter : String)
  /-- A placeholder of a text. -/
  | placeholder

/-- The document of a call in some form. -/
def Form.document? (form : Form) (id field : String) : Option Json :=
  match form with
  | .long => some (.object [("Fn::GetAtt", .array [.string id, .string field])])
  | .dotted => some (.object [("Fn::GetAtt", .string (id ++ "." ++ field))])
  | .tagged => some (Template.longForm (.tagged "!GetAtt" (.string (id ++ "." ++ field))))
  | .computed parameter => some
      (.object [("Fn::GetAtt", .array [.string id, .object [("Ref", .string parameter)]])])
  | .placeholder => none

def Form.expr? (form : Form) (id field : String) : Option Expr :=
  (form.document? id field).bind fun document => (Expr.ofJson document).toOption

/-- What an attribute evaluates to. -/
def Form.value (form : Form) (s : Stack) (id field : String) : Option Json :=
  match form with
  | .placeholder => s.evaluatePlaceholder (id ++ "." ++ field)
  | form => (form.expr? id field).bind s.evaluate

def renderedExpr (c : RenderContext) : Expr → Option Reference
  | .intrinsic call => (rendering c call).toOption
  | _ => none

/-- What an attribute renders as. -/
def Form.rendered (form : Form) (c : RenderContext) (id field : String) : Option Reference :=
  match form with
  | .placeholder => ((c.renderPlaceholder (id ++ "." ++ field)).run []).1.toOption
  | form => (form.expr? id field).bind (renderedExpr c)

/-- True when a form names the attribute of the resource: one text is cut at its first dot, and a
parameter must have the name as its value. -/
def Form.Names (form : Form) (t : Template) (id field : String) : Prop :=
  match form with
  | .long => True
  | .dotted | .tagged => '.' ∉ id.toList
  | .computed parameter => parameter.startsWith "AWS::" = false ∧
      ∃ p, t.parameter? parameter = some p ∧ p.value = some field ∧ p.isList = false
  | .placeholder => '.' ∉ id.toList ∧ (id ++ "." ++ field).startsWith "AWS::" = false

section

variable {form : Form} {c : RenderContext} {s : Stack} {id field : String}

/-- A call for an attribute is read from its arguments. -/
theorem ofJson_getAtt {argument : Json} {call : Intrinsic}
    (h : Expr.callOf "Fn::GetAtt" argument = .ok call) :
    Expr.ofJson (.object [("Fn::GetAtt", argument)]) = .ok (.intrinsic call) := by
  have hkey : Expr.isCallKey "Fn::GetAtt" = true := by simp [Expr.isCallKey]
  rw [Expr.ofJson, if_pos hkey, h]
  rfl

theorem callOf_pair {id : String} {name : Json} {e : Expr} (h : Expr.ofJson name = .ok e) :
    Expr.callOf "Fn::GetAtt" (.array [.string id, name]) = .ok (.getAtt id e) := by
  simp only [Expr.callOf, Expr.textArgument, h]
  rfl

theorem ofJson_ref (parameter : String) :
    Expr.ofJson (.object [("Ref", .string parameter)]) = .ok (.intrinsic (.ref parameter)) := by
  have hkey : Expr.isCallKey "Ref" = true := by simp [Expr.isCallKey]
  simp only [Expr.ofJson, hkey, Expr.callOf, Expr.textArgument]
  rfl

theorem longForm_getAtt (h : '.' ∉ id.toList) :
    Template.longForm (.tagged "!GetAtt" (.string (id ++ "." ++ field))) =
      .object [("Fn::GetAtt", .array [.string id, .string field])] := by
  have hname : String.ofList ("!GetAtt".toList.dropWhile (· == '!')) = "GetAtt" := by decide
  rw [Template.longForm, hname, Template.longForm]
  simp [Template.callKey, Template.callArgument, splitOnce?_append h]

/-- What the forms of a call are read as. -/
theorem expr?_eq {t : Template} (h : form.Names t id field) (hcall : form ≠ .placeholder) :
    ∃ e, form.expr? id field = some (.intrinsic (.getAtt id e)) ∧
      (e = .string field ∨ ∃ parameter, form = .computed parameter ∧
        e = .intrinsic (.ref parameter)) := by
  have hpair : Expr.callOf "Fn::GetAtt" (.array [.string id, .string field]) =
      .ok (.getAtt id (.string field)) := callOf_pair (by rw [Expr.ofJson])
  cases form with
  | long =>
      refine ⟨.string field, ?_, Or.inl rfl⟩
      rw [Form.expr?, Form.document?, Option.bind_some, ofJson_getAtt hpair]
      rfl
  | dotted =>
      have htext : Expr.callOf "Fn::GetAtt" (.string (id ++ "." ++ field)) =
          .ok (.getAtt id (.string field)) := by
        simp only [Expr.callOf, splitOnce?_append h]
      refine ⟨.string field, ?_, Or.inl rfl⟩
      rw [Form.expr?, Form.document?, Option.bind_some, ofJson_getAtt htext]
      rfl
  | tagged =>
      refine ⟨.string field, ?_, Or.inl rfl⟩
      rw [Form.expr?, Form.document?, longForm_getAtt h, Option.bind_some, ofJson_getAtt hpair]
      rfl
  | computed parameter =>
      refine ⟨.intrinsic (.ref parameter), ?_, Or.inr ⟨parameter, rfl, rfl⟩⟩
      rw [Form.expr?, Form.document?, Option.bind_some,
        ofJson_getAtt (callOf_pair (ofJson_ref parameter))]
      rfl
  | placeholder => exact absurd rfl hcall

theorem fieldName_of_names (h : form.Names c.template id field) {e : Expr}
    (he : e = .string field ∨ ∃ parameter, form = .computed parameter ∧
      e = .intrinsic (.ref parameter)) : c.fieldName e = .ok field := by
  rcases he with rfl | ⟨parameter, rfl, rfl⟩
  · rfl
  · obtain ⟨-, p, hp, hvalue, -⟩ := h
    have htext : c.template.parameterText? parameter = some field := by
      rw [Template.parameterText?, hp]
      exact hvalue
    simp only [fieldName, htext]

theorem evaluate_of_names (h : form.Names s.template id field) {e : Expr}
    (he : e = .string field ∨ ∃ parameter, form = .computed parameter ∧
      e = .intrinsic (.ref parameter)) : s.evaluate e = some (.string field) := by
  rcases he with rfl | ⟨parameter, rfl, rfl⟩
  · rw [Stack.evaluate]
  · obtain ⟨haws, p, hp, hvalue, hlist⟩ := h
    rw [Stack.evaluate, Stack.evaluateCall, Stack.evaluateRef, if_neg (by simp [haws]), hp]
    simp [Stack.parameterValue, hvalue, hlist]

/-- Every form evaluates to the attribute. -/
theorem value_eq (h : form.Names s.template id field) :
    form.value s id field = s.evaluateGetAtt id field := by
  by_cases hcall : form = .placeholder
  · subst hcall
    obtain ⟨hdot, haws⟩ := h
    rw [Form.value, Stack.evaluatePlaceholder, splitOnce?_append hdot]
    simp [haws]
  · obtain ⟨e, hexpr, he⟩ := expr?_eq h hcall
    have hvalue : form.value s id field = (form.expr? id field).bind s.evaluate := by
      cases form <;> first | rfl | exact absurd rfl hcall
    rw [hvalue, hexpr, Option.bind_some, Stack.evaluate, Stack.evaluateCall,
      evaluate_of_names h he]
    rfl

/-- Every form renders as the reference to the attribute. -/
theorem rendered_eq (h : form.Names c.template id field) :
    form.rendered c id field = (c.renderField id field).toOption := by
  by_cases hcall : form = .placeholder
  · subst hcall
    obtain ⟨hdot, haws⟩ := h
    rw [Form.rendered, renderPlaceholder, splitOnce?_append hdot]
    simp only [haws, Bool.false_eq_true, if_false]
    rcases c.renderField id field with e | r <;> rfl
  · obtain ⟨e, hexpr, he⟩ := expr?_eq h hcall
    have hrendered : form.rendered c id field =
        (form.expr? id field).bind (renderedExpr c) := by
      cases form <;> first | rfl | exact absurd rfl hcall
    rw [hrendered, hexpr, Option.bind_some, renderedExpr, rendering, render,
      fieldName_of_names h he, lift_ok_bind]
    rcases c.renderField id field with e | r <;> rfl

/-! ### The path of a reference -/

/-- The path that a reference to an attribute ends with. -/
def pathOf (traits : ResourceTraits) (field : String) : String :=
  match Text.dropStart? outputQualifier field with
  | some output => "outputs." ++ output
  | none => traits.mapAttributeName field

theorem path_eq {m : ResourceMapping} {path : String} (hm : c.mappingOf id = .ok m)
    (h : c.renderField id field = .ok (.indirect (m.address ++ "." ++ path))) :
    path = pathOf (c.table.get m.type) field := by
  unfold renderField at h
  rcases hmodule : c.moduleOutput? id field with _ | r
  · rw [hmodule, hm] at h
    have h : Reference.indirect (m.address ++ "." ++ pathOf (c.table.get m.type) field) =
        .indirect (m.address ++ "." ++ path) := Except.ok.inj h
    have hlists := congrArg String.toList (Reference.indirect.inj h)
    simp only [String.toList_append] at hlists
    exact (String.toList_inj.mp (List.append_cancel_left hlists)).symm
  · rw [hmodule] at h
    obtain rfl := Except.ok.inj h
    unfold moduleOutput? at hmodule
    obtain ⟨output, -, hmodule⟩ := Option.bind_eq_some_iff.mp hmodule
    obtain ⟨module, -, hmodule⟩ := Option.bind_eq_some_iff.mp hmodule
    cases hmodule

theorem segments_outputs (output : String) :
    (Path.parse ("outputs." ++ output)).segments = "outputs" :: (Path.parse output).segments := by
  simp [Path.parse, Path.scan, Path.putSegment]

end

/-! ### Trees -/

open AttributeTree

theorem getPath?_cons (tree : AttributeTree) (segment : String) (rest : List String) :
    tree.getPath? ⟨segment :: rest⟩ = (tree.step? segment).bind (·.getPath? ⟨rest⟩) := rfl

/-- A tree with one value, at the end of a path. -/
def branch : List String → AttributeTree
  | [] => .bool true
  | segment :: rest => .object [(segment, branch rest)]

theorem getPath?_branch (path : List String) : (branch path).getPath? ⟨path⟩ = some (.bool true) := by
  induction path with
  | nil => rfl
  | cons segment rest ih =>
      have hstep : (branch (segment :: rest)).step? segment = some (branch rest) := by
        simp [branch, step?, lookup?]
      rw [getPath?_cons, hstep, Option.bind_some, ih]

/-- The value of a branch is found at the end of its path only. -/
theorem eq_of_getPath?_branch {path other : List String} {v : AttributeTree}
    (h : (branch path).getPath? ⟨other⟩ = some v) (hv : v.toJson = .bool true) : other = path := by
  induction path generalizing other with
  | nil =>
      cases other with
      | nil => rfl
      | cons segment rest => cases h
  | cons segment rest ih =>
      cases other with
      | nil =>
          cases h
          cases hv
      | cons segment' rest' =>
          rw [getPath?_cons] at h
          obtain ⟨child, hchild, h⟩ := Option.bind_eq_some_iff.mp h
          by_cases hsame : segment = segment'
          · subst hsame
            have hstep : (branch (segment :: rest)).step? segment = some (branch rest) := by
              simp [branch, step?, lookup?]
            rw [hstep] at hchild
            cases hchild
            rw [ih h]
          · simp [branch, step?, lookup?, hsame] at hchild

/-- Nothing is inside a node whose value is a text. -/
theorem step?_of_toJson_string {v : AttributeTree} {text : String} (h : v.toJson = .string text)
    (segment : String) : v.step? segment = none := by
  cases v with
  | list items => rw [toJson] at h; cases h
  | object entries => rw [toJson] at h; cases h
  | document inner =>
      rw [toJson] at h
      cases inner with
      | list items => rw [toJson] at h; cases h
      | object entries => rw [toJson] at h; cases h
      | _ => rfl
  | _ => rfl

/-- The identifier that a tree has is the physical name of its resource. -/
def HasId (tree : AttributeTree) (physicalId : String) : Prop :=
  (tree.getPath? (Path.parse "id")).map toJson = some (.string physicalId)

theorem parse_id : Path.parse "id" = ⟨["id"]⟩ := by decide

/-- A tree with an identifier and perhaps a branch beside it. -/
def probe (path : List String) : AttributeTree :=
  match path with
  | [] => .object [("id", .string "p")]
  | segment :: rest =>
    if segment = "id" then .object [("id", .string "p")]
    else .object [("id", .string "p"), (segment, branch rest)]

theorem hasId_probe (path : List String) : HasId (probe path) "p" := by
  rw [HasId, parse_id]
  cases path with
  | nil => rfl
  | cons segment rest =>
      rw [probe]
      split_ifs <;> rfl

/-- Two paths are told apart by a tree with a branch along the first one. -/
theorem exists_apart (path more : List String) (hne : path ≠ "outputs" :: more)
    (hid : ¬∃ segment rest, path = "id" :: segment :: rest) :
    ∃ v, ((probe path).getPath? ⟨path⟩).map toJson = some v ∧
      ((probe path).getPath? ⟨"outputs" :: more⟩).map toJson ≠ some v := by
  have habsent : (AttributeTree.object [("id", .string "p")]).getPath? ⟨"outputs" :: more⟩ =
      none := by
    rw [getPath?_cons]
    simp [step?, lookup?]
  cases path with
  | nil =>
      refine ⟨_, rfl, ?_⟩
      rw [probe, habsent]
      simp
  | cons segment rest =>
      by_cases hsegment : segment = "id"
      · subst hsegment
        cases rest with
        | nil =>
            refine ⟨.string "p", rfl, ?_⟩
            rw [probe, if_pos rfl, habsent]
            simp
        | cons segment rest => exact absurd ⟨segment, rest, rfl⟩ hid
      · have hstep (name : String) (hname : name ≠ "id") :
            (probe (segment :: rest)).step? name =
              if segment = name then some (branch rest) else none := by
          rw [probe, if_neg hsegment]
          simp [step?, lookup?, Ne.symm hname]
        refine ⟨.bool true, ?_, fun hfound => ?_⟩
        · rw [getPath?_cons, hstep segment hsegment, if_pos rfl, Option.bind_some, getPath?_branch]
          rfl
        · obtain ⟨v, hv, hvalue⟩ := Option.map_eq_some_iff.mp hfound
          rw [getPath?_cons, hstep "outputs" (by decide)] at hv
          split_ifs at hv with hsame
          · rw [Option.bind_some] at hv
            have hrest := eq_of_getPath?_branch hv hvalue
            exact hne (by rw [hsame, hrest])
          · cases hv

/-! ### Agreement -/

section

variable {c : RenderContext} {s : Stack} {id field : String}

/-- An attribute evaluates to what stands at the path of its name. -/
theorem evaluateGetAtt_eq {r : LiveResource} {tree : AttributeTree}
    (hr : lookup? id s.resources = some r) (htree : r.attributes = some tree)
    (hid : HasId tree r.physicalId) :
    s.evaluateGetAtt id field =
      (tree.getPath? (Path.parse ((s.table.get r.type).mapAttributeName field))).map toJson := by
  rw [Stack.evaluateGetAtt, hr, Option.bind_some]
  dsimp only
  split_ifs with hname
  · rw [eq_of_beq hname, hid]
  · rw [htree, Option.bind_some]

/-- Two written paths lead to the same values: they are the same path, or the first one leads into
the identifier, where there is nothing. -/
def LeadsAlike (a b : String) : Prop :=
  Path.parse a = Path.parse b ∨
    ∃ segment rest, (Path.parse a).segments = "id" :: segment :: rest

theorem getPath?_within_id {tree : AttributeTree} {physicalId segment : String}
    {rest : List String} (hid : HasId tree physicalId) :
    tree.getPath? ⟨"id" :: segment :: rest⟩ = none := by
  rw [HasId, parse_id] at hid
  obtain ⟨v, hv, htext⟩ := Option.map_eq_some_iff.mp hid
  rw [getPath?_cons] at hv ⊢
  obtain ⟨child, hchild, hv⟩ := Option.bind_eq_some_iff.mp hv
  cases hv
  rw [hchild, Option.bind_some, getPath?_cons, step?_of_toJson_string htext]
  rfl

/-- A stack with one live resource. -/
def single (c : RenderContext) (id type : String) (tree : AttributeTree) : Stack :=
  ⟨c.template, ⟨"eu-west-1", "123456789012", "aws", "amazonaws.com", "jobs", none⟩, c.table,
    [(id, ⟨type, "p", some tree⟩)], []⟩

/-- Evaluation and rendering of an attribute agree in every stack with the resource: what the
attribute evaluates to is what stands at the path in the live attributes. -/
def Agrees (c : RenderContext) (form : Form) (id field type path : String) : Prop :=
  ∀ (s : Stack) (r : LiveResource) (tree : AttributeTree), s.template = c.template →
    s.table = c.table → lookup? id s.resources = some r → r.type = type →
    r.attributes = some tree → HasId tree r.physicalId →
    ∀ v, form.value s id field = some v →
      (tree.getPath? (Path.parse path)).map toJson = some v

theorem agrees_of_leadsAlike {form : Form} {type path : String}
    (hform : form.Names c.template id field)
    (h : LeadsAlike ((c.table.get type).mapAttributeName field) path) :
    Agrees c form id field type path := by
  intro s r tree htemplate htable hr htype htree hid v hv
  rw [value_eq (by rwa [htemplate]), evaluateGetAtt_eq hr htree hid, htable, htype] at hv
  rcases h with hsame | ⟨segment, rest, hwithin⟩
  · rwa [← hsame]
  · rw [show Path.parse ((c.table.get type).mapAttributeName field) =
      ⟨"id" :: segment :: rest⟩ from congrArg Path.mk hwithin, getPath?_within_id hid] at hv
    cases hv

theorem leadsAlike_of_agrees {form : Form} {type : String}
    (hform : form.Names c.template id field)
    (h : Agrees c form id field type (pathOf (c.table.get type) field)) :
    LeadsAlike ((c.table.get type).mapAttributeName field) (pathOf (c.table.get type) field) := by
  rcases houtput : Text.dropStart? outputQualifier field with _ | output
  · left
    rw [pathOf, houtput]
  · have hpath : pathOf (c.table.get type) field = "outputs." ++ output := by
      rw [pathOf, houtput]
    rw [hpath] at h ⊢
    by_contra hnot
    obtain ⟨hne, hid⟩ := not_or.mp hnot
    have hsegments : Path.parse ("outputs." ++ output) =
        ⟨"outputs" :: (Path.parse output).segments⟩ := congrArg Path.mk (segments_outputs output)
    obtain ⟨segments, hparse⟩ : ∃ segments,
        Path.parse ((c.table.get type).mapAttributeName field) = ⟨segments⟩ := ⟨_, rfl⟩
    rw [hparse] at hne hid
    rw [hsegments] at hne
    obtain ⟨v, hv, hapart⟩ := exists_apart segments (Path.parse output).segments
      (fun hsame => hne (congrArg Path.mk hsame)) hid
    have hlive : lookup? id (single c id type (probe segments)).resources =
        some ⟨type, "p", some (probe segments)⟩ := by simp [single, lookup?]
    have hvalue : form.value (single c id type (probe segments)) id field = some v := by
      rw [value_eq hform, evaluateGetAtt_eq hlive rfl (hasId_probe segments)]
      exact hparse ▸ hv
    have hagrees := h _ _ _ rfl rfl hlive rfl rfl (hasId_probe segments) v hvalue
    rw [hsegments] at hagrees
    exact hapart hagrees

/-- An attribute that renders as a path behind the address of its resource evaluates to what stands
at this path, in every stack with the resource, just when the translated name of the attribute leads
there as well. For attributes that are no outputs it always does. -/
theorem attribute_agrees_iff {form : Form} {m : ResourceMapping} {path : String}
    (hform : form.Names c.template id field) (hm : c.mappingOf id = .ok m)
    (hr : form.rendered c id field = some (.indirect (m.address ++ "." ++ path))) :
    (Agrees c form id field m.type path ↔
        LeadsAlike ((c.table.get m.type).mapAttributeName field) path) ∧
      (Text.dropStart? outputQualifier field = none → Agrees c form id field m.type path) := by
  have hpath : path = pathOf (c.table.get m.type) field := by
    rw [rendered_eq hform] at hr
    rcases hfield : c.renderField id field with e | r
    · rw [hfield] at hr
      cases hr
    · rw [hfield] at hr
      obtain rfl : r = _ := Option.some.inj hr
      exact path_eq hm hfield
  subst hpath
  refine ⟨⟨leadsAlike_of_agrees hform, agrees_of_leadsAlike hform⟩, fun hplain => ?_⟩
  refine agrees_of_leadsAlike hform (Or.inl ?_)
  rw [pathOf, hplain]

end

/-! ### Outputs of a nested stack -/

def nestedTemplate : Template :=
  { Template.empty with
    resources := [⟨"Net", "AWS::CloudFormation::Stack", .object [], [], none⟩] }

def nestedContext : RenderContext :=
  ⟨nestedTemplate,
    [⟨"Net", "AWS::CloudFormation::Stack", "aws_cloudformation_stack", "net-1", none⟩],
    ⟨.none "", []⟩, []⟩

def nestedMapping : ResourceMapping :=
  ⟨"Net", "AWS::CloudFormation::Stack", "aws_cloudformation_stack", "net-1", none⟩

theorem attribute_agrees_sample :
    Form.dotted.Names nestedContext.template "Net" "Arn" ∧
      nestedContext.mappingOf "Net" = .ok nestedMapping ∧
      Form.dotted.rendered nestedContext "Net" "Arn" =
        some (.indirect (nestedMapping.address ++ "." ++ "arn")) ∧
      Agrees nestedContext .dotted "Net" "Arn" "aws_cloudformation_stack" "arn" := by
  have hform : Form.dotted.Names nestedContext.template "Net" "Arn" := by
    simp [Form.Names]
  have hm : nestedContext.mappingOf "Net" = .ok nestedMapping := by rfl
  have hr : Form.dotted.rendered nestedContext "Net" "Arn" =
      some (.indirect (nestedMapping.address ++ "." ++ "arn")) := by
    have hname : (nestedContext.table.get "aws_cloudformation_stack").mapAttributeName "Arn" =
        "arn" := by cbv
    have hplain : Text.dropStart? outputQualifier "Arn" = none := by decide
    rw [rendered_eq hform, renderField, moduleOutput?, hplain, hm]
    exact congrArg
      (fun name => some (Reference.indirect (nestedMapping.address ++ "." ++ name))) hname
  exact ⟨hform, hm, hr, (attribute_agrees_iff hform hm hr).2 (by decide)⟩

def nestedTree : AttributeTree :=
  .object [("id", .string "p"),
    ("outputs", .object [("BucketName", .string "data"), ("bucket_name", .string "logs")])]

/-- An output of a nested stack evaluates to the one whose name is in snake case. -/
theorem output_misread :
    Form.dotted.rendered nestedContext "Net" "Outputs.BucketName" =
        some (.indirect (nestedMapping.address ++ "." ++ "outputs.BucketName")) ∧
      Form.dotted.value (single nestedContext "Net" "aws_cloudformation_stack" nestedTree) "Net"
        "Outputs.BucketName" = some (.string "logs") ∧
      HasId nestedTree "p" ∧
      (nestedTree.getPath? (Path.parse "outputs.BucketName")).map AttributeTree.toJson =
        some (.string "data") := by
  have hform : Form.dotted.Names nestedTemplate "Net" "Outputs.BucketName" := by
    simp [Form.Names]
  refine ⟨?_, ?_, ?_, ?_⟩
  · rw [rendered_eq hform]
    cbv
  · rw [value_eq hform]
    cbv
  · cbv
  · cbv

end StackExport.Proofs.AttributeAgreement
