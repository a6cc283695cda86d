import Mathlib
import StackExport.Proofs.DataSourceLookups
import StackExport.Proofs.LayoutReading
/-!
What the provisioning tool takes for the value of a template parameter, and what references to the
parameter are evaluated to.

A value is declared as a literal: in the file of variable values where the parameter was deployed
with one, else as the default of the variable. What is read back from it is the value of a
reference, as long as no item of a list is blank; lists are declared without their blank items.
-/
namespace StackExport.Proofs.ParameterValues

open StackExport
open StackExport.Proofs.LiteralReading
open StackExport.Proofs.LayoutReading
open StackExport.Proofs.RegisteredDeclarations
open StackExport.Proofs.DataSourceLookups

/-! ### Reading declared values -/

theorem itemsReadAs_commas {α : Type} {text : α → String} {literal : α → Literal}
    (h : ∀ a, ReadsAs (pieces (text a)) (literal a)) (items : List α) :
    ItemsReadAs (pieces (String.intercalate ", " (items.map text))) (items.map literal) := by
  induction items with
  | nil => exact itemsReadAs_nil
  | cons item items ih =>
      cases items with
      | nil => exact itemsReadAs_last (h item)
      | cons next items =>
          have hgap : IsSpaces " " := fun c hc => .inl (List.mem_singleton.mp hc)
          have hcons := itemsReadAs_cons isSpaces_empty hgap (h item) ih
          have heq : String.intercalate ", " ((item :: next :: items).map text) =
              text item ++ (", " ++ String.intercalate ", " ((next :: items).map text)) := by
            simp [String.intercalate_cons_cons, String.append_assoc]
          have hcomma : pieces ", " = .char ',' :: pieces " " := rfl
          have hnone : pieces "" = [] := rfl
          rw [hnone, List.nil_append] at hcons
          rw [heq, pieces_append, pieces_append, hcomma]
          exact hcons

theorem itemsReadAs_lines {α : Type} {text : α → String} {literal : α → Literal}
    (h : ∀ a, ReadsAs (pieces (text a)) (literal a)) {lead : String} (hlead : IsSpaces lead)
    (items : List α) :
    ItemsReadAs (pieces (String.join (items.map fun item => lead ++ text item ++ ",\n")))
      (items.map literal) := by
  induction items with
  | nil => exact itemsReadAs_nil
  | cons item items ih =>
      have hcons := itemsReadAs_cons hlead isSpaces_line (h item) ih
      have heq : String.join ((item :: items).map fun item => lead ++ text item ++ ",\n") =
          lead ++ (text item ++ (",\n" ++
            String.join (items.map fun item => lead ++ text item ++ ",\n"))) := by
        simp [String.append_assoc]
      rw [heq, pieces_append, pieces_append, pieces_append]
      exact hcons

/-- What an item of a value is written as. -/
def itemLiteral (numeric : Bool) (item : String) : Literal :=
  match Decimal.float? (Text.trim item) with
  | some x => if numeric then ofWord (Decimal.format x).toList else .text (Text.trim item)
  | none => .text (Text.trim item)

theorem itemLiteral_text (item : String) : itemLiteral false item = .text (Text.trim item) := by
  unfold itemLiteral
  cases Decimal.float? (Text.trim item) <;> rfl

theorem readsAs_itemText (numeric : Bool) (item : String) :
    ReadsAs (pieces (VariableType.itemText numeric item)) (itemLiteral numeric item) := by
  unfold VariableType.itemText itemLiteral
  dsimp only
  cases Decimal.float? (Text.trim item) with
  | none => exact readsAs_quote _
  | some x =>
      cases numeric with
      | false => exact readsAs_quote _
      | true => exact readsAs_number (.float x)

/-- What a value of a type is written as. -/
def declaredLiteral (type : VariableType) (value : String) : Literal :=
  match type with
  | .string => .text value
  | .number => itemLiteral true value
  | .stringList => .list ((VariableType.listItems value).map (itemLiteral false))
  | .numberList => .list ((VariableType.listItems value).map (itemLiteral true))

theorem read_lines {indent : String} (hindent : IsSpaces indent) (numeric : Bool)
    (items : List String) :
    read (pieces (if items.isEmpty then "[]"
      else "[\n" ++ String.join (items.map fun item =>
        indent ++ "  " ++ VariableType.itemText numeric item ++ ",\n") ++ indent ++ "]")) =
      some (.list (items.map (itemLiteral numeric))) := by
  cases items with
  | nil =>
      rw [if_pos List.isEmpty_nil]
      exact (readsAs_list isSpaces_empty isSpaces_empty itemsReadAs_nil).read
  | cons item items =>
      have hitems := itemsReadAs_lines (readsAs_itemText numeric)
        (isSpaces_append hindent (isSpaces_indentation 1)) (item :: items)
      have hlist := readsAs_list isSpaces_line hindent hitems
      rw [if_neg (by simp), pieces_append, pieces_append, pieces_append, List.append_assoc,
        List.append_assoc]
      exact hlist.read

theorem read_commas (numeric : Bool) (items : List String) :
    read (pieces (if (items.map (VariableType.itemText numeric)).isEmpty then "[]"
      else "[ " ++ String.intercalate ", " (items.map (VariableType.itemText numeric)) ++ " ]")) =
      some (.list (items.map (itemLiteral numeric))) := by
  have hspace : IsSpaces " " := fun c hc => .inl (List.mem_singleton.mp hc)
  cases items with
  | nil =>
      rw [List.map_nil, if_pos List.isEmpty_nil]
      exact (readsAs_list isSpaces_empty isSpaces_empty itemsReadAs_nil).read
  | cons item items =>
      have hitems := itemsReadAs_commas (readsAs_itemText numeric) (item :: items)
      have hlist := readsAs_list hspace hspace hitems
      rw [if_neg (by simp), pieces_append, pieces_append, List.append_assoc]
      exact hlist.read

theorem read_literal {indent : String} (hindent : IsSpaces indent) (type : VariableType)
    (value : String) :
    read (pieces (type.literal indent value)) = some (declaredLiteral type value) := by
  cases type with
  | string => exact (readsAs_quote value).read
  | number => exact (readsAs_itemText true value).read
  | stringList => exact read_lines hindent false _
  | numberList => exact read_lines hindent true _

theorem read_assignedLiteral (type : VariableType) (value : String) :
    read (pieces (type.assignedLiteral value)) = some (declaredLiteral type value) := by
  cases type with
  | string => exact read_literal isSpaces_empty .string value
  | number => exact read_literal isSpaces_empty .number value
  | stringList => exact read_commas false _
  | numberList => exact read_commas true _

/-- The items of a declared list. -/
def declaredItems (value : String) : List String :=
  (VariableType.listItems value).map Text.trim

/-! ### Types and values of parameters -/

/-- No item of a list in one text is blank. -/
def NoBlankItem (value : String) : Prop :=
  ∀ item ∈ Text.splitAt ',' value, Text.trim item ≠ ""

theorem declaredItems_of_noBlankItem {value : String} (h : NoBlankItem value) :
    declaredItems value = (Text.splitAt ',' value).map Text.trim := by
  rw [declaredItems, VariableType.listItems, List.filter_eq_self.mpr]
  intro item hitem
  simpa [String.isEmpty_iff] using h item hitem

theorem isList_of_type {p : Parameter} (h : VariableType.ofParameterType p.type = .stringList) :
    p.isList = true := by
  unfold VariableType.ofParameterType at h
  split_ifs at h with hnumber hnumbers hlist
  exact hlist

theorem not_isList_of_type {p : Parameter} (h : VariableType.ofParameterType p.type = .string) :
    p.isList = false := by
  unfold VariableType.ofParameterType at h
  split_ifs at h with hnumber hnumbers hlist
  exact Bool.eq_false_iff.mpr hlist

/-- The type of a parameter that names an entry of the parameter store is no type of lists. -/
theorem not_isList_of_isStored {p : Parameter} (h : p.isStored = true) : p.isList = false := by
  have hprefix := String.startsWith_string_iff.mp h
  obtain ⟨rest, hrest⟩ := hprefix
  unfold Parameter.isList
  rw [Bool.or_eq_false_iff, beq_eq_false_iff_ne, String.startsWith_string_eq_false_iff]
  constructor
  · intro htype
    rw [htype] at hrest
    cases hrest
  · rintro ⟨rest', hrest'⟩
    rw [← hrest] at hrest'
    cases hrest'

theorem evaluateRef_parameter {s : Stack} {name : String} {p : Parameter} {value : String}
    (hname : ¬name.startsWith "AWS::" = true) (hp : s.template.parameter? name = some p)
    (hvalue : p.value = some value) :
    s.evaluateRef name = some (if p.isList then
      .array ((Text.splitAt ',' value).map fun s => .string (Text.trim s)) else .string value) := by
  rw [Stack.evaluateRef, if_neg hname, hp]
  dsimp only
  rw [Stack.parameterValue, hvalue, Option.map_some]

/-- The literal that a text or a list of texts is written as. -/
def literalOf? : Json → Option Literal
  | .string s => some (.text s)
  | .array items => (items.mapM Json.string?).map fun texts => .list (texts.map .text)
  | _ => none

theorem literalOf?_array (texts : List String) :
    literalOf? (.array (texts.map .string)) = some (.list (texts.map .text)) := by
  have hback : (texts.map Json.string).mapM Json.string? = some texts := by
    induction texts with
    | nil => rfl
    | cons text texts ih =>
        rw [List.map_cons, List.mapM_cons, ih]
        rfl
  rw [literalOf?, hback, Option.map_some]

/-! ### Where values are declared -/

def StandsIn (part text : String) : Prop := ∃ before after, text = before ++ part ++ after

theorem standsIn_join {texts : List String} {part : String} (h : part ∈ texts) :
    StandsIn part (String.join texts) := by
  obtain ⟨before, after, rfl⟩ := List.append_of_mem h
  refine ⟨String.join before, String.join after, ?_⟩
  simp [String.append_assoc]

theorem StandsIn.behind {part text : String} (h : StandsIn part text) (front : String) :
    StandsIn part (front ++ text) := by
  obtain ⟨before, after, rfl⟩ := h
  exact ⟨front ++ before, after, by simp only [String.append_assoc]⟩

theorem StandsIn.before {part text : String} (h : StandsIn part text) (rest : String) :
    StandsIn part (text ++ rest) := by
  obtain ⟨before, after, rfl⟩ := h
  exact ⟨before, after ++ rest, by simp only [String.append_assoc]⟩

theorem StandsIn.trans {part middle text : String} (h : StandsIn part middle)
    (h' : StandsIn middle text) : StandsIn part text := by
  obtain ⟨before, after, rfl⟩ := h'
  exact (h.behind before).before after

theorem standsIn_front (part rest : String) : StandsIn part (part ++ rest) :=
  ⟨"", rest, by rw [String.empty_append]⟩

variable {ds : Declarations}

theorem mem_inputs_of_declared? {address : String} {v : Variable}
    (h : declared? ds address = some (.variable v)) : v ∈ ds.inputs :=
  mem_inputs_iff.mpr (mem_of_declared? h)

theorem mem_dataSources_of_declared? {address : String} {d : DataSource}
    (h : declared? ds address = some (.dataSource d)) : d ∈ ds.dataSources :=
  mem_dataSources_iff.mpr (mem_of_declared? h)

theorem standsIn_variable {v : Variable} (h : v ∈ ds.inputs) : StandsIn v.block ds.blocks := by
  have hsorted : v ∈ ds.sortedVariables := (List.mergeSort_perm _ _).symm.subset h
  have hjoin := standsIn_join (List.mem_map_of_mem (f := fun v => v.block ++ "\n") hsorted)
  exact ((standsIn_front v.block "\n").trans hjoin).before _

theorem standsIn_dataSource {d : DataSource} (h : d ∈ ds.dataSources) :
    StandsIn d.block ds.blocks := by
  have hsorted : d ∈ ds.sortedDataSources := (List.mergeSort_perm _ _).symm.subset h
  have hjoin := standsIn_join (List.mem_map_of_mem (f := fun d => d.block ++ "\n") hsorted)
  exact ((standsIn_front d.block "\n").trans hjoin).behind _

theorem standsIn_assignment {v : Variable} (h : v ∈ ds.inputs) {value : String}
    (hcurrent : v.current = some value) (stackName : String) :
    StandsIn (v.name ++ " = " ++ v.type.assignedLiteral value ++ "\n\n")
      (ds.assignments stackName) := by
  have hsorted : v ∈ ds.sortedVariables := (List.mergeSort_perm _ _).symm.subset h
  rw [Declarations.assignments]
  refine StandsIn.behind (standsIn_join (List.mem_map.mpr ⟨v, hsorted, ?_⟩)) _
  rw [hcurrent]

/-- A text is what the configuration gives for a variable: it is assigned in the file of variable
values, or else it is the default in the block of the variable. -/
def Gives (ds : Declarations) (stackName : String) (v : Variable) (text : String) : Prop :=
  match v.current with
  | some _ => StandsIn (v.name ++ " = " ++ text ++ "\n\n") (ds.assignments stackName)
  | none => StandsIn v.block ds.blocks ∧ StandsIn ("  default     = " ++ text ++ "\n\x7d\n") v.block

/-- The text for the value of a variable. -/
def givenText (v : Variable) (value : String) : String :=
  match v.current with
  | some _ => v.type.assignedLiteral value
  | none => v.type.literal "  " value

theorem block_of_default {v : Variable} {value : String} (h : v.default = some value) :
    ∃ front, v.block = front ++ ("  default     = " ++ v.type.literal "  " value ++ "\n\x7d\n") := by
  have hassoc (a b : String) : a ++ b ++ "\x7d\n" = a ++ (b ++ "\x7d\n") :=
    String.append_assoc
  have hend : "  default     = " ++ v.type.literal "  " value ++ "\n" ++ "\x7d\n" =
      "  default     = " ++ v.type.literal "  " value ++ "\n\x7d\n" := by
    simp [String.append_assoc]
  unfold Variable.block
  rw [h]
  dsimp only
  rw [hassoc, hend]
  exact ⟨_, rfl⟩

theorem gives_givenText {v : Variable} (h : v ∈ ds.inputs) {value : String}
    (hvalue : v.current.or v.default = some value) (stackName : String) :
    Gives ds stackName v (givenText v value) := by
  unfold Gives givenText
  cases hcurrent : v.current with
  | some current =>
      rw [hcurrent, Option.some_or, Option.some.injEq] at hvalue
      exact standsIn_assignment h (hvalue ▸ hcurrent) stackName
  | none =>
      rw [hcurrent, Option.none_or] at hvalue
      obtain ⟨front, hfront⟩ := block_of_default hvalue
      exact ⟨standsIn_variable h, front, "", by rw [hfront, String.append_empty]⟩

theorem read_givenText (v : Variable) (value : String) :
    read (pieces (givenText v value)) = some (declaredLiteral v.type value) := by
  unfold givenText
  cases v.current with
  | some current => exact read_assignedLiteral v.type value
  | none => exact read_literal (isSpaces_indentation 1) v.type value

theorem read_givenText_list {v : Variable} (htype : v.type = .stringList) (value : String) :
    read (pieces (givenText v value)) = some (.list ((declaredItems value).map .text)) := by
  have hitem : itemLiteral false = fun item => Literal.text (Text.trim item) :=
    funext itemLiteral_text
  rw [read_givenText, htype, declaredLiteral, hitem, declaredItems, List.map_map]
  rfl

/-- What is given for a parameter of texts or of lists of texts reads as the value of a reference to
it, a list where no item is blank. -/
theorem exists_given {s : Stack} {name : String} {p : Parameter} {v : Variable} {value : String}
    (hname : ¬name.startsWith "AWS::" = true) (hp : s.template.parameter? name = some p)
    (hvalue : p.value = some value) (hv : v ∈ ds.inputs)
    (hdeclared : Declaration.ofParameter p = .variable v)
    (htype : v.type = .string ∨ v.type = .stringList ∧ NoBlankItem value) (stackName : String) :
    ∃ text j, Gives ds stackName v text ∧ s.evaluateRef name = some j ∧
      read (pieces text) = literalOf? j := by
  have hvariable : v.current.or v.default = some value ∧
      v.type = .ofParameterType p.type := by
    unfold Declaration.ofParameter at hdeclared
    split at hdeclared
    · cases hdeclared
    · cases hdeclared
      exact ⟨hvalue, rfl⟩
  obtain ⟨hvalue', hptype⟩ := hvariable
  refine ⟨_, _, gives_givenText hv hvalue' stackName, evaluateRef_parameter hname hp hvalue, ?_⟩
  rcases htype with hstring | ⟨hlist, hblank⟩
  · rw [not_isList_of_type (hptype ▸ hstring), read_givenText, hstring]
    rfl
  · rw [isList_of_type (hptype ▸ hlist), if_pos rfl, read_givenText_list hlist,
      declaredItems_of_noBlankItem hblank]
    have hmap : ((Text.splitAt ',' value).map fun s => Json.string (Text.trim s)) =
        ((Text.splitAt ',' value).map Text.trim).map Json.string := by
      rw [List.map_map]
      rfl
    rw [hmap, literalOf?_array]

/-- A stored parameter is looked up by its default. -/
theorem dataSource_of_parameter {p : Parameter} {d : DataSource}
    (h : Declaration.ofParameter p = .dataSource d) :
    p.isStored = true ∧ d = ⟨"aws_ssm_parameter", p.name, [("name", p.default.getD "")]⟩ := by
  unfold Declaration.ofParameter at h
  split at h
  · next hstored =>
      cases h
      exact ⟨hstored, rfl⟩
  · cases h

theorem default_of_not_deployed {p : Parameter} {value : String} (hvalue : p.value = some value)
    (h : p.current = none ∨ p.current = p.default) : p.default.getD "" = value := by
  unfold Parameter.value at hvalue
  rcases h with hnone | hsame
  · rw [hnone, Option.none_or] at hvalue
    rw [hvalue, Option.getD_some]
  · rw [hsame, Option.or_self] at hvalue
    rw [hvalue, Option.getD_some]

/-- A parameter with a value is declared. A stored one is looked up by its default, which is its
value unless another one was deployed; any other has a variable, and what the configuration gives for
a text or for a list of texts without blank items reads as the value of a reference. -/
theorem declared_value_agrees (s : Stack) (new : Declarations) (stackName : String)
    {name : String} {p : Parameter} {value : String} (hname : ¬name.startsWith "AWS::" = true)
    (hp : s.template.parameter? name = some p) (hvalue : p.value = some value) :
    let ds := registerAll (.ofTemplate s.template) new
    declared? ds (Declaration.ofParameter p).address = some (Declaration.ofParameter p) ∧
      (∀ d, Declaration.ofParameter p = .dataSource d →
        StandsIn d.block ds.blocks ∧ d.arguments = [("name", p.default.getD "")] ∧
        ((p.current = none ∨ p.current = p.default) → d.arguments = [("name", value)]) ∧
        s.evaluateRef name = some (.string value)) ∧
      ∀ v, Declaration.ofParameter p = .variable v →
        (v.type = .string ∨ v.type = .stringList ∧ NoBlankItem value) →
        ∃ text j, Gives ds stackName v text ∧ s.evaluateRef name = some j ∧
          read (pieces text) = literalOf? j := by
  intro ds
  have hdeclared : declared? ds (Declaration.ofParameter p).address =
      some (Declaration.ofParameter p) :=
    declared?_registerAll_of_some (declared?_ofTemplate hp) new
  refine ⟨hdeclared, fun d hd => ?_, fun v hv htype => ?_⟩
  · obtain ⟨hstored, rfl⟩ := dataSource_of_parameter hd
    refine ⟨?_, rfl, fun h => by rw [default_of_not_deployed hvalue h], ?_⟩
    · exact standsIn_dataSource (mem_dataSources_of_declared? (hd ▸ hdeclared))
    · rw [evaluateRef_parameter hname hp hvalue, not_isList_of_isStored hstored]
      rfl
  · exact exists_given hname hp hvalue (mem_inputs_of_declared? (hv ▸ hdeclared)) hv htype stackName

def zones (value : String) : Parameter :=
  ⟨"Zones", "CommaDelimitedList", some "a", none, false, some value⟩

def zonesVariable (value : String) : Variable :=
  ⟨"Zones", .stringList, none, some "a", some value, false⟩

theorem ofParameter_zones (value : String) :
    Declaration.ofParameter (zones value) = .variable (zonesVariable value) := by
  simp [Declaration.ofParameter, zones, zonesVariable, Parameter.isStored,
    VariableType.ofParameterType]

def stackWith (p : Parameter) : Stack where
  template := { Template.empty with parameters := [p] }
  pseudo := ⟨"eu-west-1", "123456789012", "aws", "amazonaws.com", "jobs", none⟩
  table := ⟨.none "", []⟩
  resources := []
  exports := []

theorem parameter?_stackWith (p : Parameter) :
    (stackWith p).template.parameter? p.name = some p := by
  simp [Template.parameter?, stackWith]

theorem declared_value_agrees_zones :
    ¬"Zones".startsWith "AWS::" = true ∧
      (stackWith (zones "b, c")).template.parameter? "Zones" = some (zones "b, c") ∧
      (zones "b, c").value = some "b, c" ∧ NoBlankItem "b, c" ∧ ∃ text j,
        Gives (registerAll (.ofTemplate (stackWith (zones "b, c")).template) []) "jobs"
          (zonesVariable "b, c") text ∧
        (stackWith (zones "b, c")).evaluateRef "Zones" = some j ∧
        read (pieces text) = literalOf? j := by
  have hname : ¬"Zones".startsWith "AWS::" = true := by simp
  have hblank : NoBlankItem "b, c" := by
    unfold NoBlankItem
    decide
  have hagrees := declared_value_agrees (stackWith (zones "b, c")) [] "jobs" hname
    (parameter?_stackWith _) rfl
  refine ⟨hname, parameter?_stackWith _, rfl, hblank, ?_⟩
  exact hagrees.2.2 (zonesVariable "b, c") (ofParameter_zones _) (.inr ⟨rfl, hblank⟩)

def storedKey : Parameter :=
  ⟨"Key", "AWS::SSM::Parameter::Value<String>", some "/old", none, false, some "/new"⟩

def ownRegion : Parameter := ⟨"AWS::Region", "String", some "here", none, false, none⟩

/-- A blank item is a value for references and is not declared; a stored parameter is looked up by
its default although another entry was deployed; and a name of a pseudo parameter stands for that. -/
theorem declared_value_differs :
    ((stackWith (zones "b,,c")).evaluateRef "Zones" =
        some (.array [.string "b", .string "", .string "c"]) ∧
      Gives (.ofTemplate (stackWith (zones "b,,c")).template) "jobs" (zonesVariable "b,,c")
        (givenText (zonesVariable "b,,c") "b,,c") ∧
      read (pieces (givenText (zonesVariable "b,,c") "b,,c")) =
        some (.list [.text "b", .text "c"])) ∧
    (Declaration.ofParameter storedKey =
        .dataSource ⟨"aws_ssm_parameter", "Key", [("name", "/old")]⟩ ∧
      (stackWith storedKey).evaluateRef "Key" = some (.string "/new")) ∧
    (Declaration.ofParameter ownRegion =
        .variable ⟨"AWS::Region", .string, none, some "here", none, false⟩ ∧
      (stackWith ownRegion).evaluateRef "AWS::Region" = some (.string "eu-west-1")) := by
  have hdeclared := declared?_ofTemplate (parameter?_stackWith (zones "b,,c"))
  rw [ofParameter_zones] at hdeclared
  refine ⟨⟨?_, gives_givenText (mem_inputs_of_declared? hdeclared) rfl "jobs", ?_⟩, ⟨?_, ?_⟩, ?_, ?_⟩
  · have hparameter : (stackWith (zones "b,,c")).template.parameter? "Zones" =
        some (zones "b,,c") := parameter?_stackWith _
    have hlist : (zones "b,,c").isList = true := by simp [Parameter.isList, zones]
    have hitems : Text.splitAt ',' "b,,c" = ["b", "", "c"] := by decide
    rw [evaluateRef_parameter (by simp) hparameter rfl, hlist, if_pos rfl, hitems]
    rfl
  · have hitems : declaredItems "b,,c" = ["b", "c"] := by decide
    rw [read_givenText_list rfl, hitems]
    rfl
  · simp [Declaration.ofParameter, storedKey, Parameter.isStored]
  · have hparameter : (stackWith storedKey).template.parameter? "Key" = some storedKey :=
      parameter?_stackWith _
    have hlist : storedKey.isList = false := by simp [Parameter.isList, storedKey]
    rw [evaluateRef_parameter (by simp) hparameter rfl, hlist]
    rfl
  · simp [Declaration.ofParameter, ownRegion, Parameter.isStored, VariableType.ofParameterType]
  · simp [Stack.evaluateRef, stackWith, PseudoValues.get?]

end StackExport.Proofs.ParameterValues
