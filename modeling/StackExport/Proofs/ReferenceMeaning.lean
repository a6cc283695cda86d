import Mathlib
import StackExport.Proofs.Traversal
import StackExport.Proofs.WholeNumbers
import StackExport.Rendering
import StackExport.Template.Evaluation
/-!
What references stand for in the configuration of a deployed stack.

A variable has the value of the parameter, a resource's identifier is its physical name, its
attributes are the live ones, and the look-up tables are those of the template.
-/
namespace StackExport.Proofs.ReferenceMeaning

open StackExport
open StackExport.RenderContext
open StackExport.Proofs.Lexemes
open StackExport.Proofs.Traversal
open StackExport.Proofs.WholeNumbers

/-! ### Parts of values -/

/-- The part of a value under a key: an entry of an object or an element of an array. -/
def part? (v key : Json) : Option Json :=
  match v with
  | .object entries => key.scalarText?.bind fun k => lookup? k entries
  | .array items => (Stack.indexOf? key).bind fun i => items[i]?
  | _ => none

def elementAt (v : Json) : Option Nat → Option Json
  | none => some v
  | some i => part? v (.number (.int i))

/-- The pieces of a text between the occurrences of a delimiter; without one, its characters. -/
def cut (delimiter text : String) : List String :=
  if delimiter.isEmpty then text.toList.map String.singleton else Text.splitOn delimiter text

/-- The functions of the configuration language that stand in for intrinsic functions. -/
def callResult? : String → List Json → Option Json
  | "join", [.string delimiter, .array items] =>
    (items.mapM Json.scalarText?).map fun parts => .string (String.intercalate delimiter parts)
  | "split", [.string delimiter, source] =>
    source.scalarText?.map fun text => .array ((cut delimiter text).map .string)
  | "element", [.array items, index] =>
    (Stack.indexOf? index).bind fun i => items[i % items.length]?
  | _, _ => none

/-! ### Names -/

def attributeOf (r : LiveResource) (name : String) : Option Json :=
  if name == "id" then some (.string r.physicalId)
  else r.attributes.bind fun tree => (tree.getPath? (Path.parse name)).map AttributeTree.toJson

section

variable (mappings : List ResourceMapping) (s : Stack)

def resourceAt (address : String) : Option LiveResource :=
  (mappings.find? (·.address == address)).bind fun m => lookup? m.logicalId s.resources

/-- What stands behind a type, a name and an attribute. -/
def attribute? (path : String) : Option Json := do
  let (type, rest) ← Text.splitOnce? '.' path
  let (name, field) ← Text.splitOnce? '.' rest
  let r ← resourceAt mappings s (type ++ "." ++ name)
  attributeOf r field

/-- The attributes of data sources that give the pseudo parameters. -/
def source? : String → String → String → Option Json
  | "aws_region", "current", "name" => some (.string s.pseudo.region)
  | "aws_caller_identity", "current", "account_id" => some (.string s.pseudo.accountId)
  | "aws_partition", "partition", "partition" => some (.string s.pseudo.partition)
  | "aws_partition", "url_suffix", "dns_suffix" => some (.string s.pseudo.urlSuffix)
  | _, _, _ => none

/-- What an expression without brackets and calls stands for. -/
def named? (expression : String) : Option Json :=
  match Text.dropStart? "var." expression with
  | some name => s.evaluateRef name
  | none =>
    match Text.dropStart? "data." expression with
    | some path => do
      let (type, rest) ← Text.splitOnce? '.' path
      let (name, field) ← Text.splitOnce? '.' rest
      source? s type name field
    | none => attribute? mappings s expression

def stepInto (v : Json) : Step → Option Json
  | .entry key => part? v (.string key)
  | .element i => part? v (.number (.int i))
  | .computed expression => (named? mappings s expression).bind (part? v)

/-- What a traversal of the look-up tables leads to. -/
def lookUp? (path : String) : Option Json := do
  let rest ← Text.dropStart? "local.mappings" path
  let steps ← steps? (lexemes rest)
  steps.foldlM (stepInto mappings s) (.object s.template.mappings)

mutual

/-- What a reference stands for. Module outputs and quoted templates are left aside. -/
def meaning : Reference → Option Json
  | .direct address => attribute? mappings s (address ++ ".id")
  | .indirect path => attribute? mappings s path
  | .variable name index => (s.evaluateRef name).bind fun v => elementAt v index
  | .dataSource type name field _ => source? s type name field
  | .function name args index => do
    let v ← callResult? name (← meanings args)
    elementAt v index
  | .map path => lookUp? mappings s path
  | .module _ | .interpolation _ => none

def meaningOf : Argument → Option Json
  | .string text => some (.string text)
  | .number x => some (Stack.numberValue x)
  | .bool b => some (.bool b)
  | .reference r => meaning r
  | .list items => (meanings items).map .array

def meanings : List Argument → Option (List Json)
  | [] => some []
  | arg :: rest => do return (← meaningOf arg) :: (← meanings rest)

end

end

/-! ### Writing and reading names -/

theorem splitFirst_append {c : Char} {before : List Char} (h : c ∉ before) (after : List Char) :
    Text.splitFirst [c] (before ++ c :: after) = some (before, after) := by
  induction before with
  | nil => simp [Text.splitFirst]
  | cons d before ih =>
      rw [List.mem_cons, not_or] at h
      obtain ⟨hd, hrest⟩ := h
      rw [List.cons_append, Text.splitFirst, ih hrest]
      simp [List.isPrefixOf, hd]

theorem splitOnce?_append {before : String} (h : '.' ∉ before.toList) (after : String) :
    Text.splitOnce? '.' (before ++ "." ++ after) = some (before, after) := by
  have hsplit : (before ++ "." ++ after).toList = before.toList ++ '.' :: after.toList := by simp
  rw [Text.splitOnce?, hsplit, splitFirst_append h]
  simp

theorem dropStart?_append (start rest : String) :
    Text.dropStart? start (start ++ rest) = some rest := by
  have hprefix : start.toList.isPrefixOf (start.toList ++ rest.toList) = true :=
    List.isPrefixOf_iff_prefix.mpr (List.prefix_append _ _)
  simp [Text.dropStart?, hprefix, ← String.length_toList]

/-- What begins with a name and a dot begins with no other name and a dot. -/
theorem dropStart?_eq_none {word name : String} (hword : '.' ∉ word.toList)
    (hname : '.' ∉ name.toList) (hne : name ≠ word) (rest : String) :
    Text.dropStart? (word ++ ".") (name ++ "." ++ rest) = none := by
  rw [Text.dropStart?, if_neg]
  intro hprefix
  obtain ⟨tail, htail⟩ := List.isPrefixOf_iff_prefix.mp hprefix
  have hsame : word.toList ++ '.' :: tail = name.toList ++ '.' :: rest.toList := by
    simpa using htail
  have hsplit := splitFirst_append hword tail
  rw [hsame, splitFirst_append hname, Option.some.injEq, Prod.mk.injEq] at hsplit
  exact hne (String.toList_inj.mp hsplit.1)

theorem not_dot_of_isNameRest {name : String} (h : ∀ c ∈ name.toList, Text.isNameRest c = true) :
    '.' ∉ name.toList := fun hdot => absurd (h '.' hdot) (by decide)

theorem isNameRest_of_label (name : String) :
    ∀ c ∈ (Text.label name).toList, Text.isNameRest c = true := by
  have hkept (cs : List Char) : ∀ c ∈ cs.map fun c => if Text.isNameRest c then c else '_',
      Text.isNameRest c = true := by
    intro c hc
    obtain ⟨d, -, rfl⟩ := List.mem_map.mp hc
    split_ifs with hd
    · exact hd
    · decide
  rw [Text.label, String.toList_ofList, Text.labelChars]
  have hall := hkept name.toList
  split
  · next first rest heq =>
      split_ifs
      · exact hall
      · intro c hc
        rcases List.mem_cons.mp hc with rfl | hc
        · decide
        · exact hall c hc
  · intro c hc
    obtain rfl := List.mem_singleton.mp hc
    decide

/-! ### A context and the stack that it renders -/

/-- Words that begin the names of other things than resources. -/
def qualifiers : List String := ["var", "data", "local", "module"]

/-- A context and a stack that are about the same deployment, with names as the configuration
language has them. -/
structure Describes (c : RenderContext) (s : Stack) : Prop where
  template : c.template = s.template
  table : c.table = s.table
  addresses : (c.mappings.map ResourceMapping.address).Nodup
  types : ∀ m ∈ c.mappings,
    (∀ l ∈ m.type.toList, Text.isNameRest l = true) ∧ m.type ∉ qualifiers
  live : ∀ m ∈ c.mappings, ∀ r, lookup? m.logicalId s.resources = some r → r.type = m.type
  names : ∀ p ∈ s.template.parameters, ∀ l ∈ p.name.toList, Text.isNameRest l = true
  /-- No parameter takes its value from the parameter store. -/
  given : ∀ p ∈ s.template.parameters, p.isStored = false

variable {c : RenderContext} {s : Stack}

theorem resourceAt_address (h : Describes c s) {m : ResourceMapping} (hm : m ∈ c.mappings) :
    resourceAt c.mappings s m.address = lookup? m.logicalId s.resources := by
  unfold resourceAt
  cases hfind : c.mappings.find? (·.address == m.address) with
  | none =>
      have hnone := List.find?_eq_none.mp hfind m hm
      simp at hnone
  | some found =>
      have haddress : found.address = m.address := by simpa using List.find?_some hfind
      have hfound := List.mem_of_find?_eq_some hfind
      have hsame := List.inj_on_of_nodup_map h.addresses hfound hm haddress
      rw [Option.bind_some, hsame]

theorem attribute?_address (h : Describes c s) {m : ResourceMapping} (hm : m ∈ c.mappings)
    (field : String) :
    attribute? c.mappings s (m.address ++ "." ++ field) =
      (lookup? m.logicalId s.resources).bind (attributeOf · field) := by
  have htype := not_dot_of_isNameRest (h.types m hm).1
  have hname : '.' ∉ m.name.toList := not_dot_of_isNameRest (isNameRest_of_label _)
  have hpath : m.address ++ "." ++ field = m.type ++ "." ++ (m.name ++ "." ++ field) := by
    simp [ResourceMapping.address, String.append_assoc]
  rw [attribute?, hpath, splitOnce?_append htype]
  simp only [Option.bind_eq_bind, Option.bind_some]
  rw [splitOnce?_append hname]
  simp only [Option.bind_some]
  rw [← resourceAt_address h hm]
  rfl

theorem named?_variable (name : String) :
    named? c.mappings s ("var." ++ name) = s.evaluateRef name := by
  rw [named?, dropStart?_append]

theorem named?_id (h : Describes c s) {m : ResourceMapping} (hm : m ∈ c.mappings) :
    named? c.mappings s (m.address ++ ".id") = attribute? c.mappings s (m.address ++ ".id") := by
  obtain ⟨htype, hqualifier⟩ := h.types m hm
  have hdot := not_dot_of_isNameRest htype
  have hpath : m.address ++ ".id" = m.type ++ "." ++ (m.name ++ ".id") := by
    simp [ResourceMapping.address, String.append_assoc]
  have hnone (word : String) (hword : word ∈ qualifiers) (hplain : '.' ∉ word.toList) :
      Text.dropStart? (word ++ ".") (m.address ++ ".id") = none := by
    rw [hpath]
    refine dropStart?_eq_none hplain hdot ?_ _
    rintro rfl
    exact hqualifier hword
  have hvar : Text.dropStart? "var." (m.address ++ ".id") = none :=
    hnone "var" (by decide) (by decide)
  have hdata : Text.dropStart? "data." (m.address ++ ".id") = none :=
    hnone "data" (by decide) (by decide)
  rw [named?, hvar, hdata]

theorem named?_source {type source : String} (htype : '.' ∉ type.toList)
    (hsource : '.' ∉ source.toList) (field : String) :
    named? c.mappings s ("data." ++ type ++ "." ++ source ++ "." ++ field) =
      source? s type source field := by
  have hpath : "data." ++ type ++ "." ++ source ++ "." ++ field =
      "data." ++ (type ++ "." ++ (source ++ "." ++ field)) := by simp [String.append_assoc]
  have hword : '.' ∉ "var".toList := by decide
  have hname : '.' ∉ "data".toList := by decide
  have hvar (rest : String) : Text.dropStart? "var." ("data." ++ rest) = none :=
    dropStart?_eq_none hword hname (by decide) rest
  rw [named?, hpath, hvar, dropStart?_append]
  simp only [Option.bind_eq_bind]
  rw [splitOnce?_append htype]
  simp only [Option.bind_some]
  rw [splitOnce?_append hsource]
  rfl

theorem plain_computed_append {before after : String}
    (hbefore : ∀ c ∈ before.toList, Text.isNameRest c = true)
    (hafter : ∀ c ∈ after.toList, Text.isNameRest c = true ∨ c = '.') :
    (Step.computed (before ++ "." ++ after)).Plain := by
  constructor
  · simp
  · intro c hc
    simp only [String.toList_append, List.mem_append] at hc
    rcases hc with (hc | hc) | hc
    · exact Or.inl (hbefore c hc)
    · exact Or.inr (List.mem_singleton.mp hc)
    · exact hafter c hc

/-- The data source that stands in for a pseudo parameter gives its value. -/
theorem source?_of_pseudoSource? {name type source field : String}
    (h : pseudoSource? name = some (type, source, field)) :
    source? s type source field = (s.pseudo.get? name).map .string ∧
      named? c.mappings s ("data." ++ type ++ "." ++ source ++ "." ++ field) =
        source? s type source field ∧
      (Step.computed ("data." ++ type ++ "." ++ source ++ "." ++ field)).Plain := by
  unfold pseudoSource? at h
  split at h
  all_goals
    cases h
  all_goals
    refine ⟨rfl, named?_source (by decide) (by decide) _, ?_, ?_⟩
    · simp
    · simp
      decide

theorem attribute?_id (h : Describes c s) {m : ResourceMapping} (hm : m ∈ c.mappings) :
    attribute? c.mappings s (m.address ++ ".id") =
      (lookup? m.logicalId s.resources).map fun r => .string r.physicalId := by
  have hpath : m.address ++ ".id" = m.address ++ "." ++ "id" := by simp [String.append_assoc]
  have hid : (attributeOf · "id") = some ∘ fun r : LiveResource => Json.string r.physicalId := by
    funext r
    simp [attributeOf]
  rw [hpath, attribute?_address h hm, hid, Option.map_eq_bind]

theorem plain_address_id (h : Describes c s) {m : ResourceMapping} (hm : m ∈ c.mappings) :
    (Step.computed (m.address ++ ".id")).Plain := by
  have hpath : m.address ++ ".id" = m.type ++ "." ++ (m.name ++ ".id") := by
    simp [ResourceMapping.address, String.append_assoc]
  rw [hpath]
  refine plain_computed_append (h.types m hm).1 ?_
  intro c hc
  rw [String.toList_append, List.mem_append] at hc
  rcases hc with hc | hc
  · exact Or.inl (isNameRest_of_label _ c hc)
  · simp only [String.reduceToList, List.mem_cons, List.not_mem_nil, or_false] at hc
    rcases hc with rfl | rfl | rfl <;> decide

theorem lookUp?_writeAll (mappings : List ResourceMapping) {steps : List Step}
    (h : ∀ step ∈ steps, step.Plain) :
    lookUp? mappings s ("local.mappings" ++ writeAll steps) =
      steps.foldlM (stepInto mappings s) (.object s.template.mappings) := by
  rw [lookUp?, dropStart?_append]
  simp only [Option.bind_eq_bind, Option.bind_some]
  rw [steps?_writeAll h]
  rfl

end StackExport.Proofs.ReferenceMeaning
