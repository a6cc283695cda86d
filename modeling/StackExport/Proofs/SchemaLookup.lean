import Mathlib
import StackExport.Resource.Events
/-!
Which schema a path leads to.

`Leads` follows a path by the names of attributes, the indices of blocks and lists, and the keys of
maps. Indices behind a nested block make no difference to the look-up, and it finds exactly what a
path leads to, except that it reads an empty segment as an index.
-/
namespace StackExport.Proofs.SchemaLookup

open StackExport
open StackExport.ValueSchema

/-! ### Paths through a schema -/

mutual

/-- True when no attribute, at any depth, has a name that is empty or made of digits only. -/
def namesPlain : ValueSchema → Bool
  | .plain _ => true
  | .collection _ element => namesPlain element
  | .nested _ attributes => attributesPlain attributes

/-- True when these attributes and those inside them have names that are not empty and not made of
digits only. -/
def attributesPlain : List (String × ValueSchema) → Bool
  | [] => true
  | (name, schema) :: rest => !isIndex name && namesPlain schema && attributesPlain rest

end

/-- A number in decimal digits. -/
def IsNumeral (segment : String) : Prop := segment ≠ "" ∧ segment.toList.all Char.isDigit = true

/-- A path that the schema of an attribute knows, and the schema that it leads to. -/
inductive Below : ValueSchema → List String → ValueSchema → Prop where
  | here (s : ValueSchema) : Below s [] s
  /-- An attribute of a nested block. -/
  | member {info : SchemaInfo} {attributes : List (String × ValueSchema)} {name : String}
      {found s : ValueSchema} {rest : List String} (hfound : lookup? name attributes = some found)
      (hrest : Below found rest s) : Below (.nested info attributes) (name :: rest) s
  /-- One of several nested blocks, which all have the same attributes. -/
  | block {info : SchemaInfo} {attributes : List (String × ValueSchema)} {index : String}
      {s : ValueSchema} {rest : List String} (hindex : IsNumeral index)
      (hrest : Below (.nested info attributes) rest s) :
      Below (.nested info attributes) (index :: rest) s
  /-- An element of a collection. -/
  | item {info : SchemaInfo} {element s : ValueSchema} {index : String} {rest : List String}
      (hindex : IsNumeral index) (hrest : Below element rest s) :
      Below (.collection info element) (index :: rest) s
  /-- The value under a key of a map. -/
  | entry {info : SchemaInfo} {element s : ValueSchema} {key : String} {rest : List String}
      (hmap : info.type = .map) (hrest : Below element rest s) :
      Below (.collection info element) (key :: rest) s

/-- A path that the schema of a resource type knows, and the schema that it leads to. -/
def Leads (schema : ResourceSchema) (path : List String) (s : ValueSchema) : Prop :=
  ∃ name rest found, path = name :: rest ∧ lookup? name schema = some found ∧ Below found rest s

/-- The path with an index in place of each empty segment. -/
def filled (path : List String) : List String :=
  path.map fun segment => if segment = "" then "0" else segment

theorem not_mem_filled (path : List String) : "" ∉ filled path := by
  intro h
  obtain ⟨segment, -, hsegment⟩ := List.mem_map.mp h
  split_ifs at hsegment with hempty
  · exact absurd hsegment (by decide)
  · exact hempty hsegment

/-! ### Names of attributes -/

theorem IsNumeral.isIndex {segment : String} (h : IsNumeral segment) : isIndex segment = true := h.2

theorem plain_of_lookup? {attributes : List (String × ValueSchema)}
    (h : attributesPlain attributes = true) {name : String} {found : ValueSchema}
    (hfound : lookup? name attributes = some found) :
    isIndex name = false ∧ namesPlain found = true := by
  induction attributes with
  | nil => cases hfound
  | cons first attributes ih =>
      obtain ⟨key, schema⟩ := first
      simp only [attributesPlain, Bool.and_eq_true, Bool.not_eq_true'] at h
      obtain ⟨⟨hkey, hschema⟩, hrest⟩ := h
      rw [lookup?] at hfound
      split_ifs at hfound with heq
      · obtain rfl : key = name := by simpa using heq
        obtain rfl : schema = found := by simpa using hfound
        exact ⟨hkey, hschema⟩
      · exact ih hrest hfound

/-- What reads as an index is no attribute. -/
theorem lookup?_of_isIndex {attributes : List (String × ValueSchema)}
    (h : attributesPlain attributes = true) {segment : String} (hindex : isIndex segment = true) :
    lookup? segment attributes = none := by
  cases hfound : lookup? segment attributes with
  | none => rfl
  | some found =>
      rw [(plain_of_lookup? h hfound).1] at hindex
      cases hindex

/-! ### The look-up -/

theorem descend_missing (path : List String) : ValueSchema.missing.descend path = .missing := by
  cases path <;> rfl

theorem descend_append (s : ValueSchema) (front rest : List String) :
    s.descend (front ++ rest) = (s.descend front).descend rest := by
  induction front generalizing s with
  | nil => rfl
  | cons segment front ih =>
      rw [List.cons_append]
      cases s with
      | plain info => exact (descend_missing rest).symm
      | collection info element =>
          rw [descend, descend]
          split_ifs
          · exact ih element
          · exact (descend_missing rest).symm
      | nested info attributes =>
          rw [descend, descend]
          split_ifs
          · exact ih _
          · cases lookup? segment attributes with
            | none => exact (descend_missing rest).symm
            | some next => exact ih next

theorem attributeByPath_append (schema : ResourceSchema) {front : List String} (hfront : front ≠ [])
    (rest : List String) :
    schema.attributeByPath ⟨front ++ rest⟩ = (schema.attributeByPath ⟨front⟩).descend rest := by
  cases front with
  | nil => exact absurd rfl hfront
  | cons name front =>
      simp only [ResourceSchema.attributeByPath, List.cons_append]
      cases lookup? name schema with
      | none => exact (descend_missing rest).symm
      | some found => exact descend_append found front rest

theorem descend_indices (info : SchemaInfo) (attributes : List (String × ValueSchema))
    {indices : List String} (h : ∀ i ∈ indices, isIndex i = true) (rest : List String) :
    (ValueSchema.nested info attributes).descend (indices ++ rest) =
      (ValueSchema.nested info attributes).descend rest := by
  induction indices with
  | nil => rfl
  | cons i indices ih =>
      rw [List.forall_mem_cons] at h
      rw [List.cons_append, descend, if_pos h.1, ih h.2]

theorem attributeByPath_indices (schema : ResourceSchema) {front indices : List String}
    (hfront : (schema.attributeByPath ⟨front⟩).isNested = true)
    (h : ∀ i ∈ indices, isIndex i = true) (rest : List String) :
    schema.attributeByPath ⟨front ++ indices ++ rest⟩ =
      schema.attributeByPath ⟨front ++ rest⟩ := by
  have hne : front ≠ [] := by
    rintro rfl
    cases hfront
  rw [List.append_assoc, attributeByPath_append schema hne, attributeByPath_append schema hne]
  cases hblock : schema.attributeByPath ⟨front⟩ with
  | nested info attributes => exact descend_indices info attributes h rest
  | plain info =>
      rw [hblock] at hfront
      cases hfront
  | collection info element =>
      rw [hblock] at hfront
      cases hfront

theorem descend_of_below {s found : ValueSchema} {path : List String} (h : Below s path found)
    (hplain : namesPlain s = true) : s.descend path = found := by
  induction h with
  | here s => cases s <;> rfl
  | member hfound _ ih =>
      rw [namesPlain] at hplain
      obtain ⟨hname, hinner⟩ := plain_of_lookup? hplain hfound
      rw [descend, hname, hfound]
      exact ih hinner
  | block hindex _ ih =>
      rw [descend, if_pos hindex.isIndex]
      exact ih hplain
  | item hindex _ ih =>
      rw [descend, hindex.isIndex]
      exact ih hplain
  | entry hmap _ ih =>
      rw [descend, hmap, beq_self_eq_true, Bool.or_true, if_pos rfl]
      exact ih hplain

theorem below_of_descend {path : List String} (hpath : "" ∉ path) {s : ValueSchema}
    (h : s.descend path ≠ .missing) : Below s path (s.descend path) := by
  induction path generalizing s with
  | nil => cases s <;> exact .here _
  | cons segment path ih =>
      obtain ⟨hsegment, hpath⟩ := not_or.mp (mt List.mem_cons.mpr hpath)
      cases s with
      | plain info => exact absurd rfl h
      | collection info element =>
          rw [descend] at h ⊢
          split_ifs at h ⊢ with hstep
          · rcases Bool.or_eq_true_iff.mp hstep with hindex | hmap
            · exact .item ⟨Ne.symm hsegment, hindex⟩ (ih hpath h)
            · exact .entry (by simpa using hmap) (ih hpath h)
          · exact absurd rfl h
      | nested info attributes =>
          rw [descend] at h ⊢
          split_ifs at h ⊢ with hindex
          · exact .block ⟨Ne.symm hsegment, hindex⟩ (ih hpath h)
          · cases hfound : lookup? segment attributes with
            | none =>
                rw [hfound] at h
                exact absurd rfl h
            | some next =>
                rw [hfound] at h
                exact .member hfound (ih hpath h)

theorem descend_filled (s : ValueSchema) (path : List String) :
    s.descend (filled path) = s.descend path := by
  have hzero : isIndex "0" = true := by decide
  have hempty : isIndex "" = true := rfl
  induction path generalizing s with
  | nil => rfl
  | cons segment path ih =>
      change s.descend ((if segment = "" then "0" else segment) :: filled path) = _
      split_ifs with hsegment
      · subst hsegment
        cases s with
        | plain info => rfl
        | collection info element =>
            rw [descend, descend, hzero, hempty]
            exact ih element
        | nested info attributes =>
            rw [descend, descend, if_pos hzero, if_pos hempty]
            exact ih _
      · cases s with
        | plain info => rfl
        | collection info element => rw [descend, descend, ih]
        | nested info attributes =>
            rw [descend, descend, ih]
            cases lookup? segment attributes with
            | none => rfl
            | some next => simp only [ih next]

variable {schema : ResourceSchema}

/-- An empty segment is read as an index. -/
theorem attributeByPath_filled (hplain : attributesPlain schema = true) (path : List String) :
    schema.attributeByPath ⟨filled path⟩ = schema.attributeByPath ⟨path⟩ := by
  have hzero : isIndex "0" = true := by decide
  have hempty : isIndex "" = true := rfl
  cases path with
  | nil => rfl
  | cons name path =>
      change schema.attributeByPath ⟨(if name = "" then "0" else name) :: filled path⟩ = _
      split_ifs with hname
      · subst hname
        simp only [ResourceSchema.attributeByPath,
          lookup?_of_isIndex hplain hzero, lookup?_of_isIndex hplain hempty]
      · simp only [ResourceSchema.attributeByPath, descend_filled]

theorem attributeByPath_of_leads (hplain : attributesPlain schema = true) {path : List String}
    {s : ValueSchema} (h : Leads schema path s) : schema.attributeByPath ⟨path⟩ = s := by
  obtain ⟨name, rest, found, rfl, hfound, hbelow⟩ := h
  simp only [ResourceSchema.attributeByPath, hfound]
  exact descend_of_below hbelow (plain_of_lookup? hplain hfound).2

theorem leads_of_attributeByPath {path : List String} (hpath : "" ∉ path)
    (h : schema.attributeByPath ⟨path⟩ ≠ .missing) :
    Leads schema path (schema.attributeByPath ⟨path⟩) := by
  cases path with
  | nil => exact absurd rfl h
  | cons name rest =>
      obtain ⟨-, hrest⟩ := not_or.mp (mt List.mem_cons.mpr hpath)
      simp only [ResourceSchema.attributeByPath] at h ⊢
      cases hfound : lookup? name schema with
      | none =>
          rw [hfound] at h
          exact absurd rfl h
      | some found =>
          rw [hfound] at h
          exact ⟨name, rest, found, rfl, hfound, below_of_descend hrest h⟩

/-- In a schema whose names of attributes are neither empty nor made of digits only, indices behind
a nested block make no difference, and a path that the schema knows has the schema that it leads to.
A path that it does not know has the permissive schema exactly when it stays unknown, or leads to
nothing better, with an index in place of each empty segment; without empty segments it always
has. -/
theorem attributeByPath_reads_iff (schema : ResourceSchema)
    (hplain : attributesPlain schema = true) :
    (∀ front indices rest, (schema.attributeByPath ⟨front⟩).isNested = true →
      (∀ i ∈ indices, i.toList.all Char.isDigit = true) →
        schema.attributeByPath ⟨front ++ indices ++ rest⟩ =
          schema.attributeByPath ⟨front ++ rest⟩) ∧
      (∀ path s, Leads schema path s → schema.attributeByPath ⟨path⟩ = s) ∧
      ∀ path, (∀ s, ¬ Leads schema path s) →
        ((schema.attributeByPath ⟨path⟩ = .missing ↔
            ∀ s, Leads schema (filled path) s → s = .missing) ∧
          ("" ∉ path → schema.attributeByPath ⟨path⟩ = .missing)) := by
  refine ⟨fun front indices rest hfront h => attributeByPath_indices schema hfront h rest,
    fun path s => attributeByPath_of_leads hplain, fun path hunknown => ?_⟩
  refine ⟨⟨fun hmissing s hs => ?_, fun hleads => ?_⟩, fun hpath => ?_⟩
  · rw [← attributeByPath_of_leads hplain hs, attributeByPath_filled hplain, hmissing]
  · by_contra hfound
    rw [← attributeByPath_filled hplain] at hfound
    exact hfound (hleads _ (leads_of_attributeByPath (not_mem_filled path) hfound))
  · by_contra hfound
    exact hunknown _ (leads_of_attributeByPath hpath hfound)

/-- Blocks with a name, a map of blocks inside them and a list. -/
def ruleSchema : ResourceSchema :=
  [("rule", .nested (.ofType .list)
    [("id", .plain (.ofType .string)),
      ("labels", .collection (.ofType .map) (.plain (.ofType .string)))])]

theorem attributeByPath_reads_iff_rule :
    attributesPlain ruleSchema = true ∧
      (ruleSchema.attributeByPath ⟨["rule"]⟩).isNested = true ∧
      ruleSchema.attributeByPath ⟨["rule", "0", "12", "id"]⟩ =
        ruleSchema.attributeByPath ⟨["rule", "id"]⟩ ∧
      Leads ruleSchema ["rule", "0", "labels", "a b"] (.plain (.ofType .string)) ∧
      ruleSchema.attributeByPath ⟨["rule", "0", "labels", "a b"]⟩ = .plain (.ofType .string) := by
  have hleads : Leads ruleSchema ["rule", "0", "labels", "a b"] (.plain (.ofType .string)) :=
    ⟨"rule", _, _, rfl, rfl, .block ⟨by decide, by decide⟩ (.member rfl (.entry rfl (.here _)))⟩
  have hreads := attributeByPath_reads_iff ruleSchema (by decide)
  exact ⟨by decide, rfl, hreads.1 ["rule"] ["0", "12"] ["id"] rfl (by decide), hleads,
    hreads.2.1 _ _ hleads⟩

/-- The schema does not know the attribute with the empty name of a block, but finds the block
itself for it, so an object under that name is written as one more block. -/
theorem empty_segment_found :
    attributesPlain ruleSchema = true ∧ (∀ s, ¬ Leads ruleSchema ["rule", "0", ""] s) ∧
      ruleSchema.attributeByPath ⟨["rule", "0", ""]⟩ =
        ruleSchema.attributeByPath ⟨["rule", "0"]⟩ ∧
      ruleSchema.attributeByPath ⟨["rule", "0", ""]⟩ ≠ .missing ∧
      (⟨.none "t", ruleSchema⟩ : Resource.Rules).classify ⟨["rule", "0", ""]⟩ (.object []) =
        .blockObject := by
  refine ⟨by decide, ?_, rfl, ?_, by decide⟩
  · rintro s ⟨name, rest, found, hpath, hfound, hbelow⟩
    obtain ⟨rfl, rfl⟩ := List.cons.inj hpath
    obtain rfl := Option.some.inj hfound
    cases hbelow with
    | member hfound _ => cases hfound
    | block _ hrest =>
        cases hrest with
        | member hfound _ => cases hfound
        | block hindex _ => exact hindex.1 rfl
  · intro hmissing
    cases hmissing

end StackExport.Proofs.SchemaLookup
