import Mathlib
import StackExport.Proofs.DeclaredNames
import StackExport.Proofs.ResolutionSoundness
import StackExport.Proofs.WrittenResources
/-!
The resources that a configuration refers to.

Outputs and the references that resolution puts in place name resources by the addresses of the
mappings. Such a resource has its block in the same configuration, or it is reported as missing from
the state.
-/
namespace StackExport.Proofs.ResourceReferences

open StackExport
open StackExport.Proofs.CodeWords
open StackExport.Proofs.DeclaredNames
open StackExport.Proofs.ExpressionWords
open StackExport.Proofs.Lexemes
open StackExport.Proofs.LinkedTree
open StackExport.Proofs.LiteralReading
open StackExport.Proofs.NumeralReading
open StackExport.Proofs.ReferenceMeaning
open StackExport.Proofs.RenderedWords
open StackExport.Proofs.RenderingIndependence
open StackExport.Proofs.ResolutionSoundness
open StackExport.Proofs.WrittenResources

/-! ### What an expression mentions -/

/-- A name that begins the address of a resource. -/
def IsType (type : String) : Prop :=
  type ∉ qualifiers ∧ ∃ l ∈ type.toList.head?, Grammar.startsName l = true

/-- Some word of an expression begins with the address of a resource. -/
def Mentions (expression type name : String) : Prop :=
  ∃ word ∈ words (lexemes expression), ∃ rest, segments word = type :: name :: rest ∧ IsType type

/-- If a word begins with the address of a resource, it is that of a mapping. -/
structure Mapped (c : RenderContext) (word : List Char) : Prop where
  exists_mapping : ∀ type name rest, segments word = type :: name :: rest → IsType type →
    ∃ m ∈ c.mappings, m.type = type ∧ m.name = name

variable {c : RenderContext}

theorem mapped_of_first {first : String} (h : '.' ∉ first.toList) (hno : ¬IsType first)
    (rest : List Char) : Mapped c (first.toList ++ '.' :: rest) := by
  constructor
  intro type name tail heq htype
  rw [segments_append h, List.cons.injEq] at heq
  obtain ⟨rfl, -⟩ := heq
  exact absurd htype hno

theorem mapped_of_not_mem {word : List Char} (h : '.' ∉ word) : Mapped c word := by
  constructor
  intro type name rest heq
  rw [segments_of_not_mem h] at heq
  cases (List.cons.inj heq).2

theorem startsName_of_isDigit {l : Char} (h : l.isDigit = true) : Grammar.startsName l = false := by
  have hascii := toNat_lt_of_isAlphanum (c := l) (by rw [Char.isAlphanum, h, Bool.or_true])
  have hletter : l.isAlpha = false := by
    rw [Char.isDigit, Bool.and_eq_true, decide_eq_true_iff, decide_eq_true_iff] at h
    simp [Char.isAlpha, Char.isUpper, Char.isLower, UInt32.le_iff_toNat_le] at h ⊢
    omega
  have hunderscore : (l == '_') = false := by
    rw [beq_eq_false_iff_ne]
    rintro rfl
    cases h
  rw [Grammar.startsName, Text.isXidStart, if_pos hascii, hletter, hunderscore, Bool.or_self]

theorem not_startsName_of_numeral {l : Char} {rest : List Char} {q : ℚ}
    (h : numeral? (l :: rest) = some q) : Grammar.startsName l = false := by
  unfold numeral? at h
  split at h
  · next heq =>
      cases heq
      decide
  · by_cases hdigit : l.isDigit = true
    · exact startsName_of_isDigit hdigit
    · rw [magnitude?, List.takeWhile_cons_of_neg hdigit] at h
      cases h

theorem mapped_numeral {word : List Char} {q : ℚ} (h : numeral? word = some q) : Mapped c word := by
  by_cases hdot : '.' ∈ word
  · obtain ⟨first, rest, rfl, hfirst⟩ := exists_first hdot
    refine mapped_of_first hfirst ?_ rest
    rintro ⟨-, l, hl, hstarts⟩
    cases hname : first.toList with
    | nil =>
        rw [hname] at hl
        cases hl
    | cons d tail =>
        rw [hname] at hl h
        cases hl
        rw [not_startsName_of_numeral h] at hstarts
        cases hstarts
  · exact mapped_of_not_mem hdot

theorem mapped_resource (hnamed : Named c) {m : ResourceMapping} (hm : m ∈ c.mappings)
    (field : String) : Mapped c (m.address ++ "." ++ field).toList := by
  have hname : '.' ∉ m.name.toList := not_dot_of_isName (isName_label m.logicalId)
  constructor
  intro type name rest heq _
  rw [toList_resource, segments_append (not_dot_of_isName (hnamed.types m hm).1),
    segments_append hname] at heq
  cases heq
  exact ⟨m, hm, rfl, rfl⟩

theorem not_isType_of_mem {name : String} (h : name ∈ qualifiers) : ¬IsType name :=
  fun htype => htype.1 h

theorem admits_mapped (hnamed : Named c) : Admits c (fun _ => True) (Mapped c) where
  plain := fun _ => mapped_of_not_mem
  hanging := mapped_of_first (show '.' ∉ "".toList by decide) fun ⟨_, l, hl, _⟩ => by cases hl
  numeral := fun _ _ => mapped_numeral
  ofVariable := fun name _ _ => by
    rw [toList_variable]
    exact mapped_of_first (by decide) (not_isType_of_mem (by decide)) _
  ofDataSource := fun type name field _ _ _ => by
    rw [toList_dataSource]
    exact mapped_of_first (by decide) (not_isType_of_mem (by decide)) _
  ofResource := fun _ => mapped_resource hnamed
  ofLookUps := fun rest => mapped_of_first (show '.' ∉ "local".toList by decide)
    (not_isType_of_mem (by decide)) ("mappings".toList ++ rest)
  ofModule := fun path => by
    rw [toList_module]
    exact mapped_of_first (by decide) (not_isType_of_mem (by decide)) _

/-- An expression all of whose words are mapped mentions resources of the mappings. -/
theorem exists_mapping_of_mentions {expression type name : String}
    (h : ReadsText (Mapped c) expression) (hmentions : Mentions expression type name) :
    ∃ m ∈ c.mappings, m.type = type ∧ m.name = name := by
  obtain ⟨word, hword, rest, hsegments, htype⟩ := hmentions
  exact ((allWords_iff _).mp (h.words []) word hword).exists_mapping type name rest hsegments htype

theorem exists_mapping_of_rendering (hnamed : Named c) {call : Intrinsic}
    (hlegible : Legible c call) {r : Reference} (hr : rendering c call = .ok r)
    {type name : String} (hmentions : Mentions r.expression type name) :
    ∃ m ∈ c.mappings, m.type = type ∧ m.name = name := by
  rcases hrun : (c.render call none).run [] with ⟨result, ds⟩
  obtain rfl : result = .ok r := by
    rw [← hr, rendering, hrun]
  have hreads := (writes_render (admits_mapped hnamed) hnamed call none hlegible [] r ds hrun
    fun _ _ => trivial).1
  exact exists_mapping_of_mentions hreads hmentions

/-! ### References in a tree -/

mutual

/-- The references that a tree holds. -/
def references : AttributeTree → List Reference
  | .reference r => [r]
  | .list items => itemReferences items
  | .object entries => entryReferences entries
  | .document inner => references inner
  | _ => []

def itemReferences : List AttributeTree → List Reference
  | [] => []
  | item :: rest => references item ++ itemReferences rest

def entryReferences : List (String × AttributeTree) → List Reference
  | [] => []
  | (_, item) :: rest => references item ++ entryReferences rest

end

mutual

theorem references_ofJson : ∀ v : Json, references (.ofJson v) = []
  | .null | .bool _ | .number _ | .string _ => rfl
  | .array items => itemReferences_ofJson items
  | .object entries => entryReferences_ofJson entries

theorem itemReferences_ofJson : ∀ items : List Json,
    itemReferences (AttributeTree.ofJsonItems items) = []
  | [] => rfl
  | item :: rest => by
      rw [AttributeTree.ofJsonItems, itemReferences, references_ofJson item,
        itemReferences_ofJson rest, List.append_nil]

theorem entryReferences_ofJson : ∀ entries : List (String × Json),
    entryReferences (AttributeTree.ofJsonEntries entries) = []
  | [] => rfl
  | (_, item) :: rest => by
      rw [AttributeTree.ofJsonEntries, entryReferences, references_ofJson item,
        entryReferences_ofJson rest, List.append_nil]

end

theorem references_tree (r : StateResource) : references r.tree = [] := by
  rw [StateResource.tree]
  cases r.attributes with
  | none => rfl
  | some v => exact references_ofJson v

section

variable {traits : ResourceTraits} {link : Evaluated → Option Reference} {r : Reference}

-- By the derivation of the linked tree. Documents that are expanded hold no references when they have
-- been read, so theirs were all put in place.
mutual

/-- A reference was there before, or it is put in place of a value. -/
theorem Linked.mem_references : ∀ {scope : Scope} {tree after : AttributeTree} {n : Nat}
    {met : List Evaluated}, Linked traits link scope tree after n met →
    r ∈ references after → r ∈ references tree ∨ ∃ v, link v = some r
  | _, _, _, _, _, .untouched _, hr => .inl hr
  | _, _, _, _, _, .reference _ _ hl, hr => by
      obtain rfl := List.mem_singleton.mp hr
      exact .inr ⟨_, hl⟩
  | _, _, _, _, _, .leaf _ _ _, hr => .inl hr
  | _, _, _, _, _, .expanded _ _ _ h, hr => by
      rcases Linked.mem_references h hr with hold | hnew
      · rw [references_ofJson] at hold
        cases hold
      · exact .inr hnew
  | _, _, _, _, _, .list _ _ h, hr => LinkedItems.mem_references h hr
  | _, _, _, _, _, .object _ h, hr => LinkedEntries.mem_references h hr
  | _, _, _, _, _, .document _ h, hr => by
      rw [references] at hr ⊢
      exact Linked.mem_references h hr

theorem LinkedItems.mem_references : ∀ {scope : Scope} {index : Nat}
    {items after : List AttributeTree} {n : Nat} {met : List Evaluated},
    LinkedItems traits link scope index items after n met →
    r ∈ itemReferences after → r ∈ itemReferences items ∨ ∃ v, link v = some r
  | _, _, _, _, _, _, .nil, hr => .inl hr
  | _, _, _, _, _, _, .cons h hrest, hr => by
      rcases List.mem_append.mp hr with hr | hr
      · exact (Linked.mem_references h hr).imp_left (List.mem_append_left _)
      · exact (LinkedItems.mem_references hrest hr).imp_left (List.mem_append_right _)

theorem LinkedEntries.mem_references : ∀ {scope : Scope}
    {entries after : List (String × AttributeTree)} {n : Nat} {met : List Evaluated},
    LinkedEntries traits link scope entries after n met →
    r ∈ entryReferences after → r ∈ entryReferences entries ∨ ∃ v, link v = some r
  | _, _, _, _, _, .nil, hr => .inl hr
  | _, _, _, _, _, .cons h hrest, hr => by
      rcases List.mem_append.mp hr with hr | hr
      · exact (Linked.mem_references h hr).imp_left (List.mem_append_left _)
      · exact (LinkedEntries.mem_references hrest hr).imp_left (List.mem_append_right _)

end

end

/-! ### References of a configuration -/

section

variable (rules : Rulebook) (settings : Settings) (i : StackInputs)

/-- Resolution puts a reference into the attributes of some entry. -/
def Placed (r : Reference) : Prop :=
  ∃ e ∈ i.entries settings.module, ∃ m, e.mapping = some m ∧ ∃ ds,
    r ∈ references (resolve (contextOf rules i) (exportedStack rules settings i) m
      (rules.table.get e.resource.type) e.attributes ds).attributes

/-- An output or a reference that resolution puts in place mentions a resource. -/
def MentionedInMain (type name : String) : Prop :=
  (∃ o ∈ resolveOutputs i.mappings (exportedStack rules settings i),
      Mentions o.reference type name) ∨
    ∃ r, Placed rules settings i r ∧ Mentions r.expression type name

end

variable {rules : Rulebook} {settings : Settings} {i : StackInputs}

theorem reference_of_outputValue? {mappings : List ResourceMapping} {s : Stack} {o : TemplateOutput}
    {value : OutputValue} (h : outputValue? mappings s o = some value) :
    ∃ m ∈ mappings, value.reference = m.address ++ "." ++ "arn" ∨
      value.reference = m.address ++ "." ++ "id" := by
  have harn : ".arn" = "." ++ "arn" := by decide
  have hid : ".id" = "." ++ "id" := by decide
  have hcases (address : String) (isName : Bool) :
      address ++ (if isName then ".arn" else ".id") = address ++ "." ++ "arn" ∨
        address ++ (if isName then ".arn" else ".id") = address ++ "." ++ "id" := by
    rw [harn, hid, String.append_assoc, String.append_assoc]
    cases isName with
    | true => exact .inl rfl
    | false => exact .inr rfl
  unfold outputValue? at h
  split at h
  · obtain ⟨m, hm, rfl⟩ := Option.map_eq_some_iff.mp h
    exact ⟨m, List.mem_of_find?_eq_some hm, hcases m.address _⟩
  · cases h

theorem exists_mapping_of_output (hnamed : Named c) {s : Stack} {o : OutputValue}
    (ho : o ∈ resolveOutputs c.mappings s) {type name : String}
    (hmentions : Mentions o.reference type name) :
    ∃ m ∈ c.mappings, m.type = type ∧ m.name = name := by
  obtain ⟨output, -, hvalue⟩ := List.mem_filterMap.mp ho
  obtain ⟨m, hm, hreference⟩ := reference_of_outputValue? hvalue
  have hreads (field : String) (hfield : IsPath field) :
      ReadsText (Mapped c) (m.address ++ "." ++ field) := by
    refine reads_path ?_ (mapped_resource hnamed hm field)
    exact isPath_append (isPath_append (isPath_address hnamed hm) isPath_dot) hfield
  refine exists_mapping_of_mentions ?_ hmentions
  rcases hreference with hreference | hreference
  · rw [hreference]
    exact hreads "arn" (isPath_of_isWord (by decide))
  · rw [hreference]
    exact hreads "id" (isPath_of_isWord (by decide))

theorem mem_callsOf {m : ResourceMapping} {call : Intrinsic} (h : call ∈ callsOf c m) :
    ∃ resource ∈ c.template.resources, call ∈ resource.properties.intrinsics := by
  unfold callsOf at h
  split at h
  · next resource hresource => exact ⟨resource, List.mem_of_find?_eq_some hresource, h⟩
  · cases h

/-- A reference that is put in place renders a call of the template. -/
theorem exists_call_of_placed {r : Reference} (h : Placed rules settings i r) :
    ∃ resource ∈ i.template.resources, ∃ call ∈ resource.properties.intrinsics,
      rendering (contextOf rules i) call = .ok r := by
  obtain ⟨e, he, m, -, ds, hr⟩ := h
  have hold : references e.attributes = [] := by
    obtain ⟨resource, -, rfl⟩ := List.mem_map.mp (List.mem_mergeSort.mp he)
    exact references_tree resource
  rcases unchanged_or_soundlyResolved (contextOf rules i) (exportedStack rules settings i) m
    (rules.table.get e.resource.type) e.attributes ds with ⟨-, hsame, -⟩ | ⟨met, hlinked, -⟩
  · rw [hsame, hold] at hr
    cases hr
  · rcases Linked.mem_references hlinked hr with hr | ⟨v, hv⟩
    · rw [hold] at hr
      cases hr
    · obtain ⟨call, hcall, -, hrendering⟩ := exists_call_of_link hv
      obtain ⟨resource, hresource, hmem⟩ := mem_callsOf hcall
      exact ⟨resource, hresource, call, hmem, hrendering⟩

/-- A mapping has a managed resource of the exported module, or a warning says that it has none. -/
theorem managed_or_missing {m : ResourceMapping} (hm : m ∈ i.mappings) (module : Option String) :
    (∃ r ∈ i.state.managed module, r.type = m.type ∧ r.name = m.name) ∨
      missingWarning m ∈ i.missingWarnings module := by
  by_cases hfound : (i.foundEntries module).any (·.mapping == some m) = true
  · obtain ⟨e, he, hmapping⟩ := List.any_eq_true.mp hfound
    obtain ⟨r, hr, rfl⟩ := List.mem_map.mp he
    have haddress := List.find?_some (beq_iff_eq.mp hmapping)
    rw [Bool.and_eq_true, beq_iff_eq, beq_iff_eq] at haddress
    exact .inl ⟨r, hr, haddress.1.symm, haddress.2.symm⟩
  · refine .inr (List.mem_map_of_mem (List.mem_filter.mpr ⟨hm, ?_⟩))
    rw [Bool.not_eq_true] at hfound
    rw [hfound]
    rfl

/-- Outputs and references that are put in place mention resources of the mappings only. Each of
these has its block in the configuration, or it is reported as missing from the state. -/
theorem mentioned_written_or_missing (rules : Rulebook) (settings : Settings) (i : StackInputs)
    (docs : Documents) (h : writeDocuments rules settings i = .ok docs)
    (hnamed : Named (contextOf rules i))
    (hlegible : ∀ resource ∈ i.template.resources, ∀ call ∈ resource.properties.intrinsics,
      Legible (contextOf rules i) call)
    (type name : String) (hmentioned : MentionedInMain rules settings i type name) :
    ∃ m ∈ i.mappings, m.type = type ∧ m.name = name ∧
      ((∃ r ∈ i.state.managed settings.module, r.type = type ∧ r.name = name) ∧
          (Untouched (assembled rules settings i).declarations.inputs (opening type name) →
            HasLine docs.main (opening type name)) ∨
        missingWarning m ∈ docs.diagnostics) := by
  obtain ⟨hwritten, hwarned⟩ := opening_written h
  obtain ⟨m, hm, rfl, rfl⟩ : ∃ m ∈ i.mappings, m.type = type ∧ m.name = name := by
    rcases hmentioned with ⟨o, ho, hmentions⟩ | ⟨r, hr, hmentions⟩
    · exact exists_mapping_of_output (c := contextOf rules i) hnamed ho hmentions
    · obtain ⟨resource, hresource, call, hcall, hrendering⟩ := exists_call_of_placed hr
      exact exists_mapping_of_rendering hnamed (hlegible resource hresource call hcall) hrendering
        hmentions
  refine ⟨m, hm, rfl, rfl, ?_⟩
  rcases managed_or_missing hm settings.module with ⟨r, hr, htype, hname⟩ | hmissing
  · refine .inl ⟨⟨r, hr, htype, hname⟩, fun huntouched => ?_⟩
    rw [← htype, ← hname] at huntouched ⊢
    exact hwritten r hr huntouched
  · exact .inr (hwarned _ hmissing)

def bucket : ResourceMapping := ⟨"Bucket", "AWS::S3::Bucket", "aws_s3_bucket", "data", none⟩

def bucketTemplate : Template :=
  { Template.empty with
    resources := [⟨"Bucket", "AWS::S3::Bucket", .object [], [], none⟩]
    outputs := [⟨"Name", .intrinsic (.ref "Bucket"), none⟩] }

def bucketInputs (resources : List StateResource) : StackInputs :=
  ⟨bucketTemplate, ⟨4, "1.9.0", resources⟩, [bucket], []⟩

def bucketResource : StateResource := ⟨"managed", "aws_s3_bucket", "Bucket", none, "aws", []⟩

def plainRules : Rulebook := ⟨⟨.none "", []⟩, []⟩

def plainSettings : Settings := ⟨"demo", "eu-west-1", "123456789012", none, false, 3, none, ""⟩

theorem mentions_bucket : Mentions "aws_s3_bucket.Bucket.id" "aws_s3_bucket" "Bucket" := by
  refine ⟨"aws_s3_bucket.Bucket.id".toList, by decide, ["id"], by decide, by decide, 'a', ?_, ?_⟩
  · rfl
  · decide

theorem mentionedInMain_bucket (resources : List StateResource)
    (h : resolveOutputs [bucket] (exportedStack plainRules plainSettings (bucketInputs resources)) =
      [⟨"Name", "aws_s3_bucket.Bucket.id", none⟩]) :
    MentionedInMain plainRules plainSettings (bucketInputs resources) "aws_s3_bucket" "Bucket" := by
  have hmem : OutputValue.mk "Name" "aws_s3_bucket.Bucket.id" none ∈
      resolveOutputs [bucket] (exportedStack plainRules plainSettings (bucketInputs resources)) := by
    rw [h]
    exact List.mem_cons_self
  exact .inl ⟨_, hmem, mentions_bucket⟩

theorem mentioned_written_or_missing_bucket :
    ∃ docs, writeDocuments plainRules plainSettings (bucketInputs [bucketResource]) = .ok docs ∧
      MentionedInMain plainRules plainSettings (bucketInputs [bucketResource])
        "aws_s3_bucket" "Bucket" ∧
      ∃ m ∈ [bucket], m.type = "aws_s3_bucket" ∧ m.name = "Bucket" ∧
        ((∃ r ∈ (bucketInputs [bucketResource]).state.managed none,
              r.type = "aws_s3_bucket" ∧ r.name = "Bucket") ∧
            (Untouched
                (assembled plainRules plainSettings (bucketInputs [bucketResource])).declarations.inputs
                (opening "aws_s3_bucket" "Bucket") →
              HasLine docs.main (opening "aws_s3_bucket" "Bucket")) ∨
          missingWarning m ∈ docs.diagnostics) := by
  have hsome : (writeDocuments plainRules plainSettings
      (bucketInputs [bucketResource])).toOption.isSome = true := by decide +kernel
  rcases hrun : writeDocuments plainRules plainSettings (bucketInputs [bucketResource]) with
    fault | docs
  · rw [hrun] at hsome
    cases hsome
  · have hnamed : Named (contextOf plainRules (bucketInputs [bucketResource])) := by
      refine ⟨nofun, fun m hm => ?_⟩
      obtain rfl := List.mem_singleton.mp hm
      exact ⟨isName_of_all (by decide), by decide⟩
    have hlegible : ∀ resource ∈ bucketTemplate.resources,
        ∀ call ∈ resource.properties.intrinsics,
          Legible (contextOf plainRules (bucketInputs [bucketResource])) call := by
      intro resource hresource call hcall
      obtain rfl := List.mem_singleton.mp hresource
      cases hcall
    have hmentioned := mentionedInMain_bucket [bucketResource] (by cbv)
    exact ⟨docs, rfl, hmentioned,
      mentioned_written_or_missing _ _ _ docs hrun hnamed hlegible _ _ hmentioned⟩

/-- What is written when the state lacks the bucket. -/
def missingMain : String :=
  "terraform \x7b\n  required_providers \x7b\n    aws = \x7b\n      source = \"hashicorp/aws\"\n" ++
    "    \x7d\n  \x7d\n\x7d\n\nprovider \"aws\" \x7b\n  region = \"eu-west-1\"\n\x7d\n\n" ++
    "output \"Name\" \x7b\n  value = aws_s3_bucket.Bucket.id\n\x7d\n\n"

/-- An output refers to a bucket that the state lacks, and no block is written for it. -/
theorem missing_resource_mentioned :
    ∃ docs, writeDocuments plainRules plainSettings (bucketInputs []) = .ok docs ∧
      docs.main = missingMain ∧
      MentionedInMain plainRules plainSettings (bucketInputs []) "aws_s3_bucket" "Bucket" ∧
      ¬HasLine docs.main (opening "aws_s3_bucket" "Bucket") := by
  have hmain : (writeDocuments plainRules plainSettings (bucketInputs [])).toOption.map
      Documents.main = some missingMain := by decide +kernel
  have hno : opening "aws_s3_bucket" "Bucket" ∉ (Script.ofText missingMain).lines := by
    decide +kernel
  obtain ⟨docs, hrun, hdocs⟩ := Option.map_eq_some_iff.mp hmain
  have hrun : writeDocuments plainRules plainSettings (bucketInputs []) = .ok docs := by
    revert hrun
    cases writeDocuments plainRules plainSettings (bucketInputs []) with
    | ok found => exact fun h => congrArg _ (Option.some.inj h)
    | error fault => exact nofun
  refine ⟨docs, hrun, hdocs, mentionedInMain_bucket [] (by cbv), fun hline => ?_⟩
  rw [hdocs] at hline
  exact hno (mem_lines_of_hasLine hline (isLine_opening _ _))

end StackExport.Proofs.ResourceReferences
