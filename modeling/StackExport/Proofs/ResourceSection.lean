import Mathlib.Data.List.Forall2
import StackExport.Proofs.CreationOrder
import StackExport.Proofs.ResolutionSoundness
import StackExport.Proofs.WrittenResources
/-!
The resources of a configuration.

Each managed resource of the exported module has a block of its own, which is what the writer makes
of it alone. The blocks stand in the order of the template, which is one in which the resources can
be created, and in the order of the state where the template does not tell.
-/
namespace StackExport.Proofs.ResourceSection

open StackExport
open StackExport.Template
open StackExport.Proofs.BodyLines
open StackExport.Proofs.CreationOrder
open StackExport.Proofs.RepairIndependence
open StackExport.Proofs.ResolutionSoundness
open StackExport.Proofs.TemplateDependencies
open StackExport.Proofs.WrittenResources
open Relation (TransGen)

/-! ### Order -/

/-- The resource of the template that an entry stands for. -/
def place? (t : Template) (e : StackEntry) : Option String :=
  (e.mapping.map (·.logicalId)).filter fun id => t.resources.any (·.id == id)

/-- Entries that follow what they depend on, those of the template first, and otherwise in the order
in which they were found. -/
structure InCreationOrder (t : Template) (found entries : List StackEntry) : Prop where
  perm : entries.Perm found
  dependenciesFirst : ∀ (i j : Nat) (a b : StackEntry) (m n : ResourceMapping),
    entries[i]? = some a → entries[j]? = some b → a.mapping = some m → b.mapping = some n →
      TransGen (DependsOn t) m.logicalId n.logicalId → ¬ReachesCycle t m.logicalId → j < i
  knownFirst : ∀ (i j : Nat) (a b : StackEntry), entries[i]? = some a → entries[j]? = some b →
    place? t a = none → (place? t b).isSome → j < i
  stable : ∀ place, entries.filter (fun e => place? t e == place) =
    found.filter fun e => place? t e == place

section Order

variable {t : Template} {order : List String} {found : List StackEntry} {e a b : StackEntry}
  {m n : ResourceMapping}

theorem rank_of_mapping (h : e.mapping = some m) : e.rank order = order.idxOf m.logicalId := by
  rw [StackEntry.rank, h]
  dsimp only
  cases hfind : order.findIdx? (· == m.logicalId) with
  | none => exact (List.findIdx?_eq_none_iff_findIdx_eq.mp hfind).symm
  | some i => exact (List.findIdx?_eq_some_iff_findIdx_eq.mp hfind).2.symm

/-- An entry has the place of its resource in the order, or none and comes last. -/
theorem rank_eq (h : IsCreationOrder t order) (e : StackEntry) :
    e.rank order = ((place? t e).map (order.idxOf ·)).getD order.length := by
  cases hmapping : e.mapping with
  | none => simp [StackEntry.rank, place?, hmapping]
  | some m =>
      rw [rank_of_mapping hmapping, place?, hmapping, Option.map_some, Option.filter_some]
      split_ifs with hany
      · rfl
      · exact List.idxOf_eq_length (mt (h.mem_iff _).mp (mt any_id_iff.mpr hany))

theorem rank_of_place? (h : IsCreationOrder t order) (hplace : place? t a = none) :
    a.rank order = order.length := by
  rw [rank_eq h, hplace]
  rfl

theorem rank_lt_of_place? (h : IsCreationOrder t order) (hplace : (place? t b).isSome) :
    b.rank order < order.length := by
  obtain ⟨id, hid⟩ := Option.isSome_iff_exists.mp hplace
  rw [rank_eq h, hid]
  refine List.idxOf_lt_length_of_mem ((h.mem_iff id).mpr (any_id_iff.mp ?_))
  exact (Option.filter_eq_some_iff.mp hid).2

theorem hasResource_of_transGen {x y : String} (h : TransGen (DependsOn t) x y) :
    HasResource t x := by
  cases h using TransGen.head_induction_on with
  | single hdep => exact (hasResource_of_dependsOn hdep).1
  | head hdep => exact (hasResource_of_dependsOn hdep).1

theorem rank_lt_of_transGen (h : IsCreationOrder t order) (ha : a.mapping = some m)
    (hb : b.mapping = some n) (hdep : TransGen (DependsOn t) m.logicalId n.logicalId)
    (hcycle : ¬ReachesCycle t m.logicalId) : b.rank order < a.rank order := by
  obtain ⟨before, after, heq⟩ :=
    List.append_of_mem ((h.mem_iff _).mpr (hasResource_of_transGen hdep))
  have hmem := h.mem_before hdep hcycle heq
  have hnodup := h.once
  rw [heq, List.nodup_append] at hnodup
  have hnot : m.logicalId ∉ before := fun hm => hnodup.2.2 _ hm _ List.mem_cons_self rfl
  rw [rank_of_mapping ha, rank_of_mapping hb, heq, List.idxOf_append_of_mem hmem,
    List.idxOf_append_of_notMem hnot, List.idxOf_cons_self, Nat.add_zero]
  exact List.idxOf_lt_length_of_mem hmem

theorem lt_of_rank_lt {entries : List StackEntry}
    (hsorted : entries.Pairwise fun a b => decide (a.rank order ≤ b.rank order) = true)
    {i j : Nat} (ha : entries[i]? = some a) (hb : entries[j]? = some b)
    (hrank : b.rank order < a.rank order) : j < i := by
  obtain ⟨hi, rfl⟩ := List.getElem?_eq_some_iff.mp ha
  obtain ⟨hj, rfl⟩ := List.getElem?_eq_some_iff.mp hb
  by_contra hle
  rcases Nat.lt_or_eq_of_le (Nat.le_of_not_lt hle) with hlt | rfl
  · have hpair := List.pairwise_iff_getElem.mp hsorted i j hi hj hlt
    rw [decide_eq_true_iff] at hpair
    omega
  · exact Nat.lt_irrefl _ hrank

theorem inCreationOrder (h : IsCreationOrder t order) (found : List StackEntry) :
    InCreationOrder t found (found.mergeSort fun a b => a.rank order ≤ b.rank order) := by
  have htrans (a b c : StackEntry) (hab : decide (a.rank order ≤ b.rank order) = true)
      (hbc : decide (b.rank order ≤ c.rank order) = true) :
      decide (a.rank order ≤ c.rank order) = true := by
    rw [decide_eq_true_iff] at *
    exact hab.trans hbc
  have htotal (a b : StackEntry) :
      (decide (a.rank order ≤ b.rank order) || decide (b.rank order ≤ a.rank order)) = true := by
    simpa using Nat.le_total _ _
  have hsorted := List.pairwise_mergeSort htrans htotal found
  refine ⟨List.mergeSort_perm _ _, ?_, ?_, ?_⟩
  · intro i j a b m n hi hj ha hb hdep hcycle
    exact lt_of_rank_lt hsorted hi hj (rank_lt_of_transGen h ha hb hdep hcycle)
  · intro i j a b hi hj ha hb
    refine lt_of_rank_lt hsorted hi hj ?_
    rw [rank_of_place? h ha]
    exact rank_lt_of_place? h hb
  · intro place
    rw [mergeSort_filter htrans htotal]
    apply List.mergeSort_of_pairwise
    rw [List.pairwise_iff_forall_sublist]
    intro a b hab
    have hplace : ∀ e ∈ [a, b], place? t e = place := fun e he => by
      simpa using (List.mem_filter.mp (hab.subset he)).2
    rw [decide_eq_true_iff, rank_eq h a, rank_eq h b, hplace a (by simp), hplace b (by simp)]

end Order

/-! ### Blocks -/

/-- A text is the block that the writer makes of a resource alone. -/
def IsBlock (rules : Rulebook) (r : StateResource) (attributes : AttributeTree) (block : String) :
    Prop :=
  Resource.write (rules.table.get r.type) (rules.events r attributes) = .ok block ∧
    ∃ body, block = resourceOpening r.type r.name ++ body ++ "\x7d\n\n"

/-- There is a block for each entry, which is resolved with the declarations that those before it
have led to. -/
inductive Blocks (rules : Rulebook) (c : RenderContext) (s : Stack) :
    Declarations → List StackEntry → List String → Prop where
  | nil (declarations : Declarations) : Blocks rules c s declarations [] []
  | cons {declarations : Declarations} {e : StackEntry} {rest : List StackEntry} {block : String}
      {blocks : List String} :
      IsBlock rules e.resource (resolvedEntry rules c s declarations e).attributes block →
      Blocks rules c s (resolvedEntry rules c s declarations e).declarations rest blocks →
      Blocks rules c s declarations (e :: rest) (block :: blocks)

variable {rules : Rulebook} {c : RenderContext} {s : Stack}

theorem isError_of_mem_warnings {d : Diagnostic} {declarations : Declarations} {e : StackEntry}
    (h : d ∈ (resolvedEntry rules c s declarations e).warnings) : d.isError = false := by
  unfold resolvedEntry at h
  split at h
  · rw [resolve_eq c s _ _ _ _ rfl] at h
    split at h
    · cases h
    · obtain ⟨candidate, -, hwarning⟩ := List.mem_filterMap.mp h
      unfold Candidate.warning? at hwarning
      split at hwarning
      · obtain rfl := Option.some_inj.mp hwarning
        rfl
      · cases hwarning
  · cases h

/-- Every entry adds its block, and nothing that it has to report is an error. -/
theorem exists_blocks {x : Assembly} (h : Whole rules x) (entries : List StackEntry) :
    ∃ blocks warnings, Blocks rules c s x.declarations entries blocks ∧
      (entries.foldl (Assembly.add rules c s) x).emitter.text =
        x.emitter.text ++ String.join blocks ∧
      (entries.foldl (Assembly.add rules c s) x).diagnostics = x.diagnostics ++ warnings ∧
      ∀ d ∈ warnings, d.isError = false := by
  induction entries generalizing x with
  | nil => exact ⟨[], [], .nil _, by simp, by simp, nofun⟩
  | cons e entries ih =>
      have hadd := add_eq rules c s x e
      obtain ⟨emitter, hrun, hidle, htable, htext⟩ := emitAll_events h.idle h.table_eq e.resource
        (resolvedEntry rules c s x.declarations e).attributes
      simp only [hrun, List.append_nil] at hadd
      obtain ⟨blocks, warnings, hblocks, hrest, hdiagnostics, hwarnings⟩ :=
        ih (whole_add (c := c) (s := s) h e).1
      rw [List.foldl_cons, hrest, hdiagnostics]
      simp only [hadd] at hblocks ⊢
      refine ⟨_ :: blocks, (resolvedEntry rules c s x.declarations e).warnings ++ warnings,
        .cons ⟨events_text _ _ _ _ _, _, rfl⟩ hblocks, ?_, List.append_assoc _ _ _, ?_⟩
      · rw [htext, String.join_cons, String.append_assoc]
        rfl
      · exact List.forall_mem_append.mpr ⟨fun d hd => isError_of_mem_warnings hd, hwarnings⟩

theorem exists_documents (rules : Rulebook) {settings : Settings} (i : StackInputs)
    (hregion : settings.region ≠ "") : ∃ docs, writeDocuments rules settings i = .ok docs := by
  have hblock (tag : Option String) : ∃ text, Provider.block settings.region tag = .ok text := by
    rw [Provider.block, if_neg (by simpa using hregion)]
    exact ⟨_, rfl⟩
  obtain ⟨text, htext⟩ :=
    hblock (if settings.addDefaultTag then some settings.stackName else none)
  unfold writeDocuments
  rw [htext]
  exact ⟨_, rfl⟩

theorem isError_of_mem_missing {i : StackInputs} {module : Option String} {d : Diagnostic}
    (h : d ∈ i.missingWarnings module) : d.isError = false := by
  obtain ⟨m, -, rfl⟩ := List.mem_map.mp h
  rfl

/-- The resources make up a part of the configuration in which each managed resource of the module
has its block, in the order of the entries. -/
structure ResourcesWritten (rules : Rulebook) (settings : Settings) (i : StackInputs)
    (docs : Documents) : Prop where
  main : ∃ provider, docs.main = draft rules settings i provider ∨
    docs.main = ((Script.ofText (draft rules settings i provider)).referToAll
      (assembled rules settings i).declarations.inputs).1.text
  blocks : ∃ blocks, (assembled rules settings i).finish = (String.join blocks, []) ∧
    Blocks rules (contextOf rules i) (exportedStack rules settings i) (.ofTemplate i.template)
      (i.entries settings.module) blocks
  perm : ((i.entries settings.module).map (·.resource)).Perm (i.state.managed settings.module)
  inOrder : InCreationOrder i.template (i.foundEntries settings.module) (i.entries settings.module)
  noError : ∀ d ∈ docs.diagnostics, d.isError = false

/-- With a region all managed resources of a module are written: none is lost, written twice or
reported, and those that the template knows come first, each behind what it depends on. The
identifiers of a parsed template are distinct. -/
theorem resources_written (rules : Rulebook) (settings : Settings) (i : StackInputs)
    (hregion : settings.region ≠ "") (hids : (i.template.resources.map (·.id)).Nodup) :
    ∃ docs, writeDocuments rules settings i = .ok docs ∧
      ResourcesWritten rules settings i docs := by
  obtain ⟨docs, hdocs⟩ := exists_documents rules i hregion
  obtain ⟨provider, -, hmain, hreported⟩ := exists_draft hdocs
  have hfresh := whole_fresh rules (.ofTemplate i.template) (i.missingWarnings settings.module)
  obtain ⟨blocks, warnings, hblocks, htext, hdiagnostics, hwarnings⟩ := exists_blocks
    (c := contextOf rules i) (s := exportedStack rules settings i) hfresh
    (i.entries settings.module)
  have hfinish : (assembled rules settings i).finish = (String.join blocks, []) := by
    rw [finish_of_whole (assembled_spec rules settings i).1]
    exact congrArg (·, []) (htext.trans String.empty_append)
  obtain ⟨order, horder, hcreation⟩ := exists_order hids
  have hentries : i.entries settings.module = (i.foundEntries settings.module).mergeSort
      fun a b => a.rank order ≤ b.rank order := by
    rw [StackInputs.entries, resourceOrder, horder, Option.getD_some]
  have hinorder := inCreationOrder hcreation (i.foundEntries settings.module)
  rw [← hentries] at hinorder
  refine ⟨docs, hdocs, ⟨provider, hmain⟩, ⟨blocks, hfinish, hblocks⟩, ?_, hinorder, ?_⟩
  · have hperm := hinorder.perm.map (·.resource)
    have hfound : (i.foundEntries settings.module).map (·.resource) =
        i.state.managed settings.module := by
      rw [StackInputs.foundEntries, List.map_map]
      exact List.map_id _
    rwa [hfound] at hperm
  · rw [hreported, hfinish, List.append_nil]
    intro d hd
    have hassembled : (assembled rules settings i).diagnostics =
      i.missingWarnings settings.module ++ warnings := hdiagnostics
    rw [hassembled] at hd
    rcases List.mem_append.mp hd with hd | hd
    · exact isError_of_mem_missing hd
    · exact hwarnings d hd

/-! ### A stack of three resources -/

def policyTemplate : Template :=
  { Template.empty with resources := [
    ⟨"Policy", "AWS::S3::BucketPolicy", .object [("Bucket", .intrinsic (.ref "Bucket"))], [], none⟩,
    ⟨"Bucket", "AWS::S3::Bucket", .object [], [], none⟩] }

/-- The state has a resource that belongs to no pair, a policy and the bucket that it is for. -/
def policyInputs : StackInputs where
  template := policyTemplate
  state := ⟨4, "1.9.0", [
    ⟨"managed", "aws_iam_role", "role", none, "aws", []⟩,
    ⟨"managed", "aws_s3_bucket_policy", "Policy", none, "aws", []⟩,
    ⟨"managed", "aws_s3_bucket", "Bucket", none, "aws", []⟩]⟩
  mappings := [
    ⟨"Policy", "AWS::S3::BucketPolicy", "aws_s3_bucket_policy", "data", none⟩,
    ⟨"Bucket", "AWS::S3::Bucket", "aws_s3_bucket", "data", none⟩]
  modules := []

def regionSettings : Settings := ⟨"demo", "eu-west-1", "123456789012", none, false, 3, none, ""⟩

def bareRules : Rulebook := ⟨⟨.none "", []⟩, []⟩

theorem resources_written_policy :
    regionSettings.region ≠ "" ∧ (policyTemplate.resources.map (·.id)).Nodup ∧
      (policyInputs.entries none).map (·.resource.name) = ["Bucket", "Policy", "role"] ∧
      ∃ docs, writeDocuments bareRules regionSettings policyInputs = .ok docs ∧
        ResourcesWritten bareRules regionSettings policyInputs docs := by
  have hregion : regionSettings.region ≠ "" := by decide
  have hids : (policyTemplate.resources.map (·.id)).Nodup := by decide
  exact ⟨hregion, hids, by cbv,
    resources_written bareRules regionSettings policyInputs hregion hids⟩

end StackExport.Proofs.ResourceSection
