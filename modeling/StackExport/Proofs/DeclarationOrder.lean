import Mathlib.Data.List.Nodup
import Mathlib.Data.Prod.Lex
import Mathlib.Data.String.Basic
import StackExport.Proofs.RegisteredDeclarations
/-!
The text of declarations that are registered in one order or another.

Declarations are written sorted: variables by name, data sources by name and type. Two that agree in
what they are sorted by have the same address, so no two that are kept do.
-/
namespace StackExport.Proofs.DeclarationOrder

open StackExport
open StackExport.Declarations
open StackExport.Proofs.RegisteredDeclarations

/-- One declaration for each address, which may stand several times. -/
def Consistent (calls : Declarations) : Prop :=
  ∀ d ∈ calls, ∀ d' ∈ calls, d.address = d'.address → d = d'

instance (calls : Declarations) : Decidable (Consistent calls) :=
  inferInstanceAs (Decidable (∀ d ∈ calls, ∀ d' ∈ calls, d.address = d'.address → d = d'))

/-- The declarations in the order of their blocks. -/
def written (ds : Declarations) : Declarations :=
  ds.sortedVariables.map .variable ++ ds.sortedDataSources.map .dataSource

variable {ds ds' calls calls' : Declarations} {d : Declaration}

theorem Consistent.of_perm (hcalls : Consistent calls) (h : calls.Perm calls') :
    Consistent calls' := fun d hd d' hd' =>
  hcalls d (h.mem_iff.mpr hd) d' (h.mem_iff.mpr hd')

/-! ### What is kept -/

theorem mem_calls_of_mem (h : d ∈ registerAll [] calls) : d ∈ calls :=
  (mem_of_mem_registerAll h).resolve_left List.not_mem_nil

theorem exists_kept (h : d ∈ calls) : ∃ kept ∈ registerAll [] calls, kept.address = d.address := by
  have hhas : (registerAll [] calls).has d.address = true := by
    rw [has_registerAll, Bool.or_eq_true]
    exact .inr (List.any_eq_true.mpr ⟨d, h, beq_self_eq_true _⟩)
  obtain ⟨kept, hkept, haddress⟩ := List.any_eq_true.mp hhas
  exact ⟨kept, hkept, eq_of_beq haddress⟩

theorem mem_registerAll_iff (h : Consistent calls) : d ∈ registerAll [] calls ↔ d ∈ calls := by
  refine ⟨mem_calls_of_mem, fun hd => ?_⟩
  obtain ⟨kept, hkept, haddress⟩ := exists_kept hd
  rwa [← h kept (mem_calls_of_mem hkept) d hd haddress]

theorem nodup_addresses (calls : Declarations) :
    ((registerAll [] calls).map Declaration.address).Nodup :=
  @nodup_registerAll [] List.nodup_nil calls

theorem nodup_kept (calls : Declarations) : (registerAll [] calls).Nodup :=
  (List.pairwise_map.mp (nodup_addresses calls)).imp fun hne heq =>
    hne (congrArg Declaration.address heq)

theorem mem_addresses_iff {address : String} :
    address ∈ (registerAll [] calls).map Declaration.address ↔
      address ∈ calls.map Declaration.address := by
  constructor
  · intro h
    obtain ⟨d, hd, rfl⟩ := List.mem_map.mp h
    exact List.mem_map_of_mem (mem_calls_of_mem hd)
  · intro h
    obtain ⟨d, hd, rfl⟩ := List.mem_map.mp h
    obtain ⟨kept, hkept, haddress⟩ := exists_kept hd
    exact List.mem_map.mpr ⟨kept, hkept, haddress⟩

theorem count_address (calls : Declarations) (address : String) :
    ((registerAll [] calls).map Declaration.address).count address =
      if address ∈ calls.map Declaration.address then 1 else 0 := by
  split
  · next h => exact List.count_eq_one_of_mem (nodup_addresses calls) (mem_addresses_iff.mpr h)
  · next h => exact List.count_eq_zero_of_not_mem (mt mem_addresses_iff.mp h)

theorem registerAll_perm (h : calls.Perm calls') (hcalls : Consistent calls) :
    (registerAll [] calls).Perm (registerAll [] calls') := by
  refine (List.perm_ext_iff_of_nodup (nodup_kept calls) (nodup_kept calls')).mpr fun d => ?_
  rw [mem_registerAll_iff hcalls, mem_registerAll_iff (hcalls.of_perm h), h.mem_iff]

theorem consistent_kept (calls : Declarations) : Consistent (registerAll [] calls) :=
  fun _ hd _ hd' haddress => List.inj_on_of_nodup_map (nodup_addresses calls) hd hd' haddress

/-! ### Sorting -/

/-- Entries that have keys of their own are sorted into one list, whatever order they come in. -/
theorem mergeSort_eq_of_perm {α κ : Type} [LinearOrder κ] {key : α → κ} {le : α → α → Bool}
    {xs ys : List α} (hle : ∀ a b, le a b = true ↔ key a ≤ key b)
    (hkey : ∀ a ∈ xs, ∀ b ∈ xs, key a = key b → a = b) (h : xs.Perm ys) :
    xs.mergeSort le = ys.mergeSort le := by
  have htrans (a b c : α) (hab : le a b = true) (hbc : le b c = true) : le a c = true :=
    (hle a c).mpr (((hle a b).mp hab).trans ((hle b c).mp hbc))
  have htotal (a b : α) : (le a b || le b a) = true := by
    rw [Bool.or_eq_true, hle, hle]
    exact le_total (key a) (key b)
  have hsorted := List.pairwise_mergeSort htrans htotal
  refine List.Perm.eq_of_pairwise (fun a b ha hb hab hba => ?_) (hsorted xs) (hsorted ys) ?_
  · exact hkey a (List.mem_mergeSort.mp ha) b (h.mem_iff.mpr (List.mem_mergeSort.mp hb))
      (le_antisymm ((hle a b).mp hab) ((hle b a).mp hba))
  · exact ((List.mergeSort_perm xs le).trans h).trans (List.mergeSort_perm ys le).symm

theorem sortedVariables_eq_of_perm (h : ds.Perm ds') (hds : Consistent ds) :
    ds.sortedVariables = ds'.sortedVariables := by
  refine mergeSort_eq_of_perm (fun a b => decide_eq_true_iff) ?_ (h.filterMap _)
  intro a ha b hb hname
  have haddress : a.address = b.address := congrArg ("var." ++ ·) hname
  exact Declaration.variable.inj
    (hds _ (mem_inputs_iff.mp ha) _ (mem_inputs_iff.mp hb) haddress)

theorem sortedDataSources_eq_of_perm (h : ds.Perm ds') (hds : Consistent ds) :
    ds.sortedDataSources = ds'.sortedDataSources := by
  refine @mergeSort_eq_of_perm _ _ _ (fun d => toLex (d.name, d.type)) _ _ _ (fun a b => ?_) ?_
    (h.filterMap _)
  · simp [Prod.Lex.toLex_le_toLex]
  · intro a ha b hb hkey
    obtain ⟨hname, htype⟩ := Prod.mk.inj (toLex.injective hkey)
    have haddress : a.address = b.address := by
      rw [DataSource.address, DataSource.address, hname, htype]
    exact Declaration.dataSource.inj
      (hds _ (mem_dataSources_iff.mp ha) _ (mem_dataSources_iff.mp hb) haddress)

/-! ### What is written -/

theorem inputs_dataSources_perm (ds : Declarations) :
    (ds.inputs.map .variable ++ ds.dataSources.map .dataSource : Declarations).Perm ds := by
  induction ds with
  | nil => exact .refl _
  | cons d ds ih =>
      cases d with
      | «variable» v => exact ih.cons _
      | dataSource d => exact List.perm_middle.trans (ih.cons _)

theorem written_perm (ds : Declarations) : (written ds).Perm ds :=
  (((List.mergeSort_perm _ _).map _).append ((List.mergeSort_perm _ _).map _)).trans
    (inputs_dataSources_perm ds)

theorem blocks_eq (ds : Declarations) :
    ds.blocks = String.join ((written ds).map fun d => d.block ++ "\n") := by
  rw [blocks, written, List.map_append, String.join_append, List.map_map, List.map_map]
  rfl

/-- The order in which declarations are registered changes neither file. The blocks are those of one
declaration for each address. -/
theorem text_independent_of_order (h : calls.Perm calls') (hcalls : Consistent calls)
    (stackName : String) :
    (registerAll [] calls).blocks = (registerAll [] calls').blocks ∧
    (registerAll [] calls).assignments stackName =
      (registerAll [] calls').assignments stackName ∧
    (registerAll [] calls).blocks =
      String.join ((written (registerAll [] calls)).map fun d => d.block ++ "\n") ∧
    ∀ address, ((written (registerAll [] calls)).map Declaration.address).count address =
      if address ∈ calls.map Declaration.address then 1 else 0 := by
  have hkept := registerAll_perm h hcalls
  have hvariables := sortedVariables_eq_of_perm hkept (consistent_kept calls)
  have hdataSources := sortedDataSources_eq_of_perm hkept (consistent_kept calls)
  refine ⟨?_, ?_, blocks_eq _, fun address => ?_⟩
  · rw [blocks, blocks, hvariables, hdataSources]
  · rw [assignments, assignments, hvariables]
  · rw [((written_perm _).map _).count_eq, count_address]

def size : Declaration :=
  .variable ⟨"Size", .number, none, some "1", some "2", false⟩

def zone : Declaration :=
  .variable ⟨"Zone", .string, some "where it runs", none, some "a", false⟩

def image : Declaration := .dataSource ⟨"aws_ssm_parameter", "Image", [("name", "/image")]⟩

def region : Declaration := .dataSource ⟨"aws_region", "current", []⟩

theorem text_independent_of_order_repeated :
    List.Perm [zone, image, size, zone, region] [region, zone, zone, size, image] ∧
    Consistent [zone, image, size, zone, region] ∧
    (registerAll [] [zone, image, size, zone, region]).blocks =
      (registerAll [] [region, zone, zone, size, image]).blocks ∧
    (registerAll [] [zone, image, size, zone, region]).assignments "jobs" =
      (registerAll [] [region, zone, zone, size, image]).assignments "jobs" ∧
    ((written (registerAll [] [zone, image, size, zone, region])).map Declaration.address).count
      "var.Zone" = 1 := by
  have hperm : List.Perm [zone, image, size, zone, region] [region, zone, zone, size, image] := by
    decide
  have hcalls : Consistent [zone, image, size, zone, region] := by decide
  obtain ⟨hblocks, hassignments, -, hcount⟩ := text_independent_of_order hperm hcalls "jobs"
  refine ⟨hperm, hcalls, hblocks, hassignments, (hcount "var.Zone").trans ?_⟩
  exact if_pos (by decide)

end StackExport.Proofs.DeclarationOrder
