import StackExport.Declaration
/-!
Declarations that are registered one after the other.

The first declaration for an address stays, so looking an address up finds the same declaration as in
the list of all that were to be registered. Registering only adds at the end, and it never gives an
address twice.
-/
namespace StackExport.Proofs.RegisteredDeclarations

open StackExport
open StackExport.Declarations

def registerAll (ds new : Declarations) : Declarations := new.foldl register ds

/-- The declaration for an address. -/
def declared? (ds : Declarations) (address : String) : Option Declaration :=
  ds.find? (·.address == address)

variable {ds new : Declarations} {d : Declaration} {address : String}

theorem mem_inputs_iff {v : Variable} : v ∈ ds.inputs ↔ .variable v ∈ ds := by
  rw [inputs, List.mem_filterMap]
  constructor
  · rintro ⟨d, hd, hv⟩
    cases d with
    | «variable» w => rwa [← Option.some.inj hv]
    | dataSource w => cases hv
  · exact fun h => ⟨_, h, rfl⟩

theorem mem_dataSources_iff {d : DataSource} : d ∈ ds.dataSources ↔ .dataSource d ∈ ds := by
  rw [dataSources, List.mem_filterMap]
  constructor
  · rintro ⟨e, he, hd⟩
    cases e with
    | «variable» w => cases hd
    | dataSource w => rwa [← Option.some.inj hd]
  · exact fun h => ⟨_, h, rfl⟩

@[simp] theorem registerAll_nil (ds : Declarations) : registerAll ds [] = ds := rfl

theorem registerAll_cons (ds new : Declarations) (d : Declaration) :
    registerAll ds (d :: new) = registerAll (ds.register d) new := rfl

theorem registerAll_append (ds new new' : Declarations) :
    registerAll ds (new ++ new') = registerAll (registerAll ds new) new' :=
  List.foldl_append

theorem ofTemplate_eq (t : Template) :
    ofTemplate t = registerAll [] (t.parameters.map Declaration.ofParameter) := rfl

theorem has_eq_isSome (ds : Declarations) (address : String) :
    ds.has address = (declared? ds address).isSome := by
  rw [has, declared?, Bool.eq_iff_iff]
  simp

theorem address_of_declared? (h : declared? ds address = some d) : d.address = address := by
  simpa using List.find?_some h

theorem mem_of_declared? (h : declared? ds address = some d) : d ∈ ds :=
  List.mem_of_find?_eq_some h

theorem declared?_append (ds new : Declarations) (address : String) :
    declared? (ds ++ new) address = (declared? ds address).or (declared? new address) :=
  List.find?_append

theorem declared?_register (ds : Declarations) (d : Declaration) (address : String) :
    declared? (ds.register d) address = declared? (ds ++ [d]) address := by
  unfold register
  split
  · next h =>
      rw [declared?_append]
      by_cases haddress : d.address = address
      · rw [has_eq_isSome, haddress] at h
        obtain ⟨first, hfirst⟩ := Option.isSome_iff_exists.mp h
        rw [hfirst, Option.some_or]
      · have hnone : declared? [d] address = none := by simp [declared?, haddress]
        rw [hnone, Option.or_none]
  · rfl

/-- Looking up sees no difference between registering and appending. -/
theorem declared?_registerAll (ds new : Declarations) (address : String) :
    declared? (registerAll ds new) address = declared? (ds ++ new) address := by
  induction new generalizing ds with
  | nil => simp
  | cons d new ih =>
      rw [registerAll_cons, ih, declared?_append, declared?_register, ← declared?_append,
        List.append_assoc, List.singleton_append]

theorem declared?_registerAll_of_some (h : declared? ds address = some d) (new : Declarations) :
    declared? (registerAll ds new) address = some d := by
  rw [declared?_registerAll, declared?_append, h, Option.some_or]

theorem has_registerAll (ds new : Declarations) (address : String) :
    (registerAll ds new).has address = (ds.has address || new.has address) := by
  rw [has_eq_isSome, declared?_registerAll, declared?_append, Option.isSome_or, has_eq_isSome,
    has_eq_isSome]

theorem prefix_register (ds : Declarations) (d : Declaration) : ds <+: ds.register d := by
  unfold register
  split
  · exact List.prefix_refl ds
  · exact List.prefix_append ds [d]

/-- What there was stays where it was. -/
theorem prefix_registerAll (ds new : Declarations) : ds <+: registerAll ds new := by
  induction new generalizing ds with
  | nil => exact List.prefix_refl ds
  | cons d new ih => exact (prefix_register ds d).trans (ih _)

theorem nodup_register (h : (ds.map Declaration.address).Nodup) (d : Declaration) :
    ((ds.register d).map Declaration.address).Nodup := by
  unfold register
  split
  · exact h
  · next hnew =>
      rw [List.map_append, List.map_singleton, List.nodup_append]
      refine ⟨h, by simp, ?_⟩
      rintro a ha b hb rfl
      obtain rfl := List.mem_singleton.mp hb
      obtain ⟨other, hother, haddress⟩ := List.mem_map.mp ha
      exact hnew (List.any_eq_true.mpr ⟨other, hother, by simpa using haddress⟩)

theorem nodup_registerAll (h : (ds.map Declaration.address).Nodup) (new : Declarations) :
    ((registerAll ds new).map Declaration.address).Nodup := by
  induction new generalizing ds with
  | nil => exact h
  | cons d new ih => exact ih (nodup_register h d)

theorem mem_of_mem_registerAll (h : d ∈ registerAll ds new) : d ∈ ds ∨ d ∈ new := by
  induction new generalizing ds with
  | nil => exact Or.inl h
  | cons first new ih =>
      rcases ih h with hin | hin
      · unfold register at hin
        split at hin
        · exact Or.inl hin
        · rcases List.mem_append.mp hin with hin | hin
          · exact Or.inl hin
          · exact Or.inr (List.mem_cons.mpr (Or.inl (List.mem_singleton.mp hin)))
      · exact Or.inr (List.mem_cons_of_mem _ hin)

/-- It makes no difference whether declarations have been registered among themselves before. -/
theorem registerAll_registerAll (ds new new' : Declarations) :
    registerAll ds (registerAll new new') = registerAll (registerAll ds new) new' := by
  induction new' generalizing new with
  | nil => rfl
  | cons d new' ih =>
      have hone : registerAll ds (new.register d) = (registerAll ds new).register d := by
        by_cases h : new.has d.address = true
        · have hall : (registerAll ds new).has d.address = true := by
            rw [has_registerAll, h, Bool.or_true]
          rw [register, if_pos h, register, if_pos hall]
        · rw [register, if_neg h, registerAll_append]
          rfl
      rw [registerAll_cons, registerAll_cons, ih, hone]

end StackExport.Proofs.RegisteredDeclarations
