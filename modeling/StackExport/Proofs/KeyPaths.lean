import Mathlib
import StackExport.Proofs.StreamNesting
/-!
The keys of a stream outside documents.

`Laid` says where the paths of a run's keys lie and that none of them comes twice. Runs whose keys
lie below different children of a path can be joined.
-/
namespace StackExport.Proofs.KeyPaths

open StackExport
open StackExport.Proofs.StreamNesting

variable {run run' value rest : List Event} {path : Path} {name : String} {key : MappingKey}
  {names names' : Set String} {Q : MappingKey → List Event → Prop} {n : Nat}

/-- The keys outside documents, each with the events behind it, while some documents are open. -/
def outerKeys (documents : Nat) : List Event → List (MappingKey × List Event)
  | [] => []
  | .start o :: rest => outerKeys (documents + if o.group = .json then 1 else 0) rest
  | .stop g :: rest => outerKeys (documents - if g = .json then 1 else 0) rest
  | .key key :: rest =>
    if documents = 0 then (key, rest) :: outerKeys documents rest else outerKeys documents rest
  | .comment _ :: rest | .scalar _ :: rest => outerKeys documents rest

def outerPaths (events : List Event) : List Path := (outerKeys 0 events).map (·.1.path)

/-- A run that opens no document for what follows adds its own keys. -/
theorem outerKeys_append (h : WellNested run) (n : Nat) (rest : List Event) :
    outerKeys n (run ++ rest) =
      (outerKeys n run).map (fun k => (k.1, k.2 ++ rest)) ++ outerKeys n rest := by
  induction h generalizing n rest with
  | nil => rfl
  | @neutral e run he _ ih =>
      cases e with
      | start o => cases he
      | stop g => cases he
      | key key => by_cases hn : n = 0 <;> simp [outerKeys, hn, ih]
      | comment text => exact ih n rest
      | scalar s => exact ih n rest
  | group o _ _ ihBody ihRest =>
      simp only [List.cons_append, List.append_assoc, outerKeys, ihBody, ihRest,
        Nat.add_sub_cancel, List.map_append, List.map_map, Function.comp_def]

theorem outerKeys_inside (h : WellNested run) (hn : 0 < n) : outerKeys n run = [] := by
  induction h generalizing n with
  | nil => rfl
  | @neutral e run he _ ih =>
      cases e with
      | start o => cases he
      | stop g => cases he
      | key key => simpa [outerKeys, hn.ne'] using ih hn
      | comment text => exact ih hn
      | scalar s => exact ih hn
  | @group o body run hbody _ ihBody ihRest =>
      rw [outerKeys, outerKeys_append hbody, ihBody (Nat.add_pos_left hn _), outerKeys,
        Nat.add_sub_cancel, ihRest hn]
      rfl

theorem outerPaths_append (h : WellNested run) (rest : List Event) :
    outerPaths (run ++ rest) = outerPaths run ++ outerPaths rest := by
  simp [outerPaths, outerKeys_append h]

/-! ### Where paths lie -/

/-- A path lies below one child of another at most. -/
theorem eq_of_child_prefix {a b : String} {segments : List String}
    (ha : (path.child a).segments <+: segments) (hb : (path.child b).segments <+: segments) :
    a = b := by
  have hlength : (path.child a).segments.length = (path.child b).segments.length := by
    simp [Path.child]
  have heq := (List.prefix_of_prefix_length_le ha hb hlength.le).eq_of_length hlength
  simpa [Path.child] using heq

/-- The keys of a run outside documents have a property, whatever follows the run, their paths lie
at or below children with the given names, and no two of them have one path. -/
structure Laid (Q : MappingKey → List Event → Prop) (path : Path) (names : Set String)
    (run : List Event) : Prop where
  nested : WellNested run
  holds : ∀ k ∈ outerKeys 0 run, ∀ rest, Q k.1 (k.2 ++ rest)
  nodup : (outerPaths run).Nodup
  below : ∀ p ∈ outerPaths run, ∃ name ∈ names, (path.child name).segments <+: p.segments

theorem laid_nil (Q : MappingKey → List Event → Prop) (path : Path) (names : Set String) :
    Laid Q path names [] :=
  ⟨.nil, nofun, List.nodup_nil, nofun⟩

theorem Laid.mono (h : Laid Q path names run) (hnames : names ⊆ names') :
    Laid Q path names' run :=
  ⟨h.nested, h.holds, h.nodup, fun p hp => (h.below p hp).imp fun _ hn => ⟨hnames hn.1, hn.2⟩⟩

theorem Laid.append (h : Laid Q path names run) (h' : Laid Q path names' run')
    (hdisjoint : Disjoint names names') : Laid Q path (names ∪ names') (run ++ run') where
  nested := h.nested.append h'.nested
  holds := by
    intro k hk rest
    rw [outerKeys_append h.nested, List.mem_append, List.mem_map] at hk
    rcases hk with ⟨k, hk, rfl⟩ | hk
    · have hall := h.holds k hk (run' ++ rest)
      rwa [← List.append_assoc] at hall
    · exact h'.holds k hk rest
  nodup := by
    rw [outerPaths_append h.nested]
    -- a path of both would lie below two children
    refine h.nodup.append h'.nodup fun p hp hp' => ?_
    obtain ⟨name, hname, hprefix⟩ := h.below p hp
    obtain ⟨name', hname', hprefix'⟩ := h'.below p hp'
    obtain rfl := eq_of_child_prefix hprefix hprefix'
    exact Set.disjoint_left.1 hdisjoint hname hname'
  below := by
    intro p hp
    rw [outerPaths_append h.nested, List.mem_append] at hp
    rcases hp with hp | hp
    · exact (h.below p hp).imp fun _ hn => ⟨.inl hn.1, hn.2⟩
    · exact (h'.below p hp).imp fun _ hn => ⟨.inr hn.1, hn.2⟩

theorem laid_scalar (Q : MappingKey → List Event → Prop) (path : Path) (names : Set String)
    (s : Scalar) : Laid Q path names [.scalar s] :=
  ⟨.neutral rfl .nil, nofun, List.nodup_nil, nofun⟩

theorem Laid.comment (text : String) (h : Laid Q path names run) :
    Laid Q path names (.comment text :: run) :=
  ⟨.neutral rfl h.nested, h.holds, h.nodup, h.below⟩

theorem Laid.group {o : Opening} (h : Laid Q path names run) (ho : o.group ≠ .json) :
    Laid Q path names (.start o :: (run ++ [.stop o.group])) := by
  have hkeys : outerKeys 0 (.start o :: (run ++ [.stop o.group])) =
      (outerKeys 0 run).map fun k => (k.1, k.2 ++ [.stop o.group]) := by
    simp [outerKeys, outerKeys_append h.nested, ho]
  have hpaths : outerPaths (.start o :: (run ++ [.stop o.group])) = outerPaths run := by
    simp [outerPaths, hkeys, Function.comp_def]
  refine ⟨.group o h.nested .nil, ?_, hpaths ▸ h.nodup, hpaths ▸ h.below⟩
  intro k hk rest
  rw [hkeys, List.mem_map] at hk
  obtain ⟨k, hk, rfl⟩ := hk
  rw [List.append_assoc]
  exact h.holds k hk _

theorem laid_document (Q : MappingKey → List Event → Prop) (path : Path) (names : Set String)
    (h : WellNested run) : Laid Q path names (.start .json :: (run ++ [.stop .json])) := by
  have hkeys : outerKeys 0 (.start .json :: (run ++ [.stop .json])) = [] := by
    have hinside : outerKeys (0 + if Opening.json.group = .json then 1 else 0) run = [] :=
      outerKeys_inside h Nat.one_pos
    simp only [outerKeys, outerKeys_append h, hinside, List.map_nil, List.nil_append]
  have hpaths : outerPaths (.start .json :: (run ++ [.stop .json])) = [] := by
    rw [outerPaths, hkeys, List.map_nil]
  refine ⟨.group .json h .nil, ?_, ?_, ?_⟩
  · simp [hkeys]
  · rw [hpaths]
    exact List.nodup_nil
  · simp [hpaths]

theorem Laid.child (h : Laid Q (path.child name) names run) : Laid Q path {name} run := by
  refine ⟨h.nested, h.holds, h.nodup, fun p hp => ⟨name, rfl, ?_⟩⟩
  obtain ⟨_, _, hprefix⟩ := h.below p hp
  exact (List.prefix_append _ _).trans hprefix

/-- The key of a child stands above the keys of its value. -/
theorem Laid.of_key (h : Laid Q (path.child name) names value) (hkey : key.path = path.child name)
    (hQ : ∀ rest, Q key (value ++ rest)) : Laid Q path {name} (.key key :: value) := by
  have hpaths : outerPaths (.key key :: value) = path.child name :: outerPaths value := by
    rw [← hkey]
    rfl
  refine ⟨.neutral rfl h.nested, ?_, ?_, ?_⟩
  · rintro k (_ | ⟨_, hk⟩) rest
    · exact hQ rest
    · exact h.holds k hk rest
  · rw [hpaths, List.nodup_cons]
    refine ⟨fun hmem => ?_, h.nodup⟩
    obtain ⟨_, _, hprefix⟩ := h.below _ hmem
    simpa [Path.child] using hprefix.length_le
  · rw [hpaths]
    rintro p (_ | ⟨_, hp⟩)
    · exact ⟨name, rfl, List.prefix_rfl⟩
    · exact h.child.below p hp

end StackExport.Proofs.KeyPaths
