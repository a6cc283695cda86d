import StackExport.Proofs.WriterRun
import StackExport.Template.Reader
/-!
Parsed templates declare every resource once, and no object among their look-up tables has a key
twice.

Objects that are read from a text have every key once, and so have the mappings of a page when their
calls have got their long form. The sections of a template are such objects.
-/
namespace StackExport.Proofs.ParsedTemplate

open StackExport
open StackExport.Template
open StackExport.Proofs.WriterRun (exists_of_bind_eq_ok)

/-! ### Keys of objects -/

mutual

/-- True if every object that the value is or holds has every key once. -/
def KeysOnceWithin : Json → Prop
  | .array items => ItemsKeysOnce items
  | .object entries => (entries.map (·.1)).Nodup ∧ EntriesKeysOnce entries
  | _ => True

def ItemsKeysOnce : List Json → Prop
  | [] => True
  | item :: rest => KeysOnceWithin item ∧ ItemsKeysOnce rest

def EntriesKeysOnce : List (String × Json) → Prop
  | [] => True
  | (_, value) :: rest => KeysOnceWithin value ∧ EntriesKeysOnce rest

end

theorem EntriesKeysOnce.of_mem {entries : List (String × Json)} (h : EntriesKeysOnce entries)
    {e : String × Json} (he : e ∈ entries) : KeysOnceWithin e.2 := by
  induction entries with
  | nil => cases he
  | cons first rest ih =>
      rcases List.mem_cons.mp he with rfl | he
      · exact h.1
      · exact ih h.2 he

theorem KeysOnceWithin.of_lookup? {entries : List (String × Json)}
    (h : KeysOnceWithin (.object entries)) {key : String} {v : Json}
    (hv : lookup? key entries = some v) : KeysOnceWithin v :=
  h.2.of_mem (mem_of_lookup? hv)


theorem entriesKeysOnce_of_forall {entries : List (String × Json)}
    (h : ∀ e ∈ entries, KeysOnceWithin e.2) : EntriesKeysOnce entries := by
  induction entries with
  | nil => trivial
  | cons first rest ih =>
      exact ⟨h first List.mem_cons_self, ih fun e he => h e (List.mem_cons_of_mem _ he)⟩

/-- Putting entries together keeps every key once at any depth. -/
theorem keysOnceWithin_mergeEntries {entries : List (String × Json)} (h : EntriesKeysOnce entries) :
    KeysOnceWithin (.object (mergeEntries entries)) :=
  ⟨nodup_mergeEntries entries, entriesKeysOnce_of_forall fun _ he => h.of_mem (mem_mergeEntries he)⟩

mutual

theorem keysOnceWithin_merged : ∀ json : Json, KeysOnceWithin (Json.merged json)
  | .array items => itemsKeysOnce_merged items
  | .object entries => keysOnceWithin_mergeEntries (entriesKeysOnce_merged entries)
  | .null | .bool _ | .number _ | .string _ => trivial

theorem itemsKeysOnce_merged : ∀ items : List Json, ItemsKeysOnce (Json.mergedItems items)
  | [] => trivial
  | item :: rest => ⟨keysOnceWithin_merged item, itemsKeysOnce_merged rest⟩

theorem entriesKeysOnce_merged : ∀ entries : List (String × Json),
    EntriesKeysOnce (Json.mergedEntries entries)
  | [] => trivial
  | (_, value) :: rest => ⟨keysOnceWithin_merged value, entriesKeysOnce_merged rest⟩

end

theorem keysOnceWithin_callArgument {argument : Json} (h : KeysOnceWithin argument)
    (name : String) : KeysOnceWithin (callArgument name argument) := by
  unfold callArgument
  split
  · split
    · split <;> simp [KeysOnceWithin, ItemsKeysOnce]
    · trivial
  · exact h

mutual

theorem keysOnceWithin_longForm : ∀ value : Yaml.Value, KeysOnceWithin (longForm value)
  | .sequence items => itemsKeysOnce_longForm items
  | .mapping entries => keysOnceWithin_mergeEntries (entriesKeysOnce_longForm entries)
  | .tagged tag argument =>
      ⟨by simp,
        keysOnceWithin_callArgument (keysOnceWithin_longForm argument) _, trivial⟩
  | .float x => by
      rw [longForm]
      split <;> trivial
  | .null | .bool _ | .int _ | .string _ => trivial

theorem itemsKeysOnce_longForm : ∀ items : List Yaml.Value, ItemsKeysOnce (longFormItems items)
  | [] => trivial
  | item :: rest => ⟨keysOnceWithin_longForm item, itemsKeysOnce_longForm rest⟩

theorem entriesKeysOnce_longForm : ∀ entries : List (Yaml.Value × Yaml.Value),
    EntriesKeysOnce (longFormEntries entries)
  | [] => trivial
  | (_, value) :: rest => ⟨keysOnceWithin_longForm value, entriesKeysOnce_longForm rest⟩

end

theorem keysOnceWithin_get? {root found : Json} (h : KeysOnceWithin root) {name : String}
    (hfound : root.get? name = some found) : KeysOnceWithin found := by
  cases root with
  | object entries => exact h.of_lookup? hfound
  | _ => cases hfound

theorem keysOnceWithin_sectionEntries {root : Json} (hroot : KeysOnceWithin root) {name : String}
    {entries : List (String × Json)} (h : sectionEntries root name = .ok entries) :
    KeysOnceWithin (.object entries) := by
  unfold sectionEntries at h
  split at h
  · cases h
    exact ⟨List.nodup_nil, trivial⟩
  · cases h
    exact ⟨List.nodup_nil, trivial⟩
  · next hfound =>
      cases h
      exact keysOnceWithin_get? hroot hfound
  · cases h

/-! ### Sections of a template -/

theorem id_of_resourceOf {id : String} {declaration : Json} {r : TemplateResource}
    (h : resourceOf id declaration = .ok r) : r.id = id := by
  unfold resourceOf at h
  split at h
  · cases h
  · dsimp only at h
    split at h
    · obtain ⟨properties, -, h⟩ := exists_of_bind_eq_ok h
      cases h
      rfl
    · cases h
      rfl

theorem ids_of_mapM {entries : List (String × Json)} {resources : List TemplateResource}
    (h : entries.mapM (fun e => resourceOf e.1 e.2) = .ok resources) :
    resources.map (·.id) = entries.map (·.1) := by
  induction entries generalizing resources with
  | nil =>
      cases h
      rfl
  | cons entry rest ih =>
      rw [List.mapM_cons] at h
      obtain ⟨first, hfirst, h⟩ := exists_of_bind_eq_ok h
      obtain ⟨others, hothers, h⟩ := exists_of_bind_eq_ok h
      cases h
      rw [List.map_cons, List.map_cons, id_of_resourceOf hfirst, ih hothers]

theorem keysOnce_of_ofJson {root : Json} {t : Template} (hroot : KeysOnceWithin root)
    (h : ofJson root = .ok t) :
    (t.resources.map (·.id)).Nodup ∧ KeysOnceWithin (.object t.mappings) := by
  cases root with
  | object all =>
      obtain ⟨parameters, -, h⟩ := exists_of_bind_eq_ok h
      obtain ⟨mappings, hmappings, h⟩ := exists_of_bind_eq_ok h
      obtain ⟨conditions, -, h⟩ := exists_of_bind_eq_ok h
      obtain ⟨declarations, hdeclarations, h⟩ := exists_of_bind_eq_ok h
      obtain ⟨resources, hresources, h⟩ := exists_of_bind_eq_ok h
      obtain ⟨_, -, h⟩ := exists_of_bind_eq_ok h
      obtain ⟨outputs, -, h⟩ := exists_of_bind_eq_ok h
      cases h
      refine ⟨?_, keysOnceWithin_sectionEntries hroot hmappings⟩
      rw [ids_of_mapM hresources]
      exact (keysOnceWithin_sectionEntries hroot hdeclarations).1
  | _ => cases h

theorem keysOnce_of_parse {text : String} {t : Template} (h : Template.parse text = .ok t) :
    (t.resources.map (·.id)).Nodup ∧ KeysOnceWithin (.object t.mappings) := by
  unfold Template.parse at h
  split at h
  · unfold parseJson at h
    split at h
    · next root hroot =>
        obtain ⟨json, -, rfl⟩ := Option.map_eq_some_iff.mp hroot
        exact keysOnce_of_ofJson (keysOnceWithin_merged json) h
    · cases h
  · unfold parseYaml at h
    split at h
    · exact keysOnce_of_ofJson (keysOnceWithin_longForm _) h
    · cases h

/-- The resources of a parsed template have identifiers of their own. -/
theorem nodup_ids_of_parse {text : String} {t : Template} (h : Template.parse text = .ok t) :
    (t.resources.map (·.id)).Nodup :=
  (keysOnce_of_parse h).1

/-- No object among the look-up tables of a parsed template has a key twice. -/
theorem keysOnceWithin_mappings_of_parse {text : String} {t : Template}
    (h : Template.parse text = .ok t) : KeysOnceWithin (.object t.mappings) :=
  (keysOnce_of_parse h).2

end StackExport.Proofs.ParsedTemplate
