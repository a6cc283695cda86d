/-!
Entries under textual keys, in an order of their own or sorted by key.
-/
namespace StackExport

variable {α : Type}

/-- The value under the first entry with a key. -/
def lookup? (key : String) : List (String × α) → Option α
  | [] => none
  | (k, v) :: rest => if k == key then some v else lookup? key rest

/-- Gives a key a value: in place if the key is there, at the end otherwise. -/
def putEntry (key : String) (value : α) : List (String × α) → List (String × α)
  | [] => [(key, value)]
  | (k, v) :: rest => if k == key then (k, value) :: rest else (k, v) :: putEntry key value rest

def putSorted (key : String) (value : α) : List (String × α) → List (String × α)
  | [] => [(key, value)]
  | (k, v) :: rest =>
    if k == key then (k, value) :: rest
    else if key < k then (key, value) :: (k, v) :: rest
    else (k, v) :: putSorted key value rest

/-- Entries in the order of their first keys, each with the last value its key was given. -/
def mergeEntries (entries : List (String × α)) : List (String × α) :=
  entries.foldl (fun merged (k, v) => putEntry k v merged) []

/-- Entries sorted by key, each with the last value its key was given. -/
def sortEntries (entries : List (String × α)) : List (String × α) :=
  entries.foldl (fun sorted (k, v) => putSorted k v sorted) []

@[simp] theorem lookup?_putEntry_self (key : String) (value : α) (entries : List (String × α)) :
    lookup? key (putEntry key value entries) = some value := by
  induction entries with
  | nil => simp [putEntry, lookup?]
  | cons e rest ih =>
    obtain ⟨k, v⟩ := e
    by_cases h : k = key <;> simp [putEntry, lookup?, h, ih]

variable {key other : String} {value : α} {entries : List (String × α)}

theorem lookup?_putEntry_of_ne (h : other ≠ key) (value : α) (entries : List (String × α)) :
    lookup? other (putEntry key value entries) = lookup? other entries := by
  induction entries with
  | nil => simp [putEntry, lookup?, Ne.symm h]
  | cons e rest ih =>
    obtain ⟨k, v⟩ := e
    by_cases hk : k = key
    · subst hk
      simp [putEntry, lookup?, Ne.symm h]
    · simp [putEntry, lookup?, hk, ih]

theorem mem_of_lookup? (h : lookup? key entries = some value) : (key, value) ∈ entries := by
  induction entries with
  | nil => simp [lookup?] at h
  | cons e rest ih =>
    obtain ⟨k, v⟩ := e
    by_cases hk : k = key
    · simp_all [lookup?]
    · exact List.mem_cons_of_mem _ (ih (by simpa [lookup?, hk] using h))

/-- Where every key stands once, each entry is the one that is found under its key. -/
theorem lookup?_of_mem (hkeys : (entries.map (·.1)).Nodup) (h : (key, value) ∈ entries) :
    lookup? key entries = some value := by
  induction entries with
  | nil => simp at h
  | cons e rest ih =>
    obtain ⟨k, v⟩ := e
    rw [List.map_cons, List.nodup_cons] at hkeys
    rcases List.mem_cons.mp h with heq | hrest
    · cases heq
      simp [lookup?]
    · have hk : k ≠ key := by
        rintro rfl
        exact hkeys.1 (List.mem_map.mpr ⟨_, hrest, rfl⟩)
      simp [lookup?, hk, ih hkeys.2 hrest]

theorem lookup?_map_pair {keys : List String} (f : String → α) (h : key ∈ keys) :
    lookup? key (keys.map fun k => (k, f k)) = some (f key) := by
  induction keys with
  | nil => simp at h
  | cons k rest ih =>
    by_cases hk : k = key
    · simp [lookup?, hk]
    · have hrest : key ∈ rest := by simpa [Ne.symm hk] using h
      simpa [lookup?, hk] using ih hrest

theorem mem_putEntry {e : String × α} (h : e ∈ putEntry key value entries) :
    e = (key, value) ∨ e ∈ entries := by
  induction entries with
  | nil => exact .inl (by simpa [putEntry] using h)
  | cons first rest ih =>
    obtain ⟨k, v⟩ := first
    by_cases hk : k = key
    · simp only [putEntry, hk, beq_self_eq_true, if_true, List.mem_cons] at h ⊢
      exact h.imp_right .inr
    · simp only [putEntry, beq_iff_eq, hk, if_false, List.mem_cons] at h ⊢
      rcases h with h | h
      · exact .inr (.inl h)
      · exact (ih h).imp_right .inr

theorem nodup_putEntry (h : (entries.map (·.1)).Nodup) (key : String) (value : α) :
    ((putEntry key value entries).map (·.1)).Nodup := by
  induction entries with
  | nil => simp [putEntry]
  | cons first rest ih =>
    obtain ⟨k, v⟩ := first
    rw [List.map_cons, List.nodup_cons] at h
    by_cases hk : k = key
    · simpa [putEntry, hk] using h
    · simp only [putEntry, beq_iff_eq, hk, if_false, List.map_cons, List.nodup_cons]
      refine ⟨fun hmem => ?_, ih h.2⟩
      obtain ⟨e, he, hkey⟩ := List.mem_map.mp hmem
      rcases mem_putEntry he with rfl | he
      · exact hk hkey.symm
      · exact h.1 (List.mem_map.mpr ⟨e, he, hkey⟩)

theorem mem_mergeEntries {e : String × α} (h : e ∈ mergeEntries entries) : e ∈ entries := by
  have hfold (taken : List (String × α)) :
      e ∈ entries.foldl (fun merged (k, v) => putEntry k v merged) taken →
        e ∈ taken ∨ e ∈ entries := by
    clear h
    induction entries generalizing taken with
    | nil => exact .inl
    | cons first rest ih =>
      intro h
      rcases ih (putEntry first.1 first.2 taken) h with h | h
      · rcases mem_putEntry h with rfl | h
        · exact .inr List.mem_cons_self
        · exact .inl h
      · exact .inr (List.mem_cons_of_mem _ h)
  exact (hfold [] h).resolve_left List.not_mem_nil

theorem nodup_mergeEntries (entries : List (String × α)) :
    ((mergeEntries entries).map (·.1)).Nodup := by
  have hfold (taken : List (String × α)) : (taken.map (·.1)).Nodup →
      ((entries.foldl (fun merged (k, v) => putEntry k v merged) taken).map (·.1)).Nodup := by
    induction entries generalizing taken with
    | nil => exact id
    | cons first rest ih => exact fun h => ih _ (nodup_putEntry h first.1 first.2)
  exact hfold [] List.nodup_nil

end StackExport
