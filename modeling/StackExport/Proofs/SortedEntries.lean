import StackExport.Entries
/-!
Entries that are kept sorted by key.

Two lists of entries that are sorted together keep the later value of a key. A search through the
result by a property of keys finds the smaller of the two entries that a search through each list
finds.
-/
namespace StackExport.Proofs.SortedEntries

open StackExport

variable {α : Type} {key other : String} {value : α} {entries xs ys : List (String × α)}
  {e x y : String × α}

/-- Each key is smaller than those behind it, so that none stands twice. -/
def Sorted (entries : List (String × α)) : Prop := entries.Pairwise fun a b => a.1 < b.1

theorem Sorted.nodup (h : Sorted entries) : (entries.map (·.1)).Nodup :=
  List.pairwise_map.mpr (h.imp String.ne_of_lt)

theorem key_le_of_lt {a b : String} (h : a < b) : a ≤ b := String.not_lt.mp (String.lt_asymm h)

/-! ### One more entry -/

theorem mem_putSorted (h : e ∈ putSorted key value entries) : e = (key, value) ∨ e ∈ entries := by
  induction entries with
  | nil => exact .inl (List.mem_singleton.mp h)
  | cons first rest ih =>
      obtain ⟨k, v⟩ := first
      rw [putSorted] at h
      split at h
      · exact (List.mem_cons.mp h).imp (fun h => by simp_all) (List.mem_cons_of_mem _)
      · split at h
        · exact List.mem_cons.mp h
        · rcases List.mem_cons.mp h with rfl | h
          · exact .inr List.mem_cons_self
          · exact (ih h).imp_right (List.mem_cons_of_mem _)

theorem sorted_putSorted (h : Sorted entries) (key : String) (value : α) :
    Sorted (putSorted key value entries) := by
  induction entries with
  | nil => exact List.pairwise_singleton _ _
  | cons first rest ih =>
      obtain ⟨k, v⟩ := first
      obtain ⟨hfirst, hrest⟩ := List.pairwise_cons.mp h
      rw [putSorted]
      split
      · exact List.pairwise_cons.mpr ⟨hfirst, hrest⟩
      · next hk =>
          split
          · next hlt =>
              refine List.pairwise_cons.mpr ⟨List.forall_mem_cons.mpr ⟨hlt, fun e he => ?_⟩, h⟩
              exact String.lt_trans hlt (hfirst e he)
          · next hge =>
              refine List.pairwise_cons.mpr ⟨fun e he => ?_, ih hrest⟩
              rcases mem_putSorted he with rfl | he
              · have hne : k ≠ key := by simpa using hk
                exact String.not_le.mp fun hle => hne (String.le_antisymm (String.not_lt.mp hge) hle)
              · exact hfirst e he

theorem lookup?_putSorted_self (key : String) (value : α) (entries : List (String × α)) :
    lookup? key (putSorted key value entries) = some value := by
  induction entries with
  | nil => simp [putSorted, lookup?]
  | cons first rest ih =>
      obtain ⟨k, v⟩ := first
      rw [putSorted]
      split
      · next hk => simp [lookup?, hk]
      · next hk =>
          split
          · simp [lookup?]
          · simpa [lookup?, hk] using ih

theorem lookup?_putSorted_of_ne (h : other ≠ key) (value : α) (entries : List (String × α)) :
    lookup? other (putSorted key value entries) = lookup? other entries := by
  induction entries with
  | nil => simp [putSorted, lookup?, h.symm]
  | cons first rest ih =>
      obtain ⟨k, v⟩ := first
      rw [putSorted]
      split
      · next hk =>
          obtain rfl : k = key := by simpa using hk
          simp [lookup?, h.symm]
      · split
        · simp [lookup?, h.symm]
        · rw [lookup?, lookup?, ih]

/-! ### All entries -/

theorem sorted_foldl_putSorted (h : Sorted entries) (xs : List (String × α)) :
    Sorted (xs.foldl (fun sorted (k, v) => putSorted k v sorted) entries) := by
  induction xs generalizing entries with
  | nil => exact h
  | cons first rest ih => exact ih (sorted_putSorted h first.1 first.2)

theorem sorted_sortEntries (entries : List (String × α)) : Sorted (sortEntries entries) :=
  sorted_foldl_putSorted List.Pairwise.nil entries

theorem lookup?_foldl_putSorted (h : (xs.map (·.1)).Nodup) (key : String)
    (entries : List (String × α)) :
    lookup? key (xs.foldl (fun sorted (k, v) => putSorted k v sorted) entries) =
      (lookup? key xs).or (lookup? key entries) := by
  induction xs generalizing entries with
  | nil => rfl
  | cons first rest ih =>
      obtain ⟨k, v⟩ := first
      obtain ⟨hfirst, hrest⟩ := List.nodup_cons.mp h
      rw [List.foldl_cons, ih hrest, lookup?]
      by_cases hk : k = key
      · subst hk
        have hnone : lookup? k rest = none :=
          Option.eq_none_iff_forall_ne_some.mpr fun v hv =>
            hfirst (List.mem_map.mpr ⟨_, mem_of_lookup? hv, rfl⟩)
        rw [hnone, lookup?_putSorted_self, if_pos (beq_self_eq_true k)]
        rfl
      · rw [lookup?_putSorted_of_ne (Ne.symm hk), if_neg (by simpa using hk)]

/-- Sorted together, a key keeps the value that the later list gives it. -/
theorem lookup?_sortEntries_append (hxs : (xs.map (·.1)).Nodup) (hys : (ys.map (·.1)).Nodup)
    (key : String) :
    lookup? key (sortEntries (xs ++ ys)) = (lookup? key ys).or (lookup? key xs) := by
  rw [sortEntries, List.foldl_append, lookup?_foldl_putSorted hys, lookup?_foldl_putSorted hxs]
  exact congrArg _ Option.or_none

theorem mem_iff_lookup? (h : (entries.map (·.1)).Nodup) :
    e ∈ entries ↔ lookup? e.1 entries = some e.2 :=
  ⟨lookup?_of_mem h, mem_of_lookup?⟩

theorem mem_sortEntries_append_iff (hxs : (xs.map (·.1)).Nodup) (hys : (ys.map (·.1)).Nodup) :
    e ∈ sortEntries (xs ++ ys) ↔ e ∈ ys ∨ e ∈ xs ∧ lookup? e.1 ys = none := by
  rw [mem_iff_lookup? (sorted_sortEntries _).nodup, lookup?_sortEntries_append hxs hys,
    mem_iff_lookup? hxs, mem_iff_lookup? hys]
  cases lookup? e.1 ys <;> simp

/-! ### The first entry with a property -/

variable {p : String → Bool}

/-- A search finds the entry with the smallest key. -/
theorem find?_eq_some_iff (h : Sorted entries) :
    entries.find? (fun e => p e.1) = some e ↔
      e ∈ entries ∧ p e.1 = true ∧ ∀ e' ∈ entries, p e'.1 = true → e.1 ≤ e'.1 := by
  induction entries with
  | nil => simp
  | cons first rest ih =>
      obtain ⟨hfirst, hrest⟩ := List.pairwise_cons.mp h
      rw [List.find?_cons]
      cases hp : p first.1 with
      | true =>
          constructor
          · rintro ⟨⟩
            refine ⟨List.mem_cons_self, hp, List.forall_mem_cons.mpr ⟨fun _ => String.le_refl _, ?_⟩⟩
            exact fun e' he' _ => key_le_of_lt (hfirst e' he')
          · rintro ⟨he, -, hleast⟩
            rcases List.mem_cons.mp he with rfl | he
            · rfl
            · exact absurd (hleast first List.mem_cons_self hp) (String.not_le.mpr (hfirst e he))
      | false =>
          refine (ih hrest).trans ⟨?_, ?_⟩
          · rintro ⟨he, hpe, hleast⟩
            refine ⟨List.mem_cons_of_mem _ he, hpe, List.forall_mem_cons.mpr ⟨fun h => ?_, hleast⟩⟩
            simp [hp] at h
          · rintro ⟨he, hpe, hleast⟩
            refine ⟨?_, hpe, fun e' he' => hleast e' (List.mem_cons_of_mem _ he')⟩
            refine (List.mem_cons.mp he).resolve_left ?_
            rintro rfl
            simp [hp] at hpe

/-- An entry of the later list is found when no smaller one of the earlier list is. -/
theorem find?_sortEntries_append_right (hxs : Sorted xs) (hys : Sorted ys)
    (hy : ys.find? (fun e => p e.1) = some y) (hleast : ∀ x ∈ xs, p x.1 = true → y.1 ≤ x.1) :
    (sortEntries (xs ++ ys)).find? (fun e => p e.1) = some y := by
  obtain ⟨hymem, hpy, hyleast⟩ := (find?_eq_some_iff hys).mp hy
  refine (find?_eq_some_iff (sorted_sortEntries _)).mpr ⟨?_, hpy, fun e he hpe => ?_⟩
  · exact (mem_sortEntries_append_iff hxs.nodup hys.nodup).mpr (.inl hymem)
  · rcases (mem_sortEntries_append_iff hxs.nodup hys.nodup).mp he with he | ⟨he, -⟩
    · exact hyleast e he hpe
    · exact hleast e he hpe

/-- An entry of the earlier list is found when it is smaller than all of the later list. -/
theorem find?_sortEntries_append_left (hxs : Sorted xs) (hys : Sorted ys)
    (hx : xs.find? (fun e => p e.1) = some x) (hless : ∀ y ∈ ys, p y.1 = true → x.1 < y.1) :
    (sortEntries (xs ++ ys)).find? (fun e => p e.1) = some x := by
  obtain ⟨hxmem, hpx, hxleast⟩ := (find?_eq_some_iff hxs).mp hx
  have habsent : lookup? x.1 ys = none :=
    Option.eq_none_iff_forall_ne_some.mpr fun v hv =>
      String.lt_irrefl _ (hless (x.1, v) (mem_of_lookup? hv) hpx)
  refine (find?_eq_some_iff (sorted_sortEntries _)).mpr ⟨?_, hpx, fun e he hpe => ?_⟩
  · exact (mem_sortEntries_append_iff hxs.nodup hys.nodup).mpr (.inr ⟨hxmem, habsent⟩)
  · rcases (mem_sortEntries_append_iff hxs.nodup hys.nodup).mp he with he | ⟨he, -⟩
    · exact key_le_of_lt (hless e he hpe)
    · exact hxleast e he hpe

/-- The one of two entries that stands first: that with the smaller key, the later given one where
the keys are the same. -/
def earlier : Option (String × α) → Option (String × α) → Option (String × α)
  | some x, some y => if x.1 < y.1 then some x else some y
  | some x, none => some x
  | none, found => found

/-- Sorted together, two lists are searched as if each were searched alone. -/
theorem find?_sortEntries_append (hxs : Sorted xs) (hys : Sorted ys) (p : String → Bool) :
    (sortEntries (xs ++ ys)).find? (fun e => p e.1) =
      earlier (xs.find? fun e => p e.1) (ys.find? fun e => p e.1) := by
  cases hx : xs.find? (fun e => p e.1) with
  | some x =>
      obtain ⟨-, -, hxleast⟩ := (find?_eq_some_iff hxs).mp hx
      cases hy : ys.find? (fun e => p e.1) with
      | some y =>
          obtain ⟨-, -, hyleast⟩ := (find?_eq_some_iff hys).mp hy
          rw [earlier]
          split
          · next hlt =>
              refine find?_sortEntries_append_left hxs hys hx fun e he hpe => ?_
              exact String.not_le.mp fun hle =>
                String.not_le.mpr hlt (String.le_trans (hyleast e he hpe) hle)
          · next hge =>
              refine find?_sortEntries_append_right hxs hys hy fun e he hpe => ?_
              exact String.le_trans (String.not_lt.mp hge) (hxleast e he hpe)
      | none =>
          have hnone := List.find?_eq_none.mp hy
          exact find?_sortEntries_append_left hxs hys hx fun e he hpe => absurd hpe (hnone e he)
  | none =>
      have hnone := List.find?_eq_none.mp hx
      cases hy : ys.find? (fun e => p e.1) with
      | some y =>
          exact find?_sortEntries_append_right hxs hys hy fun e he hpe => absurd hpe (hnone e he)
      | none =>
          refine List.find?_eq_none.mpr fun e he => ?_
          rcases (mem_sortEntries_append_iff hxs.nodup hys.nodup).mp he with he | ⟨he, -⟩
          · exact List.find?_eq_none.mp hy e he
          · exact hnone e he

end StackExport.Proofs.SortedEntries
