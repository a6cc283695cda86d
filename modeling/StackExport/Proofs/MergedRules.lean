import StackExport.Traits.Reader
import StackExport.Proofs.SortedEntries
import StackExport.Proofs.WriterRun
/-!
Which rules of a table hold for a resource type.

The rules of a type come from the last shared entry and from the type's own entry. Lists of patterns
hold side by side, and a name that both entries map stands for what the type's own entry says. A
path takes the default of the smallest pattern that it matches, whichever entry the pattern is from.
-/
namespace StackExport.Proofs.MergedRules

open StackExport
open StackExport.Proofs.SortedEntries
open StackExport.Proofs.WriterRun (exists_of_bind_eq_ok)

/-! ### Entries as they are read -/

/-- Defaults and names are sorted by key. -/
def InOrder (e : ResourceTraits) : Prop := Sorted e.defaults ∧ Sorted e.attributeMap

section Reading

open StackExport.Yaml

variable {α β : Type} {P : α → Prop} {Q : β → Prop} {x : Traits.Reading α}
  {f : α → Traits.Reading β}

/-- Whatever is read has a property. -/
def Ensures (x : Traits.Reading α) (P : α → Prop) : Prop :=
  ∀ budget a left, x.run budget = some (a, left) → P a

theorem ensures_true (x : Traits.Reading α) : Ensures x fun _ => True := fun _ _ _ _ => trivial

theorem ensures_pure {a : α} (h : P a) : Ensures (pure a) P := by
  rintro budget a left ⟨⟩
  exact h

theorem Ensures.bind (hx : Ensures x P) (hf : ∀ a, P a → Ensures (f a) Q) :
    Ensures (x >>= f) Q := by
  intro budget b left h
  rw [StateT.run_bind] at h
  obtain ⟨⟨a, rest⟩, ha, hb⟩ := Option.bind_eq_some_iff.mp h
  exact hf a (hx budget a rest ha) rest b left hb

theorem ensures_bind (hf : ∀ a, Ensures (f a) Q) : Ensures (x >>= f) Q :=
  (ensures_true x).bind fun a _ => hf a

theorem ensures_mapM {f : β → Traits.Reading α} (hf : ∀ b, Ensures (f b) P) (items : List β) :
    Ensures (items.mapM f) fun read => ∀ a ∈ read, P a := by
  induction items with
  | nil =>
      rw [List.mapM_nil]
      exact ensures_pure nofun
  | cons item rest ih =>
      rw [List.mapM_cons]
      exact (hf item).bind fun a ha => ih.bind fun read hread =>
        ensures_pure (List.forall_mem_cons.mpr ⟨ha, hread⟩)

theorem ensures_field {fields : List (String × Node)} {name : String} {fallback : α}
    {read : Node → Traits.Reading α} (hfallback : P fallback) (hread : ∀ n, Ensures (read n) P) :
    Ensures (Traits.field fields name fallback read) P := by
  unfold Traits.field
  split
  · exact hread _
  · exact ensures_pure hfallback

theorem ensures_sorted {γ : Type} (d : Document) (n : Node)
    (f : String × Node → Traits.Reading (String × γ)) :
    Ensures (do
      let values ← (← Traits.entries d n).mapM f
      return sortEntries values) Sorted :=
  ensures_bind fun _ => ensures_bind fun values => ensures_pure (sorted_sortEntries values)

theorem entry_inOrder (d : Document) (n : Node) : Ensures (Traits.entry d n) InOrder := by
  unfold Traits.entry
  refine ensures_bind fun fields => ensures_bind fun _ => ?_
  iterate 6 refine ensures_bind fun _ => ?_
  refine (ensures_field List.Pairwise.nil fun n => ensures_sorted d n _).bind
    fun defaults hdefaults => ?_
  iterate 2 refine ensures_bind fun _ => ?_
  refine (ensures_field List.Pairwise.nil fun n => ensures_sorted d n _).bind fun names hnames => ?_
  exact ensures_pure ⟨hdefaults, hnames⟩

/-- The entries of a document have their defaults and names in order. -/
theorem ofDocument_inOrder {d : Document} {entries : List ResourceTraits}
    (h : Traits.ofDocument d = some entries) {e : ResourceTraits} (he : e ∈ entries) :
    InOrder e := by
  unfold Traits.ofDocument at h
  split at h
  · next n _ =>
      obtain ⟨⟨read, left⟩, hread, rfl⟩ := Option.map_eq_some_iff.mp h
      have hall : Ensures (do (← Traits.items d n).mapM (Traits.entry d)) fun read =>
          ∀ a ∈ read, InOrder a :=
        ensures_bind fun items => ensures_mapM (entry_inOrder d) items
      exact hall _ _ _ hread e he
  · cases h
    simp at he

end Reading

/-! ### The entries of a resource type -/

/-- The entries that are shared by all types. -/
def sharedEntries (entries : List ResourceTraits) : List ResourceTraits :=
  entries.filter (·.resourceType == TraitTable.sharedName)

/-- The entry of a single type. -/
def entryOf? (t : String) (entries : List ResourceTraits) : Option ResourceTraits :=
  if t == TraitTable.sharedName then none else entries.find? (·.resourceType == t)

variable {table start next : TraitTable} {entries : List ResourceTraits} {e : ResourceTraits}
  {t : String}

/-- What adding an entry can do: a shared one takes the place of the one before, and the entry of a
single type must be its first. -/
theorem add_cases (h : TraitTable.add start e = .ok next) :
    (e.resourceType = TraitTable.sharedName ∧ next = { start with shared := e }) ∨
      e.resourceType ≠ TraitTable.sharedName ∧ lookup? e.resourceType start.byType = none ∧
        next = { start with byType := start.byType ++ [(e.resourceType, e)] } := by
  unfold TraitTable.add at h
  split at h
  · next hshared =>
      cases h
      exact .inl ⟨beq_iff_eq.mp hshared, rfl⟩
  · next hown =>
      split at h
      · cases h
      · next hnew =>
          cases h
          refine .inr ⟨fun h => hown (beq_iff_eq.mpr h), ?_, rfl⟩
          exact Option.not_isSome_iff_eq_none.mp hnew

theorem lookup?_concat (key other : String) (e : ResourceTraits)
    (given : List (String × ResourceTraits)) :
    lookup? key (given ++ [(other, e)]) =
      (lookup? key given).or (if other = key then some e else none) := by
  induction given with
  | nil => simp [lookup?]
  | cons first rest ih =>
      obtain ⟨k, v⟩ := first
      rw [List.cons_append, lookup?, lookup?]
      split
      · rfl
      · exact ih

theorem shared_foldlM (h : entries.foldlM TraitTable.add start = .ok table) :
    table.shared = (sharedEntries entries).getLast?.getD start.shared := by
  induction entries generalizing start with
  | nil =>
      cases h
      rfl
  | cons entry rest ih =>
      obtain ⟨next, hadd, hrest⟩ := exists_of_bind_eq_ok h
      rw [ih hrest, sharedEntries, sharedEntries, List.filter_cons]
      rcases add_cases hadd with ⟨hshared, rfl⟩ | ⟨hown, -, rfl⟩
      · rw [if_pos (beq_iff_eq.mpr hshared), List.getLast?_cons]
        rfl
      · rw [if_neg (by simpa using hown)]

theorem entryOf?_cons (t : String) (e : ResourceTraits) (entries : List ResourceTraits) :
    entryOf? t (e :: entries) =
      if e.resourceType = t ∧ e.resourceType ≠ TraitTable.sharedName then some e
      else entryOf? t entries := by
  unfold entryOf?
  by_cases ht : t = TraitTable.sharedName
  · simp only [beq_iff_eq, if_pos ht]
    exact (if_neg fun h => h.2 (h.1.trans ht)).symm
  · simp only [beq_iff_eq, if_neg ht, List.find?_cons]
    by_cases he : e.resourceType = t
    · rw [if_pos ⟨he, he ▸ ht⟩, beq_iff_eq.mpr he]
    · rw [if_neg fun h => he h.1, beq_eq_false_iff_ne.mpr he]

theorem byType_foldlM (h : entries.foldlM TraitTable.add start = .ok table) (t : String) :
    lookup? t table.byType = (lookup? t start.byType).or (entryOf? t entries) := by
  induction entries generalizing start with
  | nil =>
      cases h
      simp [entryOf?]
  | cons entry rest ih =>
      obtain ⟨next, hadd, hrest⟩ := exists_of_bind_eq_ok h
      rw [ih hrest, entryOf?_cons]
      rcases add_cases hadd with ⟨hshared, rfl⟩ | ⟨hown, -, rfl⟩
      · rw [if_neg fun h => h.2 hshared]
      · rw [lookup?_concat, Option.or_assoc]
        by_cases ht : entry.resourceType = t
        · simp [ht, ht ▸ hown]
        · simp [ht]

/-- A type has one entry of its own. -/
theorem entryOf?_of_mem (h : entries.foldlM TraitTable.add start = .ok table) (he : e ∈ entries)
    (hown : e.resourceType ≠ TraitTable.sharedName) :
    entryOf? e.resourceType entries = some e ∧ lookup? e.resourceType start.byType = none := by
  induction entries generalizing start with
  | nil => simp at he
  | cons entry rest ih =>
      obtain ⟨next, hadd, hrest⟩ := exists_of_bind_eq_ok h
      rw [entryOf?_cons]
      rcases List.mem_cons.mp he with rfl | he
      · rcases add_cases hadd with ⟨hshared, -⟩ | ⟨-, hnew, -⟩
        · exact absurd hshared hown
        · exact ⟨if_pos ⟨rfl, hown⟩, hnew⟩
      · obtain ⟨hfound, hnone⟩ := ih hrest he
        rcases add_cases hadd with ⟨hshared, rfl⟩ | ⟨-, hnew, rfl⟩
        · exact ⟨(if_neg fun h => h.2 hshared).trans hfound, hnone⟩
        · rw [lookup?_concat, Option.or_eq_none_iff] at hnone
          obtain ⟨hnone, hother⟩ := hnone
          refine ⟨(if_neg ?_).trans hfound, hnone⟩
          rintro ⟨hsame, -⟩
          simp [hsame] at hother

/-- The shared entry that counts. -/
def sharedEntry (entries : List ResourceTraits) : ResourceTraits :=
  (sharedEntries entries).getLast?.getD (.none TraitTable.sharedName)

/-- The rules that two entries give to a type. -/
def mergedRules (t : String) (shared : ResourceTraits) (own? : Option ResourceTraits) :
    ResourceTraits :=
  match own? with
  | some own => .consolidate shared own
  | none => { shared with resourceType := t }

/-- No other entry matters to the rules of a type. -/
theorem get_eq (h : TraitTable.ofEntries entries = .ok table) (t : String) :
    table.get t = mergedRules t (sharedEntry entries) (entryOf? t entries) := by
  rw [TraitTable.get, byType_foldlM h, shared_foldlM h]
  rfl

theorem mem_of_entryOf? {own : ResourceTraits} (h : entryOf? t entries = some own) :
    own ∈ entries ∧ own.resourceType = t := by
  unfold entryOf? at h
  split at h
  · cases h
  · have hname := List.find?_some h
    exact ⟨List.mem_of_find?_eq_some h, beq_iff_eq.mp hname⟩

/-! ### Rules in force -/

/-- The rules of an entry hold, but for defaults and names that another entry gives otherwise. What
an entry gives to a path is its first default there, and what it makes a loser is so by one of its
groups. -/
structure InForce (e rules : ResourceTraits) (specific : Option ResourceTraits) : Prop where
  required : ∀ path, e.isRequired path = true → rules.isRequired path = true
  unconfigurable : ∀ path, e.isUnconfigurable path = true → rules.isUnconfigurable path = true
  nonBlock : ∀ path, e.isNonBlock path = true → rules.isNonBlock path = true
  blockObject : ∀ path, e.isBlockObject path = true → rules.isBlockObject path = true
  repeatedBlock : ∀ path, e.isRepeatedBlock path = true → rules.isRepeatedBlock path = true
  conflict : ∀ path populated, e.isConflictLoser path populated = true →
    rules.isConflictLoser path populated = true
  conditional : ∀ path value, e.isConditionalDefault path value = true →
    rules.isConditionalDefault path value = true
  default : ∀ path value, e.defaultFor path = some value →
    (∀ own ∈ specific, ∀ other, own.defaultFor path = some other → other = value) →
    rules.defaultFor path = some value
  mapped : ∀ name target, lookup? name e.attributeMap = some target →
    (∀ own ∈ specific, ∀ other, lookup? name own.attributeMap = some other → other = target) →
    rules.mapAttributeName name = target

/-- All patterns and groups of an entry are among given ones. -/
structure Included (e rules : ResourceTraits) : Prop where
  required : e.required ⊆ rules.required
  unconfigurable : e.unconfigurable ⊆ rules.unconfigurable
  nonBlock : e.nonBlock ⊆ rules.nonBlock
  blockObject : e.blockObject ⊆ rules.blockObject
  repeatedBlock : e.repeatedBlock ⊆ rules.repeatedBlock
  conflicts : e.conflicts ⊆ rules.conflicts
  conditional : e.conditional ⊆ rules.conditional

variable {shared own rules : ResourceTraits} {specific : Option ResourceTraits} {path : Path}

theorem included_consolidate_left (shared own : ResourceTraits) :
    Included shared (.consolidate shared own) := by
  constructor <;> exact List.subset_append_left _ _

theorem included_consolidate_right (shared own : ResourceTraits) :
    Included own (.consolidate shared own) := by
  constructor <;> exact List.subset_append_right _ _

theorem any_of_subset {γ : Type} {xs ys : List γ} {p : γ → Bool} (h : xs ⊆ ys)
    (hany : xs.any p = true) : ys.any p = true := by
  obtain ⟨x, hx, hp⟩ := List.any_eq_true.mp hany
  exact List.any_eq_true.mpr ⟨x, h hx, hp⟩

theorem Included.inForce (h : Included e rules)
    (hdefault : ∀ path value, e.defaultFor path = some value →
      (∀ own ∈ specific, ∀ other, own.defaultFor path = some other → other = value) →
      rules.defaultFor path = some value)
    (hmapped : ∀ name target, lookup? name e.attributeMap = some target →
      (∀ own ∈ specific, ∀ other, lookup? name own.attributeMap = some other → other = target) →
      lookup? name rules.attributeMap = some target) : InForce e rules specific where
  required _ := any_of_subset h.required
  unconfigurable path hpath := by
    rw [ResourceTraits.isUnconfigurable, Bool.or_eq_true] at hpath ⊢
    exact hpath.imp_right (any_of_subset h.unconfigurable)
  nonBlock _ := any_of_subset h.nonBlock
  blockObject _ := any_of_subset h.blockObject
  repeatedBlock _ := any_of_subset h.repeatedBlock
  conflict _ _ := any_of_subset h.conflicts
  conditional _ _ := any_of_subset h.conditional
  default := hdefault
  mapped name target hname hover := by
    rw [ResourceTraits.mapAttributeName, hmapped name target hname hover]

/-- The entry of the default that a path gets. -/
def firstDefault (e : ResourceTraits) (path : Path) : Option (String × Json) :=
  e.defaults.find? fun d => path.isLike d.1

theorem defaultFor_eq (e : ResourceTraits) (path : Path) :
    e.defaultFor path = (firstDefault e path).map (·.2) := rfl

theorem firstDefault_consolidate (hshared : InOrder shared) (hown : InOrder own) (path : Path) :
    firstDefault (.consolidate shared own) path =
      earlier (firstDefault shared path) (firstDefault own path) :=
  find?_sortEntries_append hshared.1 hown.1 path.isLike

/-- The shared default at a path has a smaller pattern than the type's own, and another value. -/
def Shadowed (shared own : ResourceTraits) (path : Path) : Prop :=
  ∃ x y, firstDefault shared path = some x ∧ firstDefault own path = some y ∧ x.1 < y.1 ∧ x.2 ≠ y.2

theorem defaultFor_consolidate_shared (hshared : InOrder shared) (hown : InOrder own) {value : Json}
    (h : shared.defaultFor path = some value)
    (hover : ∀ other, own.defaultFor path = some other → other = value) :
    (ResourceTraits.consolidate shared own).defaultFor path = some value := by
  obtain ⟨x, hx, rfl⟩ := Option.map_eq_some_iff.mp h
  rw [defaultFor_eq, firstDefault_consolidate hshared hown]
  change firstDefault shared path = some x at hx
  rw [hx]
  cases hy : firstDefault own path with
  | none => rfl
  | some y =>
      have hsame : y.2 = x.2 := hover y.2 (by rw [defaultFor_eq, hy]; rfl)
      rw [earlier]
      split
      · rfl
      · exact congrArg some hsame

theorem defaultFor_consolidate_own (hshared : InOrder shared) (hown : InOrder own) {value : Json}
    (h : own.defaultFor path = some value) :
    (ResourceTraits.consolidate shared own).defaultFor path = some value ↔
      ¬Shadowed shared own path := by
  obtain ⟨y, hy, rfl⟩ := Option.map_eq_some_iff.mp h
  change firstDefault own path = some y at hy
  rw [defaultFor_eq, firstDefault_consolidate hshared hown, hy]
  cases hx : firstDefault shared path with
  | none =>
      have hnot : ¬Shadowed shared own path := fun ⟨x, _, hx', _⟩ => by simp [hx] at hx'
      exact iff_of_true rfl hnot
  | some x =>
      have hshadowed : Shadowed shared own path ↔ x.1 < y.1 ∧ x.2 ≠ y.2 := by
        simp only [Shadowed, hx, hy, Option.some.injEq]
        constructor
        · rintro ⟨x', y', rfl, rfl, hboth⟩
          exact hboth
        · exact fun hboth => ⟨x, y, rfl, rfl, hboth⟩
      rw [hshadowed, earlier]
      by_cases hlt : x.1 < y.1
      · rw [if_pos hlt]
        simp only [Option.map_some, Option.some.injEq, hlt, true_and, not_not]
      · rw [if_neg hlt]
        exact iff_of_true rfl fun hboth => hlt hboth.1

theorem lookup?_consolidate (hshared : InOrder shared) (hown : InOrder own) (name : String) :
    lookup? name (ResourceTraits.consolidate shared own).attributeMap =
      (lookup? name own.attributeMap).or (lookup? name shared.attributeMap) :=
  lookup?_sortEntries_append hshared.2.nodup hown.2.nodup name

theorem inForce_consolidate_shared (hshared : InOrder shared) (hown : InOrder own) :
    InForce shared (.consolidate shared own) (some own) := by
  refine (included_consolidate_left shared own).inForce (fun path value h hover => ?_)
    fun name target h hover => ?_
  · exact defaultFor_consolidate_shared hshared hown h (hover own rfl)
  · rw [lookup?_consolidate hshared hown, h]
    cases hname : lookup? name own.attributeMap with
    | none => rfl
    | some other => exact congrArg some (hover own rfl other hname)

theorem inForce_consolidate_own_iff (hshared : InOrder shared) (hown : InOrder own) :
    InForce own (.consolidate shared own) none ↔ ∀ path, ¬Shadowed shared own path := by
  constructor
  · intro h path hpath
    obtain ⟨x, y, hx, hy, hlt, hne⟩ := id hpath
    have hdefault : own.defaultFor path = some y.2 := by rw [defaultFor_eq, hy]; rfl
    have hkept := h.default path y.2 hdefault nofun
    exact (defaultFor_consolidate_own hshared hown hdefault).mp hkept hpath
  · intro h
    refine (included_consolidate_right shared own).inForce (fun path value hdefault _ => ?_)
      fun name target hname _ => ?_
    · exact (defaultFor_consolidate_own hshared hown hdefault).mpr (h path)
    · rw [lookup?_consolidate hshared hown, hname]
      rfl

theorem inForce_renamed (e : ResourceTraits) (t : String) (specific : Option ResourceTraits) :
    InForce e { e with resourceType := t } specific :=
  Included.inForce ⟨.refl _, .refl _, .refl _, .refl _, .refl _, .refl _, .refl _⟩
    (fun _ _ h _ => h) fun _ _ h _ => h

/-! ### All entries of a table -/

/-- Every rule of the shared entries and of a type's own is in force, and the own ones win. -/
def Honoured (entries : List ResourceTraits) (t : String) (rules : ResourceTraits) : Prop :=
  ∀ e ∈ entries,
    (e.resourceType = TraitTable.sharedName → InForce e rules (entryOf? t entries)) ∧
      (e.resourceType = t → InForce e rules none)

theorem mem_sharedEntries_iff :
    e ∈ sharedEntries entries ↔ e ∈ entries ∧ e.resourceType = TraitTable.sharedName := by
  rw [sharedEntries, List.mem_filter, beq_iff_eq]

/-- A shared entry is replaced by a later one, or it counts. -/
theorem replaced_or_counts (h : e ∈ sharedEntries entries) :
    e ∈ (sharedEntries entries).dropLast ∨ sharedEntry entries = e := by
  have hne := List.ne_nil_of_mem h
  rw [← List.dropLast_concat_getLast hne, List.mem_append, List.mem_singleton] at h
  refine h.imp_right fun hlast => ?_
  rw [sharedEntry, List.getLast?_eq_some_getLast hne, hlast]
  rfl

theorem inOrder_sharedEntry (h : ∀ e ∈ entries, InOrder e) : InOrder (sharedEntry entries) := by
  unfold sharedEntry
  cases hlast : (sharedEntries entries).getLast? with
  | none => exact ⟨List.Pairwise.nil, List.Pairwise.nil⟩
  | some e => exact h e (mem_sharedEntries_iff.mp (List.mem_of_getLast? hlast)).1

theorem inForce_sharedEntry (h : TraitTable.ofEntries entries = .ok table)
    (horder : ∀ e ∈ entries, InOrder e) (t : String) :
    InForce (sharedEntry entries) (table.get t) (entryOf? t entries) := by
  rw [get_eq h]
  cases hown : entryOf? t entries with
  | none => exact inForce_renamed _ t none
  | some own =>
      exact inForce_consolidate_shared (inOrder_sharedEntry horder)
        (horder own (mem_of_entryOf? hown).1)

theorem inForce_own_iff (h : TraitTable.ofEntries entries = .ok table)
    (horder : ∀ e ∈ entries, InOrder e) (hown : entryOf? t entries = some own) :
    InForce own (table.get t) none ↔ ∀ path, ¬Shadowed (sharedEntry entries) own path := by
  rw [get_eq h, hown]
  exact inForce_consolidate_own_iff (inOrder_sharedEntry horder)
    (horder own (mem_of_entryOf? hown).1)

/-- What can go wrong is that a shared entry is replaced, and that a shared default is found in
front of one of the type's own. -/
theorem honoured_iff (h : TraitTable.ofEntries entries = .ok table)
    (horder : ∀ e ∈ entries, InOrder e) (t : String) :
    Honoured entries t (table.get t) ↔
      (∀ e ∈ (sharedEntries entries).dropLast, InForce e (table.get t) (entryOf? t entries)) ∧
        ∀ own ∈ entryOf? t entries, ∀ path, ¬Shadowed (sharedEntry entries) own path := by
  constructor
  · refine fun hall => ⟨fun e he => ?_, fun own hown => ?_⟩
    · obtain ⟨hmem, hname⟩ := mem_sharedEntries_iff.mp (List.dropLast_subset _ he)
      exact (hall e hmem).1 hname
    · obtain ⟨hmem, hname⟩ := mem_of_entryOf? hown
      exact (inForce_own_iff h horder hown).mp ((hall own hmem).2 hname)
  · rintro ⟨hreplaced, hshadowed⟩ e he
    have hshared (hname : e.resourceType = TraitTable.sharedName) :
        InForce e (table.get t) (entryOf? t entries) := by
      rcases replaced_or_counts (mem_sharedEntries_iff.mpr ⟨he, hname⟩) with hmem | rfl
      · exact hreplaced e hmem
      · exact inForce_sharedEntry h horder t
    refine ⟨hshared, ?_⟩
    rintro rfl
    by_cases hname : e.resourceType = TraitTable.sharedName
    · have hnone : entryOf? e.resourceType entries = none := if_pos (beq_iff_eq.mpr hname)
      exact hnone ▸ hshared hname
    · have hown := (entryOf?_of_mem h he hname).1
      exact (inForce_own_iff h horder hown).mpr (hshadowed e hown)

/-- For every document that is accepted: the rules of a type are those of the last shared entry and
of the type's own. They honour all entries exactly when the rules of the replaced shared entries are
in force anyway and no default of the type's own has a different shared one in front of it. -/
theorem merged_rules_honoured_iff {text : String} (h : TraitTable.parse text = .ok table)
    (t : String) :
    ∃ entries, (Yaml.Document.parse? text).bind Traits.ofDocument = some entries ∧
      table.get t = mergedRules t (sharedEntry entries) (entryOf? t entries) ∧
      (Honoured entries t (table.get t) ↔
        (∀ e ∈ (sharedEntries entries).dropLast, InForce e (table.get t) (entryOf? t entries)) ∧
          ∀ own ∈ entryOf? t entries, ∀ path, ¬Shadowed (sharedEntry entries) own path) := by
  unfold TraitTable.parse at h
  split at h
  · next entries hread =>
      obtain ⟨d, -, hd⟩ := Option.bind_eq_some_iff.mp hread
      have horder e (he : e ∈ entries) : InOrder e := ofDocument_inOrder hd he
      exact ⟨entries, hread, get_eq h t, honoured_iff h horder t⟩
  · cases h

/-- A document is accepted, and what it says and the table that it gives have a property. -/
def accepted (text : String) (p : List ResourceTraits → TraitTable → Bool) : Bool :=
  match (Yaml.Document.parse? text).bind Traits.ofDocument, TraitTable.parse text with
  | some entries, .ok table => p entries table
  | _, _ => false

theorem exists_of_accepted {text : String} {p : List ResourceTraits → TraitTable → Bool}
    (h : accepted text p = true) :
    ∃ entries table, (Yaml.Document.parse? text).bind Traits.ofDocument = some entries ∧
      TraitTable.parse text = .ok table ∧ p entries table = true := by
  unfold accepted at h
  split at h
  · next entries table hread hparse => exact ⟨entries, table, hread, hparse, h⟩
  · cases h

/-- A shared entry without defaults, and one of a type's own. -/
def sampleText : String := "- resource_type: all\n- resource_type: a\n"

theorem merged_rules_honoured_iff_two_entries :
    ∃ entries table, (Yaml.Document.parse? sampleText).bind Traits.ofDocument = some entries ∧
      TraitTable.parse sampleText = .ok table ∧ Honoured entries "a" (table.get "a") := by
  have haccepted : accepted sampleText (fun entries _ =>
      (sharedEntries entries).dropLast.isEmpty && (sharedEntry entries).defaults.isEmpty) = true := by
    decide +kernel
  obtain ⟨entries, table, hread, hparse, h⟩ := exists_of_accepted haccepted
  simp only [Bool.and_eq_true, List.isEmpty_iff] at h
  obtain ⟨hreplaced, hdefaults⟩ := h
  obtain ⟨entries', hread', -, hiff⟩ := merged_rules_honoured_iff hparse "a"
  obtain rfl : entries = entries' := Option.some.inj (hread.symm.trans hread')
  refine ⟨entries, table, hread, hparse, hiff.mpr ⟨?_, ?_⟩⟩
  · rw [hreplaced]
    exact nofun
  · rintro own - path ⟨x, y, hx, -⟩
    simp [firstDefault, hdefaults] at hx

/-- The shared pattern is smaller than the type's own name, which it matches. -/
def shadowingText : String :=
  "- resource_type: all\n  default_values:\n    \"a*\": shared\n" ++
    "- resource_type: x\n  default_values:\n    ab: own\n"

/-- There are two shared entries. -/
def replacingText : String :=
  "- resource_type: all\n  required_attributes: [a]\n- resource_type: all\n"

def isText (value : Option Json) (text : String) : Bool :=
  match value with
  | some (.string s) => s == text
  | _ => false

theorem isText_iff {value : Option Json} {text : String} :
    isText value text = true ↔ value = some (.string text) := by
  unfold isText
  split
  · next s => simp
  · next h => exact iff_of_false Bool.false_ne_true fun heq => h text heq

/-- A document is accepted, and the rules of a type do not honour its entries. -/
def Dishonoured (text t : String) : Prop :=
  ∃ entries table, (Yaml.Document.parse? text).bind Traits.ofDocument = some entries ∧
    TraitTable.parse text = .ok table ∧ ¬Honoured entries t (table.get t)

/-- A type's own default can be lost to a shared one, and a shared entry to a later one. -/
theorem rules_not_honoured : Dishonoured shadowingText "x" ∧ Dishonoured replacingText "x" := by
  have hshadowing : accepted shadowingText (fun entries table =>
      entries.any (fun e => e.resourceType == "x" && isText (e.defaultFor ⟨["ab"]⟩) "own") &&
        isText ((table.get "x").defaultFor ⟨["ab"]⟩) "shared") = true := by
    decide +kernel
  have hreplacing : accepted replacingText (fun entries table =>
      entries.any (fun e => e.resourceType == TraitTable.sharedName && e.isRequired ⟨["a"]⟩) &&
        !(table.get "x").isRequired ⟨["a"]⟩) = true := by
    decide +kernel
  constructor
  · obtain ⟨entries, table, hread, hparse, h⟩ := exists_of_accepted hshadowing
    refine ⟨entries, table, hread, hparse, fun hall => ?_⟩
    simp only [Bool.and_eq_true, List.any_eq_true, beq_iff_eq, isText_iff] at h
    obtain ⟨⟨e, he, hname, hown⟩, hgot⟩ := h
    have hkept := ((hall e he).2 hname).default _ _ hown nofun
    rw [hgot] at hkept
    simp at hkept
  · obtain ⟨entries, table, hread, hparse, h⟩ := exists_of_accepted hreplacing
    refine ⟨entries, table, hread, hparse, fun hall => ?_⟩
    simp only [Bool.and_eq_true, List.any_eq_true, beq_iff_eq, Bool.not_eq_true'] at h
    obtain ⟨⟨e, he, hname, hrequired⟩, hgot⟩ := h
    have hkept := ((hall e he).1 hname).required _ hrequired
    rw [hgot] at hkept
    cases hkept

end StackExport.Proofs.MergedRules
