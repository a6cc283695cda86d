import StackExport.Proofs.ConflictDecisions
import StackExport.Proofs.ConflictGroups
/-!
The order of a resource's attributes.

The text of a resource is that of its attributes one after the other, and what an attribute
contributes depends on the other attributes only through the set of populated paths.
-/
namespace StackExport.Proofs.EntryOrder

open StackExport
open StackExport.Resource
open StackExport.Proofs.ResourceCompleteness
open StackExport.Proofs.WritableStream
open StackExport.Proofs.SerializedResource
open StackExport.Proofs.WrittenText
open StackExport.Proofs.ValueLayout
open StackExport.Proofs.BodyLines
open StackExport.Proofs.PopulatedPaths
open StackExport.Proofs.BlockLookahead
open StackExport.Proofs.ConflictDecisions
open StackExport.Proofs.ConflictGroups (pairRules)

variable {c : Context} {r : Rules} {path : Path} {type name : String} {d : Draft}
  {entry : String × AttributeTree} {entries entries' : List (String × AttributeTree)}

/-! ### Populated paths, entry by entry -/

/-- The paths with content at and below an entry of a body. -/
def entryPaths (r : Rules) (path : Path) (entry : String × AttributeTree) : List Path :=
  match populatedPaths r.traits (r.keyed (path.child entry.1) entry.1 entry.2) with
  | .ok paths => paths
  | .error _ => []

theorem keyed_yields (r : Rules) (path : Path) (entry : String × AttributeTree) :
    Yields r.traits (r.keyed (path.child entry.1) entry.1 entry.2) (entryPaths r path entry) := by
  obtain ⟨paths, hpaths⟩ :=
    exists_yields (keyed_phrase r (path.child entry.1) entry.1 entry.2) r.traits
  have hall := hpaths [] [] rfl
  rw [List.append_nil, List.append_nil] at hall
  rwa [entryPaths, hall]

theorem body_yields (r : Rules) (path : Path) (entries : List (String × AttributeTree)) :
    Yields r.traits (r.body path entries) (entries.flatMap (entryPaths r path)) := by
  induction entries with
  | nil => exact yields_nil _
  | cons entry rest ih =>
      rw [Rules.body, List.flatMap_cons]
      exact (keyed_yields r path entry).append ih

/-- What is known while a resource with given entries is written. -/
abbrev entriesContext (r : Rules) (type name : String) (entries : List (String × AttributeTree)) :
    Context :=
  resourceContext r type name (.object entries)

/-- A path is populated if some entry of the resource has content there. -/
theorem mem_populated_object_iff {p : Path} :
    p ∈ (entriesContext r type name entries).populated ↔
      ∃ entry ∈ entries, p ∈ entryPaths r .root entry := by
  have hall := (body_yields r .root entries).append (missing_yields r .root (entries.map (·.1)))
  have hpopulated : (entriesContext r type name entries).populated = _ :=
    populated_of_yields type name hall
  rw [hpopulated, List.append_nil, List.mem_flatMap]

/-! ### The text, entry by entry -/

/-- What an entry of a resource contributes to the text. -/
def entryText (c : Context) (r : Rules) (entry : String × AttributeTree) : String :=
  linesText 1 (keyedLines c r (.child .root entry.1) entry.1 entry.2)

/-- What the required names contribute that are put in at the end. -/
def missingText (c : Context) (r : Rules) (present : List String) : String :=
  linesText 1 (missingLines c r .root present)

theorem linesText_bodyLines (c : Context) (r : Rules) (entries : List (String × AttributeTree)) :
    linesText 1 (bodyLines c r .root entries) = String.join (entries.map (entryText c r)) := by
  induction entries with
  | nil => rfl
  | cons entry rest ih =>
      rw [bodyLines_cons, linesText_append, ih, List.map_cons, String.join_cons]
      rfl

theorem write_object (r : Rules) (type name : String) (entries : List (String × AttributeTree)) :
    write r.traits (r.events type name (.object entries)) =
      .ok (resourceOpening type name ++
        String.join (entries.map (entryText (entriesContext r type name entries) r)) ++
        missingText (entriesContext r type name entries) r (entries.map (·.1)) ++
        "\x7d\n\n") := by
  have htext := events_text r.traits r.schema type name (.object entries)
  rw [rootLines, linesText_append, linesText_bodyLines, ← String.append_assoc] at htext
  exact htext

/-- While the writer goes over the events of an entry, it adds what the entry contributes. -/
theorem entry_adds (c : Context) (r : Rules) (entry : String × AttributeTree) (h : AtAttributes d)
    (hdepth : depth d = 1) :
    Adds c d (r.keyed (.child .root entry.1) entry.1 entry.2) (entryText c r entry) := by
  have hbody := body_adds c r .root [entry] h
  rw [Rules.body, Rules.body, bodyLines_cons, bodyLines, List.append_nil, List.append_nil,
    hdepth] at hbody
  exact hbody

/-! ### Entries in another order -/

theorem missingRequired_congr {present present' : List String}
    (h : ∀ name, name ∈ present ↔ name ∈ present') (r : Rules) (path : Path) :
    r.missingRequired path present = r.missingRequired path present' := by
  have hcontains : present.contains = present'.contains := by
    funext name
    rw [Bool.eq_iff_iff, List.contains_iff_mem, List.contains_iff_mem, h]
  rw [Rules.missingRequired, Rules.missingRequired, hcontains]

theorem populated_perm (h : entries.Perm entries') (p : Path) :
    p ∈ (entriesContext r type name entries').populated ↔
      p ∈ (entriesContext r type name entries).populated := by
  simp only [mem_populated_object_iff, h.mem_iff]

theorem agree_perm (h : entries.Perm entries') (run : List Event) :
    Agree (entriesContext r type name entries)
      (entriesContext r type name entries') run where
  traits_eq := rfl
  loser_eq key _ _ := isConflictLoser_congr (populated_perm h) key.path

theorem entryText_perm (h : entries.Perm entries') :
    entryText (entriesContext r type name entries') r =
      entryText (entriesContext r type name entries) r := by
  funext entry
  have hagree : Agree (entriesContext r type name entries) (entriesContext r type name entries')
      (r.body .root [entry]) := agree_perm h _
  have hsame := hagree.bodyLines_eq [entry]
  rw [bodyLines_cons, bodyLines_cons, bodyLines, bodyLines, List.append_nil,
    List.append_nil] at hsame
  rw [entryText, entryText, hsame]

theorem missingText_perm (h : entries.Perm entries') :
    missingText (entriesContext r type name entries') r (entries'.map (·.1)) =
      missingText (entriesContext r type name entries) r (entries.map (·.1)) := by
  have hnames := missingRequired_congr (fun name => (h.map (·.1)).symm.mem_iff (a := name)) r .root
  rw [missingText, missingText, missingLines, missingLines, hnames]
  rfl

/-- A path loses a conflict to a path that some entry of the resource populates. -/
def LosesToEntry (r : Rules) (entries : List (String × AttributeTree)) (path : Path) : Prop :=
  LosesTo r.traits (fun p => ∃ entry ∈ entries, p ∈ entryPaths r .root entry) path

theorem isConflictLoser_iff_losesToEntry (r : Rules) (type name : String)
    (entries : List (String × AttributeTree)) (path : Path) :
    r.traits.isConflictLoser path (entriesContext r type name entries).populated = true ↔
      LosesToEntry r entries path := by
  rw [isConflictLoser_iff]
  simp only [LosesToEntry, mem_populated_object_iff]

/-- The text of a resource is made of the texts of its entries, with the required names that it lacks
at the end, and of the same texts if the entries come in another order. What an entry contributes is
what the writer of either resource adds while it goes over its events. The winners of conflicts come
from the order in the groups. -/
theorem entry_order_irrelevant (r : Rules) (type name : String) (h : entries.Perm entries') :
    write r.traits (r.events type name (.object entries)) =
      .ok (resourceOpening type name ++
        String.join (entries.map (entryText (entriesContext r type name entries) r)) ++
        missingText (entriesContext r type name entries) r (entries.map (·.1)) ++ "\x7d\n\n") ∧
    write r.traits (r.events type name (.object entries')) =
      .ok (resourceOpening type name ++
        String.join (entries'.map (entryText (entriesContext r type name entries) r)) ++
        missingText (entriesContext r type name entries) r (entries.map (·.1)) ++ "\x7d\n\n") ∧
    (∀ entry ∈ entries, ∀ d, AtAttributes d → depth d = 1 →
      Adds (entriesContext r type name entries) d (r.keyed (.child .root entry.1) entry.1 entry.2)
          (entryText (entriesContext r type name entries) r entry) ∧
        Adds (entriesContext r type name entries') d (r.keyed (.child .root entry.1) entry.1 entry.2)
          (entryText (entriesContext r type name entries) r entry)) ∧
    ∀ path,
      (r.traits.isConflictLoser path (entriesContext r type name entries).populated = true ↔
        LosesToEntry r entries path) ∧
      (r.traits.isConflictLoser path (entriesContext r type name entries').populated = true ↔
        LosesToEntry r entries path) := by
  have htext := write_object r type name entries'
  rw [entryText_perm h, missingText_perm h] at htext
  refine ⟨write_object r type name entries, htext, fun entry _ d hd hdepth => ⟨?_, ?_⟩,
    fun path => ⟨isConflictLoser_iff_losesToEntry r type name entries path, ?_⟩⟩
  · exact entry_adds _ r entry hd hdepth
  · have hadds := entry_adds (entriesContext r type name entries') r entry hd hdepth
    rwa [entryText_perm h] at hadds
  · rw [isConflictLoser_congr (populated_perm h) path]
    exact isConflictLoser_iff_losesToEntry r type name entries path

theorem entry_order_irrelevant_pair :
    LosesToEntry (pairRules []) [("a", .string "x"), ("b", .string "y")] ⟨["b"]⟩ ∧
      (pairRules []).traits.isConflictLoser ⟨["b"]⟩
        (entriesContext (pairRules []) "t" "n" [("b", .string "y"), ("a", .string "x")]).populated =
          true := by
  obtain ⟨-, -, -, hloses⟩ := entry_order_irrelevant (pairRules []) "t" "n"
    (List.Perm.swap ("b", .string "y") ("a", .string "x") [])
  obtain ⟨hfirst, hsecond⟩ := hloses ⟨["b"]⟩
  have hloser := hfirst.mp (by decide)
  exact ⟨hloser, hsecond.mpr hloser⟩

end StackExport.Proofs.EntryOrder
