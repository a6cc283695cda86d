import Mathlib
import StackExport.Proofs.ParsedTemplate
import StackExport.Proofs.TemplateDependencies
/-!
The order in which the resources of a template are created.

Resources get their places one after the other, and each counts how many of those that it depends on
have none yet. The counts are right all along, so none falls below zero. Nobody is ready any more when
what is left over waits for something that is left over too. From there a cycle can be reached, as
there are only so many resources, and it cannot from what has a place.
-/
namespace StackExport.Proofs.CreationOrder

open StackExport
open StackExport.Template
open StackExport.Proofs.ParsedTemplate
open StackExport.Proofs.TemplateDependencies
open Relation (ReflTransGen TransGen)

/-- A resource depends on another, or on itself. -/
def DependsOn (t : Template) (a b : String) : Prop :=
  ∃ e ∈ t.edges, e.source = a ∧ e.target = b ∧ HasResource t b

/-- The dependencies of a resource lead into a cycle. -/
def ReachesCycle (t : Template) (a : String) : Prop :=
  ∃ c, ReflTransGen (DependsOn t) a c ∧ TransGen (DependsOn t) c c

open Classical in
/-- The resources of a template, each once, in an order in which they can be created as far as no
cycle stands in the way. -/
structure IsCreationOrder (t : Template) (order : List String) : Prop where
  once : order.Nodup
  mem_iff : ∀ id, id ∈ order ↔ HasResource t id
  follows : ∀ before id after, order = before ++ id :: after → ¬ReachesCycle t id →
    ∀ target, DependsOn t id target → target ∈ before
  cyclicLast : ∃ acyclic, (∀ id ∈ acyclic, ¬ReachesCycle t id) ∧
    order = acyclic ++ (t.resources.map (·.id)).filter fun id => ReachesCycle t id

/-! ### Links -/

theorem nodup_eraseDups (pairs : List (String × String)) : pairs.eraseDups.Nodup := by
  cases pairs with
  | nil => exact List.nodup_nil
  | cons first rest =>
      rw [List.eraseDups_cons, List.nodup_cons]
      constructor
      · simp [List.mem_eraseDups]
      · exact nodup_eraseDups _
termination_by pairs.length
decreasing_by exact Nat.lt_succ_of_le (List.length_filter_le _ _)

section Links

variable {t : Template} {a b : String}

theorem nodup_links (t : Template) : t.links.Nodup := nodup_eraseDups _

theorem mem_links_iff : (a, b) ∈ t.links ↔ DependsOn t a b := by
  rw [links, List.mem_eraseDups, List.mem_map]
  constructor
  · rintro ⟨e, he, heq⟩
    obtain ⟨rfl, rfl⟩ := Prod.mk.inj heq
    rw [List.mem_filter, Bool.and_eq_true, any_id_iff] at he
    exact ⟨e, he.1, rfl, rfl, he.2.2⟩
  · rintro ⟨e, he, rfl, rfl, htarget⟩
    refine ⟨e, List.mem_filter.mpr ⟨he, ?_⟩, rfl⟩
    rw [Bool.and_eq_true, any_id_iff, bne_iff_ne]
    exact ⟨kind_ne_parameter he htarget, htarget⟩

theorem mem_ids_iff : a ∈ t.resources.map (·.id) ↔ HasResource t a := by
  simp [HasResource]

theorem hasResource_of_dependsOn (h : DependsOn t a b) : HasResource t a ∧ HasResource t b := by
  obtain ⟨e, he, rfl, rfl, htarget⟩ := h
  obtain ⟨r, hr, hsource, -⟩ := mem_edges_iff.mp he
  exact ⟨⟨r, hr, hsource⟩, htarget⟩

end Links

/-! ### Counts -/

section Counts

variable {pairs : List (String × String)} {placed : List String} {id next : String}

/-- How many of those that a resource depends on have no place. -/
def unplaced (pairs : List (String × String)) (placed : List String) (id : String) : Nat :=
  pairs.countP fun link => link.1 == id && !placed.contains link.2

theorem unplaced_concat (hnext : next ∉ placed) :
    unplaced pairs (placed ++ [next]) id + pairs.count (id, next) = unplaced pairs placed id := by
  unfold unplaced
  induction pairs with
  | nil => rfl
  | cons link rest ih =>
      obtain ⟨a, b⟩ := link
      rw [List.countP_cons, List.countP_cons, List.count_cons, ← ih]
      by_cases ha : a = id
      · by_cases hb : b = next
        · simp [ha, hb, hnext]
          omega
        · simp [ha, hb]
          omega
      · simp [ha]

theorem unplaced_concat_of_mem (hpairs : pairs.Nodup) (hnext : next ∉ placed)
    (hmem : (id, next) ∈ pairs) :
    unplaced pairs placed id = unplaced pairs (placed ++ [next]) id + 1 := by
  rw [← unplaced_concat hnext, List.count_eq_one_of_mem hpairs hmem]

theorem unplaced_concat_of_not_mem (hnext : next ∉ placed) (hmem : (id, next) ∉ pairs) :
    unplaced pairs (placed ++ [next]) id = unplaced pairs placed id := by
  rw [← unplaced_concat hnext, List.count_eq_zero_of_not_mem hmem, Nat.add_zero]

theorem unplaced_eq_zero_iff :
    unplaced pairs placed id = 0 ↔ ∀ target, (id, target) ∈ pairs → target ∈ placed := by
  rw [unplaced, List.countP_eq_zero]
  constructor
  · intro h target hmem
    simpa using h _ hmem
  · rintro h ⟨a, target⟩ hmem
    by_cases ha : a = id
    · subst ha
      simp [h target hmem]
    · simp [ha]

theorem countOff_of_lookup? {p : Placement} {n : Nat} (h : lookup? id p.waits = some (n + 1)) :
    ∃ q, p.countOff id = some q ∧ q.placed = p.placed ∧
      q.ready = (if n = 0 then p.ready ++ [id] else p.ready) ∧ lookup? id q.waits = some n ∧
      ∀ other, other ≠ id → lookup? other q.waits = lookup? other p.waits := by
  unfold Placement.countOff
  rw [h]
  exact ⟨_, rfl, rfl, rfl, lookup?_putEntry_self _ _ _, fun other hother =>
    lookup?_putEntry_of_ne hother n p.waits⟩

/-- Where all counts are above zero, those that are down to one get ready. -/
theorem countOff_all {ids : List String} {p : Placement} (hids : ids.Nodup)
    (hcounts : ∀ id ∈ ids, ∃ n, lookup? id p.waits = some (n + 1)) :
    ∃ q, ids.foldlM Placement.countOff p = some q ∧ q.placed = p.placed ∧
      q.ready = p.ready ++ ids.filter (fun id => lookup? id p.waits == some 1) ∧
      (∀ id ∈ ids, lookup? id q.waits = (lookup? id p.waits).map (· - 1)) ∧
      ∀ id, id ∉ ids → lookup? id q.waits = lookup? id p.waits := by
  induction ids generalizing p with
  | nil => exact ⟨p, rfl, rfl, (List.append_nil _).symm, nofun, fun _ _ => rfl⟩
  | cons first rest ih =>
      obtain ⟨hfirst, hrest⟩ := List.nodup_cons.mp hids
      obtain ⟨n, hn⟩ := hcounts first List.mem_cons_self
      obtain ⟨p', hp', hplaced', hready', hself, hkeep⟩ := countOff_of_lookup? hn
      have hsame : ∀ id ∈ rest, lookup? id p'.waits = lookup? id p.waits :=
        fun id hid => hkeep id fun heq => hfirst (heq ▸ hid)
      obtain ⟨q, hq, hplaced, hready, hcounted, hothers⟩ := ih hrest fun id hid => by
        rw [hsame id hid]
        exact hcounts id (List.mem_cons_of_mem _ hid)
      refine ⟨q, ?_, hplaced.trans hplaced', ?_, ?_, ?_⟩
      · rw [List.foldlM_cons, hp']
        exact hq
      · rw [hready, hready', List.filter_cons, hn,
          List.filter_congr fun id hid => by rw [hsame id hid]]
        by_cases hzero : n = 0 <;> simp [hzero]
      · intro id hid
        rcases List.mem_cons.mp hid with rfl | hid
        · rw [hothers id hfirst, hself, hn]
          rfl
        · rw [hcounted id hid, hsame id hid]
      · intro id hid
        rw [List.mem_cons, not_or] at hid
        rw [hothers id hid.2, hkeep id hid.1]

theorem mem_dependents_iff : id ∈ Placement.dependents pairs next ↔ (id, next) ∈ pairs := by
  simp [Placement.dependents]

theorem nodup_dependents (hpairs : pairs.Nodup) (next : String) :
    (Placement.dependents pairs next).Nodup := by
  refine List.Nodup.map_on ?_ (hpairs.filter _)
  rintro ⟨a, b⟩ ha ⟨a', b'⟩ ha' rfl
  rw [List.mem_filter, beq_iff_eq] at ha ha'
  exact Prod.ext rfl (ha.2.trans ha'.2.symm)

end Counts

/-! ### Placing -/

/-- What the counts and lists of a placement stand for. -/
structure Sound (pairs : List (String × String)) (ids : List String) (p : Placement) : Prop where
  waits : ∀ id ∈ ids, lookup? id p.waits = some (unplaced pairs p.placed id)
  mem_iff : ∀ id, id ∈ p.placed ++ p.ready ↔ id ∈ ids ∧ unplaced pairs p.placed id = 0
  nodup : (p.placed ++ p.ready).Nodup
  follows : ∀ before id, before ++ [id] <+: p.placed →
    ∀ target, (id, target) ∈ pairs → target ∈ before

section Placing

variable {pairs : List (String × String)} {ids : List String}

theorem sound_start (hids : ids.Nodup) : Sound pairs ids (Placement.start pairs ids) where
  waits id hid := by
    refine (lookup?_map_pair _ hid).trans (congrArg some ?_)
    simp [unplaced, List.countP_eq_length_filter, Placement.start]
  mem_iff id := by
    simp [unplaced, List.countP_eq_length_filter, Placement.start]
  nodup := by
    have hkeys : (Placement.start pairs ids).waits.map (·.1) = ids := by
      simp [Placement.start, Function.comp_def]
    have hsublist : (Placement.start pairs ids).ready.Sublist
        ((Placement.start pairs ids).waits.map (·.1)) := List.filter_sublist.map _
    rw [hkeys] at hsublist
    exact hsublist.nodup hids
  follows before id hprefix := by
    simp [Placement.start] at hprefix

variable {p : Placement} {next : String} {rest : List String}

theorem Sound.next_not_mem (h : Sound pairs ids p) (hready : p.ready = next :: rest) :
    next ∉ p.placed := by
  have hnodup := h.nodup
  rw [hready] at hnodup
  intro hplaced
  exact (List.nodup_append.mp hnodup).2.2 _ hplaced _ List.mem_cons_self rfl

/-- What depends on a resource without a place is neither placed nor ready. -/
theorem Sound.not_mem_of_dependent (h : Sound pairs ids p) {id : String}
    (hnext : next ∉ p.placed) (hid : id ∈ Placement.dependents pairs next) :
    id ∉ p.placed ++ p.ready := by
  intro hmem
  exact hnext (unplaced_eq_zero_iff.mp ((h.mem_iff id).mp hmem).2 next (mem_dependents_iff.mp hid))

/-- No count falls below zero when the next one is placed, and those that wait for nothing more get
ready. -/
theorem Sound.exists_placed (hpairs : pairs.Nodup) (hsources : ∀ link ∈ pairs, link.1 ∈ ids)
    (h : Sound pairs ids p) (hnext : next ∉ p.placed) (rest : List String) :
    ∃ q freed, p.place pairs next rest = some q ∧ q.placed = p.placed ++ [next] ∧
      q.ready = rest ++ freed ∧ freed.Nodup ∧
      (∀ id, id ∈ freed ↔
        id ∈ Placement.dependents pairs next ∧ unplaced pairs (p.placed ++ [next]) id = 0) ∧
      ∀ id ∈ ids, lookup? id q.waits = some (unplaced pairs (p.placed ++ [next]) id) := by
  have hcount : ∀ id ∈ Placement.dependents pairs next,
      lookup? id p.waits = some (unplaced pairs (p.placed ++ [next]) id + 1) := by
    intro id hid
    have hlink := mem_dependents_iff.mp hid
    rw [h.waits id (hsources _ hlink), unplaced_concat_of_mem hpairs hnext hlink]
  obtain ⟨q, hq, hplaced, hready, hdown, hsame⟩ :=
    countOff_all (p := { p with ready := rest, placed := p.placed ++ [next] })
      (nodup_dependents hpairs next) fun id hid => ⟨_, hcount id hid⟩
  refine ⟨q, _, hq, hplaced, hready, (nodup_dependents hpairs next).filter _, ?_, ?_⟩
  · intro id
    rw [List.mem_filter]
    refine and_congr_right fun hid => ?_
    rw [hcount id hid, beq_iff_eq, Option.some_inj]
    exact Nat.add_eq_right
  · intro id hid
    by_cases hdependent : id ∈ Placement.dependents pairs next
    · rw [hdown id hdependent, hcount id hdependent]
      rfl
    · rw [hsame id hdependent, h.waits id hid,
        unplaced_concat_of_not_mem hnext (mt mem_dependents_iff.mpr hdependent)]

theorem Sound.place (hpairs : pairs.Nodup) (hsources : ∀ link ∈ pairs, link.1 ∈ ids)
    (h : Sound pairs ids p) (hready : p.ready = next :: rest) :
    ∃ q, p.place pairs next rest = some q ∧ Sound pairs ids q := by
  have hnext := h.next_not_mem hready
  obtain ⟨q, freed, hq, hplaced, hqready, hfreed, hfreedIff, hwaits⟩ :=
    h.exists_placed hpairs hsources hnext rest
  have hall : q.placed ++ q.ready = (p.placed ++ p.ready) ++ freed := by
    rw [hplaced, hqready, hready]
    simp
  refine ⟨q, hq, ⟨?_, fun id => ?_, ?_, ?_⟩⟩
  · rw [hplaced]
    exact hwaits
  · rw [hall, List.mem_append, hfreedIff, hplaced]
    by_cases hdependent : id ∈ Placement.dependents pairs next
    · have hid : id ∈ ids := hsources _ (mem_dependents_iff.mp hdependent)
      simp only [h.not_mem_of_dependent hnext hdependent, hdependent, hid, true_and, false_or]
    · rw [h.mem_iff,
        unplaced_concat_of_not_mem hnext (mt mem_dependents_iff.mpr hdependent)]
      simp only [hdependent, false_and, or_false]
  · rw [hall, List.nodup_append]
    refine ⟨h.nodup, hfreed, ?_⟩
    rintro id hold _ hnew rfl
    exact h.not_mem_of_dependent hnext ((hfreedIff id).mp hnew).1 hold
  · intro before id hprefix target hlink
    rw [hplaced, List.prefix_concat_iff] at hprefix
    rcases hprefix with heq | hprefix
    · obtain ⟨rfl, hid⟩ := List.append_inj' heq rfl
      obtain rfl := List.singleton_inj.mp hid
      have hmem : id ∈ p.placed ++ p.ready := by simp [hready]
      exact unplaced_eq_zero_iff.mp ((h.mem_iff id).mp hmem).2 target hlink
    · exact h.follows before id hprefix target hlink

theorem run_of_place {q : Placement} (hready : p.ready = next :: rest)
    (hplace : p.place pairs next rest = some q) : p.run pairs = q.run pairs := by
  rw [Placement.run]
  split
  · next heq => cases hready.symm.trans heq
  · next heq =>
      cases hready.symm.trans heq
      split
      · next hq =>
          cases hplace.symm.trans hq
          rfl
      · next hnone => cases hplace.symm.trans hnone

/-- Placing goes on until nobody is ready. -/
theorem Sound.run (hpairs : pairs.Nodup) (hsources : ∀ link ∈ pairs, link.1 ∈ ids)
    (h : Sound pairs ids p) :
    ∃ q, p.run pairs = some q.placed ∧ q.ready = [] ∧ Sound pairs ids q := by
  induction p using Placement.run.induct pairs with
  | case1 p hready =>
      refine ⟨p, ?_, hready, h⟩
      rw [Placement.run]
      split
      · rfl
      · next heq => cases hready.symm.trans heq
  | case2 p next rest hready p' hp' ih =>
      obtain ⟨q, hq, hsound⟩ := h.place hpairs hsources hready
      obtain rfl := Option.some_inj.mp (hp'.symm.trans hq)
      rw [run_of_place hready hp']
      exact ih hsound
  | case3 p next rest hready hnone =>
      obtain ⟨q, hq, -⟩ := h.place hpairs hsources hready
      cases hnone.symm.trans hq

end Placing

/-! ### Cycles -/

/-- Where each of finitely many goes on to another of them, a cycle can be reached. -/
theorem exists_cycle {r : String → String → Prop} {P : String → Prop} {names : List String}
    (hnames : ∀ a, P a → a ∈ names) (hstep : ∀ a, P a → ∃ b, P b ∧ r a b) {a : String} (ha : P a) :
    ∃ c, ReflTransGen r a c ∧ TransGen r c c := by
  have hfinite : Finite {a // P a} :=
    ((List.finite_toSet names).subset fun a ha => hnames a ha).to_subtype
  choose next hnext using fun a : {a // P a} => hstep a.1 a.2
  let step (a : {a // P a}) : {a // P a} := ⟨next a, (hnext a).1⟩
  let walk (n : Nat) : {a // P a} := step^[n] ⟨a, ha⟩
  have hwalk (n : Nat) : r (walk n) (walk (n + 1)) := by
    have hsucc : walk (n + 1) = step (walk n) := Function.iterate_succ_apply' _ _ _
    rw [hsucc]
    exact (hnext (walk n)).2
  have hcycle (i j : Nat) (hij : i < j) (heq : walk i = walk j) :
      ∃ c, ReflTransGen r a c ∧ TransGen r c c := by
    refine ⟨walk i, ?_, ?_⟩
    · exact (reflTransGen_of_succ_of_le (fun m n => r (walk m) (walk n)) (fun n _ => hwalk n)
        (Nat.zero_le i)).lift (fun n => (walk n).1) fun _ _ h => h
    · have htrans : TransGen r (walk i) (walk j) :=
        (transGen_of_succ_of_lt (fun m n => r (walk m) (walk n)) (fun n _ => hwalk n) hij).lift
          (fun n => (walk n).1) fun _ _ h => h
      rwa [← heq] at htrans
  obtain ⟨i, j, hne, heq⟩ := Finite.exists_ne_map_eq_of_infinite walk
  rcases Nat.lt_or_gt_of_ne hne with hij | hij
  · exact hcycle i j hij heq
  · exact hcycle j i hij heq.symm

/-- What stands behind all that it is related to stands behind all that can be reached from it. -/
theorem mem_before_of_transGen {r : String → String → Prop} {P : String → Prop}
    {names : List String}
    (hfollows : ∀ before a after, names = before ++ a :: after → P a →
      ∀ b, r a b → b ∈ before)
    (hstep : ∀ a b, P a → r a b → P b) {a b : String} (hab : TransGen r a b) :
    ∀ before after, names = before ++ a :: after → P a → b ∈ before := by
  induction hab using TransGen.head_induction_on with
  | single hr =>
      intro before after heq ha
      exact hfollows before _ after heq ha _ hr
  | @head a c hr _ ih =>
      intro before after heq ha
      obtain ⟨first, rest, rfl⟩ := List.append_of_mem (hfollows before a after heq ha c hr)
      refine List.mem_append_left _ (ih first (rest ++ a :: after) ?_ (hstep a c ha hr))
      rw [heq, List.append_assoc, List.cons_append]

section Cycles

variable {t : Template} {p : Placement} {a b : String}

theorem mem_before_of_placed (h : Sound t.links (t.resources.map (·.id)) p)
    (hab : TransGen (DependsOn t) a b) {before after : List String}
    (heq : p.placed = before ++ a :: after) : b ∈ before := by
  refine mem_before_of_transGen (P := fun _ => True) ?_ (fun _ _ _ _ => trivial) hab
    before after heq trivial
  intro before a after heq _ b hdep
  exact h.follows before a ⟨after, by simp [heq]⟩ b (mem_links_iff.mpr hdep)

theorem not_reachesCycle_of_placed (h : Sound t.links (t.resources.map (·.id)) p)
    (ha : a ∈ p.placed) : ¬ReachesCycle t a := by
  rintro ⟨c, hac, hcycle⟩
  have hplaced : c ∈ p.placed := by
    rcases Relation.reflTransGen_iff_eq_or_transGen.mp hac with rfl | htrans
    · exact ha
    · obtain ⟨before, after, heq⟩ := List.append_of_mem ha
      rw [heq]
      exact List.mem_append_left _ (mem_before_of_placed h htrans heq)
  obtain ⟨before, after, heq⟩ := List.append_of_mem hplaced
  have hnodup := (List.nodup_append.mp h.nodup).1
  rw [heq, List.nodup_append] at hnodup
  exact hnodup.2.2 _ (mem_before_of_placed h hcycle heq) _ List.mem_cons_self rfl

theorem reachesCycle_of_not_placed (h : Sound t.links (t.resources.map (·.id)) p)
    (hready : p.ready = []) (ha : HasResource t a) (hplaced : a ∉ p.placed) :
    ReachesCycle t a := by
  refine exists_cycle (P := fun a => HasResource t a ∧ a ∉ p.placed)
    (fun a ha => mem_ids_iff.mpr ha.1) ?_ ⟨ha, hplaced⟩
  rintro a ⟨hresource, hplaced⟩
  have hwaits : unplaced t.links p.placed a ≠ 0 := by
    intro hzero
    have hmem := (h.mem_iff a).mpr ⟨mem_ids_iff.mpr hresource, hzero⟩
    rw [hready, List.append_nil] at hmem
    exact hplaced hmem
  rw [Ne, unplaced_eq_zero_iff, not_forall] at hwaits
  obtain ⟨b, hb⟩ := hwaits
  rw [Classical.not_imp] at hb
  have hdep := mem_links_iff.mp hb.1
  exact ⟨b, ⟨(hasResource_of_dependsOn hdep).2, hb.2⟩, hdep⟩

/-- Just what has no place in the end reaches a cycle. -/
theorem placed_iff (h : Sound t.links (t.resources.map (·.id)) p) (hready : p.ready = [])
    (ha : HasResource t a) : a ∈ p.placed ↔ ¬ReachesCycle t a :=
  ⟨not_reachesCycle_of_placed h, fun hno => by_contra fun hplaced =>
    hno (reachesCycle_of_not_placed h hready ha hplaced)⟩

theorem ReachesCycle.of_dependsOn (hdep : DependsOn t a b) (h : ReachesCycle t b) :
    ReachesCycle t a := by
  obtain ⟨c, hbc, hcycle⟩ := h
  exact ⟨c, .head hdep hbc, hcycle⟩

end Cycles

/-! ### The order -/

/-- A resource stands behind all that it depends on, over others or not. -/
theorem IsCreationOrder.mem_before {t : Template} {order : List String}
    (h : IsCreationOrder t order) {a b : String} (hab : TransGen (DependsOn t) a b)
    (ha : ¬ReachesCycle t a) {before after : List String} (heq : order = before ++ a :: after) :
    b ∈ before :=
  mem_before_of_transGen h.follows (fun _ _ ha hdep hb => ha (hb.of_dependsOn hdep)) hab
    before after heq ha

/-- What is not among the last ones stands in front of them. -/
theorem exists_front {front last before after : List String} {id : String}
    (heq : front ++ last = before ++ id :: after) (hid : id ∉ last) :
    ∃ rest, front = before ++ id :: rest := by
  rcases List.append_eq_append_iff.mp heq with ⟨inner, -, rfl⟩ | ⟨inner, hinner, heq⟩
  · exact absurd (List.mem_append_right _ List.mem_cons_self) hid
  · cases inner with
    | nil =>
        have hmem : id ∈ [] ++ last := heq ▸ List.mem_cons_self
        exact absurd hmem hid
    | cons first rest =>
        obtain ⟨rfl, -⟩ := List.cons.inj heq
        exact ⟨rest, hinner⟩

open Classical in
/-- Once nobody is ready, the resources without a place go to the end. -/
theorem isCreationOrder_of_sound {t : Template} {p : Placement}
    (hids : (t.resources.map (·.id)).Nodup) (h : Sound t.links (t.resources.map (·.id)) p)
    (hready : p.ready = []) :
    IsCreationOrder t
      (p.placed ++ (t.resources.map (·.id)).filter fun id => ReachesCycle t id) where
  once := by
    rw [List.nodup_append]
    refine ⟨(List.nodup_append.mp h.nodup).1, hids.filter _, ?_⟩
    rintro id hid _ hcycle rfl
    rw [List.mem_filter, decide_eq_true_eq] at hcycle
    exact not_reachesCycle_of_placed h hid hcycle.2
  mem_iff := by
    intro id
    rw [List.mem_append, List.mem_filter, decide_eq_true_eq, mem_ids_iff]
    constructor
    · rintro (hid | hid)
      · exact mem_ids_iff.mp ((h.mem_iff id).mp (List.mem_append_left _ hid)).1
      · exact hid.1
    · intro hid
      by_cases hcycle : ReachesCycle t id
      · exact .inr ⟨hid, hcycle⟩
      · exact .inl ((placed_iff h hready hid).mpr hcycle)
  follows := by
    intro before id after heq hcycle target hdep
    obtain ⟨rest, hplaced⟩ := exists_front heq (by simp [hcycle])
    exact h.follows before id ⟨rest, by simp [hplaced]⟩ target (mem_links_iff.mpr hdep)
  cyclicLast := ⟨p.placed, fun _ => not_reachesCycle_of_placed h, rfl⟩

theorem exists_order {t : Template} (hids : (t.resources.map (·.id)).Nodup) :
    ∃ order, t.order? = some order ∧ IsCreationOrder t order := by
  classical
  have hsources : ∀ link ∈ t.links, link.1 ∈ t.resources.map (·.id) := fun link hlink =>
    mem_ids_iff.mpr (hasResource_of_dependsOn (mem_links_iff.mp hlink)).1
  obtain ⟨p, hrun, hready, h⟩ := (sound_start hids).run (nodup_links t) hsources
  have hlate : (t.resources.map (·.id)).filter (fun id => !p.placed.contains id) =
      (t.resources.map (·.id)).filter fun id => ReachesCycle t id := by
    refine List.filter_congr fun id hid => ?_
    have hiff := placed_iff h hready (mem_ids_iff.mp hid)
    by_cases hcycle : ReachesCycle t id
    · simp [hcycle, hiff]
    · simp [hcycle, hiff]
  refine ⟨_, ?_, isCreationOrder_of_sound hids h hready⟩
  rw [order?, ← hlate]
  simp only [hrun, Option.map_some]

/-- The resources of a parsed template have an order, so no count falls below zero on the way to it.
Each has one place there, behind all that it depends on unless a cycle can be reached from it, and
those from which one can be reached come last, as they stand in the template. -/
theorem creation_order {text : String} {t : Template} (h : Template.parse text = .ok t) :
    t.order? = some t.resourceOrder ∧ IsCreationOrder t t.resourceOrder := by
  obtain ⟨order, horder, hcreation⟩ := exists_order (nodup_ids_of_parse h)
  rw [resourceOrder, horder]
  exact ⟨rfl, hcreation⟩

/-- A resource that depends on itself, and one that does not. -/
def loopText : String :=
  "\x7b\"Resources\":\x7b\"B\":\x7b\"Type\":\"T\",\"DependsOn\":\"B\"\x7d,\"A\":\x7b\"Type\":\"T\"\x7d\x7d\x7d"

def loopTemplate : Template :=
  { Template.empty with resources := [
    ⟨"B", "T", .object [], ["B"], none⟩, ⟨"A", "T", .object [], [], none⟩] }

theorem parse_loopText : Template.parse loopText = .ok loopTemplate := by
  have htokens : Json.tokens loopText.toList = some [
      .openObject, .text "Resources", .colon, .openObject,
      .text "B", .colon, .openObject, .text "Type", .colon, .text "T", .comma,
      .text "DependsOn", .colon, .text "B", .closeObject, .comma,
      .text "A", .colon, .openObject, .text "Type", .colon, .text "T", .closeObject,
      .closeObject, .closeObject] := by
    simp [loopText, Json.tokens_cons, Json.scanToken, Json.scanString, Json.isSpace, Json.tokens]
  have hblank : loopText.toList.dropWhile Text.isBlank = '{' :: loopText.toList.tail := by cbv
  rw [Template.parse, hblank]
  simp only [Template.parseJson, Json.parse?, Json.parseAll?, Json.draft?, htokens]
  cbv

theorem creation_order_loop :
    Template.parse loopText = .ok loopTemplate ∧ loopTemplate.order? = some ["A", "B"] ∧
      IsCreationOrder loopTemplate ["A", "B"] := by
  have horder : loopTemplate.order? = some ["A", "B"] := by cbv
  have hcreation := (creation_order parse_loopText).2
  rw [resourceOrder, horder] at hcreation
  exact ⟨parse_loopText, horder, hcreation⟩

end StackExport.Proofs.CreationOrder
