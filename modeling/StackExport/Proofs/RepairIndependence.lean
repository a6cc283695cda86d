import Mathlib
import StackExport.Proofs.RepairRound
import StackExport.Validation
/-!
Reports about other files.

A round looks at the lines of a report and at no file name. So a report about another file edits the
document just when its lines reach into it; all others can come and go.
-/
namespace StackExport.Proofs.RepairIndependence

open StackExport
open StackExport.Proofs.RepairSchedule
open StackExport.Proofs.RepairRound

/-! ### Reports that reach a document -/

/-- True for a span that meets the lines of a document of so many lines, or starts above them. -/
def meets (size : Nat) (s : Span) : Bool := decide (1 ≤ s.last ∧ 1 ≤ size ∧ s.first ≤ size)

/-- True for a report that could change a document of so many lines. -/
def reaches (size : Nat) (p : Problem) : Bool :=
  match p.removal? with
  | some s => meets size s
  | none =>
    match p.kind with
    | .missingAttributeSeparator => p.line.any fun line => decide (1 ≤ line ∧ line ≤ size)
    | .missingRequiredArgument =>
      p.resourceType? == some Problem.tableType && p.snippet.any (Problem.opensTtl ·.code) &&
        p.line.any fun line => decide (1 ≤ line ∧ line < size)
    | _ => false

theorem meets_iff {size : Nat} {s : Span} :
    meets size s = true ↔ 1 ≤ s.last ∧ 1 ≤ size ∧ s.first ≤ size := by
  simp [meets]

theorem reaches_of_removal {p : Problem} {s : Span} (hs : p.removal? = some s) (size : Nat) :
    reaches size p = meets size s := by
  simp only [reaches, hs]

theorem removeLines_eq_ok {t t' : Script} {first last : Nat}
    (h : t.removeLines first last = .ok t') :
    1 ≤ first ∧ first ≤ last ∧ last ≤ t.size ∧
      t'.lines = t.lines.take (first - 1) ++ t.lines.drop last := by
  by_cases hle : first ≤ last
  · by_cases hfirst : first = 0 ∨ t.size < first
    · have hcheck : t.checkLine first = .error (.lineOutOfRange first t.size) := if_pos hfirst
      simp only [Script.removeLines, if_neg (Nat.not_lt.mpr hle), hcheck] at h
      cases h
    · by_cases hlast : last = 0 ∨ t.size < last
      · have hf : t.checkLine first = .ok () := if_neg hfirst
        have hl : t.checkLine last = .error (.lineOutOfRange last t.size) := if_pos hlast
        simp only [Script.removeLines, if_neg (Nat.not_lt.mpr hle), hf, hl] at h
        cases h
      · rw [removeLines_ok (by omega) hle (by omega)] at h
        cases h
        exact ⟨by omega, hle, by omega, rfl⟩
  · rw [removeLines_reversed (by omega)] at h
    cases h

theorem size_of_removeLines {t t' : Script} {first last : Nat}
    (h : t.removeLines first last = .ok t') : t'.size < t.size := by
  obtain ⟨hfirst, hle, hlast, hlines⟩ := removeLines_eq_ok h
  unfold Script.size at *
  rw [hlines, List.length_append, List.length_take, List.length_drop]
  omega

theorem eq_ok_of_toOption {α : Type} {x : Except ScriptError α} {a : α}
    (h : x.toOption = some a) : x = .ok a := by
  cases x with
  | error e => cases h
  | ok b => exact congrArg Except.ok (Option.some.inj h)

theorem removeLines_of_removal {p : Problem} {s : Span} {t t' : Script}
    (hs : p.removal? = some s) (h : p.fix? t = some t') :
    t.removeLines s.first s.last = .ok t' := by
  have hkind := kind_of_removal? hs
  have hfix : p.removeReported t = some t' := by
    rw [← h, Problem.fix?]
    rcases hkind with hkind | hkind <;> rw [hkind]
  rw [removal?_of_kind hkind] at hs
  obtain ⟨r, hr, hspan⟩ := Option.bind_eq_some_iff.mp hs
  split_ifs at hspan
  cases hspan
  rw [Problem.removeReported, hr] at hfix
  exact eq_ok_of_toOption hfix

theorem blockEnd?_eq_some {t : Script} {line last : Nat} (h : t.blockEnd? line = some last) :
    line < last ∧ last ≤ t.size := by
  obtain ⟨i, hi, rfl⟩ := Option.map_eq_some_iff.mp h
  have hi := (List.findIdx?_eq_some_iff_getElem.mp hi).1
  rw [List.length_drop] at hi
  unfold Script.size
  omega

theorem removeTtl_eq_some {p : Problem} {t t' : Script} (h : p.removeTtl t = some t') :
    p.snippet.any (Problem.opensTtl ·.code) = true ∧
      ∃ first last, p.line = some first ∧ t.blockEnd? first = some last ∧
        t.removeLines first last = .ok t' := by
  obtain ⟨snippet, hsnippet, h⟩ := Option.bind_eq_some_iff.mp h
  by_cases hopens : Problem.opensTtl snippet.code = true
  · rw [if_neg (by simp [hopens])] at h
    obtain ⟨first, hfirst, h⟩ := Option.bind_eq_some_iff.mp h
    obtain ⟨last, hlast, h⟩ := Option.bind_eq_some_iff.mp h
    exact ⟨by simp [hsnippet, hopens], first, last, hfirst, hlast, eq_ok_of_toOption h⟩
  · rw [if_pos (by simpa using hopens)] at h
    cases h

theorem line_of_quoteToken {p : Problem} {t t' : Script} (h : p.quoteToken t = some t') :
    ∃ line, p.line = some line ∧ 1 ≤ line ∧ line ≤ t.size ∧ t'.size = t.size := by
  obtain ⟨line, text, hline, hpos, hlines⟩ := quoteToken_eq_some h
  refine ⟨line, hline, hpos, ?_, by simp only [Script.size, hlines, List.length_set]⟩
  by_contra hout
  have hcheck : t.checkLine line = .error (.lineOutOfRange line t.size) := if_pos (by omega)
  have hget : (t.get line).toOption = none := by
    rw [Script.get, hcheck]
    rfl
  rw [Problem.quoteToken, hline] at h
  change (t.get line).toOption.bind _ = some t' at h
  rw [hget] at h
  cases h

/-- A fix needs a report that reaches the document, and no fix makes it longer. -/
theorem fix?_eq_some {p : Problem} {t t' : Script} (h : p.fix? t = some t') :
    reaches t.size p = true ∧ t'.size ≤ t.size := by
  rcases hs : p.removal? with _ | s
  · unfold Problem.fix? at h
    split at h
    · next hkind =>
        obtain ⟨line, hline, hpos, hle, hsize⟩ := line_of_quoteToken h
        refine ⟨?_, hsize.le⟩
        simp [reaches, hs, hkind, hline, hpos, hle]
    · next hkind =>
        rw [removeReported_of_no_removal hs (Or.inl hkind)] at h
        cases h
    · next hkind =>
        rw [removeReported_of_no_removal hs (Or.inr hkind)] at h
        cases h
    · next hkind =>
        split_ifs at h with htable
        obtain ⟨hopens, first, last, hfirst, hlast, hremove⟩ := removeTtl_eq_some h
        obtain ⟨hlt, hle⟩ := blockEnd?_eq_some hlast
        obtain ⟨hpos, -, -, -⟩ := removeLines_eq_ok hremove
        refine ⟨?_, (size_of_removeLines hremove).le⟩
        have hinside : first < t.size := by omega
        simp [reaches, hs, hkind, htable, hopens, hfirst, hpos, hinside]
    · cases h
  · have hremove := removeLines_of_removal hs h
    obtain ⟨hfirst, hle, hlast, -⟩ := removeLines_eq_ok hremove
    refine ⟨?_, (size_of_removeLines hremove).le⟩
    rw [reaches_of_removal hs, meets_iff]
    omega

theorem reaches_mono {m n : Nat} (h : m ≤ n) {p : Problem} (hp : reaches m p = true) :
    reaches n p = true := by
  unfold reaches at *
  split at hp
  · rw [meets_iff] at *
    omega
  · split at hp
    · obtain ⟨line, hline, hin⟩ := (Option.any_eq_true _ _).mp hp
      refine (Option.any_eq_true _ _).mpr ⟨line, hline, ?_⟩
      rw [decide_eq_true_eq] at *
      omega
    · obtain ⟨hopens, hline⟩ := (Bool.and_eq_true _ _).mp hp
      obtain ⟨line, hline, hin⟩ := (Option.any_eq_true _ _).mp hline
      refine (Bool.and_eq_true _ _).mpr ⟨hopens, (Option.any_eq_true _ _).mpr ⟨line, hline, ?_⟩⟩
      rw [decide_eq_true_eq] at *
      omega
    · cases hp

/-- Reports that do not reach a document can be left out of a list of fixes. -/
theorem fixEach_filter {size : Nat} {t : Script} (ht : t.size ≤ size) (todo : List Problem) :
    (Repair.fixEach t (todo.filter (reaches size))).1 = (Repair.fixEach t todo).1 := by
  induction todo generalizing t with
  | nil => rfl
  | cons p rest ih =>
      rcases hfix : p.fix? t with _ | t'
      · have hskip (l : List Problem) : (Repair.fixEach t (p :: l)).1 = (Repair.fixEach t l).1 := by
          simp only [Repair.fixEach, hfix]
        rw [hskip, ← ih ht]
        by_cases hp : reaches size p = true
        · rw [List.filter_cons_of_pos hp, hskip]
        · rw [List.filter_cons_of_neg hp]
      · obtain ⟨hreach, hsize⟩ := fix?_eq_some hfix
        rw [List.filter_cons_of_pos (reaches_mono ht hreach)]
        simp only [Repair.fixEach, hfix]
        exact ih (hsize.trans ht)

/-! ### Sorting -/

section Sorting

variable {α : Type} {le : α → α → Bool}

theorem filter_split {a : α} {l₁ l₂ : List α} (h₁ : ∀ b ∈ l₁, le a b = false)
    (h₂ : ∀ b ∈ l₂, le a b = true) :
    (l₁ ++ l₂).filter (fun b => !le a b) = l₁ ∧ (l₁ ++ l₂).filter (fun b => le a b) = l₂ := by
  constructor
  · rw [List.filter_append, List.filter_eq_self.mpr fun b hb => by simp [h₁ b hb],
      List.filter_eq_nil_iff.mpr fun b hb => by simp [h₂ b hb], List.append_nil]
  · rw [List.filter_append, List.filter_eq_self.mpr h₂,
      List.filter_eq_nil_iff.mpr fun b hb => by simp [h₁ b hb], List.nil_append]

/-- A stable sort keeps the order of what is left when some elements go. -/
theorem mergeSort_filter (trans : ∀ a b c, le a b = true → le b c = true → le a c = true)
    (total : ∀ a b, (le a b || le b a) = true) (keep : α → Bool) (l : List α) :
    (l.mergeSort le).filter keep = (l.filter keep).mergeSort le := by
  induction l with
  | nil => rw [List.mergeSort_nil, List.filter_nil, List.mergeSort_nil]
  | cons a rest ih =>
      obtain ⟨l₁, l₂, hsort, hrest, hbefore⟩ := List.mergeSort_cons trans total a rest
      have hafter : ∀ b ∈ l₂, le a b = true := by
        have hsorted := List.pairwise_mergeSort trans total (a :: rest)
        rw [hsort] at hsorted
        exact (List.pairwise_cons.mp (List.pairwise_append.mp hsorted).2.1).1
      rw [hsort, List.filter_append]
      by_cases ha : keep a = true
      · rw [List.filter_cons_of_pos ha, List.filter_cons_of_pos ha]
        obtain ⟨m₁, m₂, hsort', hrest', hbefore'⟩ :=
          List.mergeSort_cons trans total a (rest.filter keep)
        have hafter' : ∀ b ∈ m₂, le a b = true := by
          have hsorted := List.pairwise_mergeSort trans total (a :: rest.filter keep)
          rw [hsort'] at hsorted
          exact (List.pairwise_cons.mp (List.pairwise_append.mp hsorted).2.1).1
        rw [hrest, hrest', List.filter_append] at ih
        have hbefore₁ : ∀ b ∈ l₁.filter keep, le a b = false :=
          fun b hb => by simpa using hbefore b (List.mem_of_mem_filter hb)
        have hafter₁ : ∀ b ∈ l₂.filter keep, le a b = true :=
          fun b hb => hafter b (List.mem_of_mem_filter hb)
        have hbefore₂ : ∀ b ∈ m₁, le a b = false := fun b hb => by simpa using hbefore' b hb
        obtain ⟨hl₁, hl₂⟩ := filter_split hbefore₁ hafter₁
        obtain ⟨hm₁, hm₂⟩ := filter_split hbefore₂ hafter'
        rw [ih] at hl₁ hl₂
        rw [hsort', ← hl₁, ← hl₂, hm₁, hm₂]
      · rw [List.filter_cons_of_neg ha, List.filter_cons_of_neg ha, ← ih, hrest,
          List.filter_append]

end Sorting

/-! ### What is kept and chosen -/

/-- True when a span starts inside the one kept last. -/
def Blocked (last : Option Span) (s : Span) : Prop := ∃ k ∈ last, s.first ≤ k.last

theorem keepFrom_of_blocked {last : Option Span} {s : Span} (h : Blocked last s)
    (rest : List Span) : Span.keepFrom last (s :: rest) = Span.keepFrom last rest :=
  (keepFrom_cons last s rest).trans (if_pos h)

theorem keepFrom_of_not_blocked {last : Option Span} {s : Span} (h : ¬ Blocked last s)
    (rest : List Span) : Span.keepFrom last (s :: rest) = s :: Span.keepFrom (some s) rest :=
  (keepFrom_cons last s rest).trans (if_neg h)

theorem keepFrom_filter {size : Nat} {spans : List Span} {last last' : Option Span}
    (hsorted : spans.Pairwise fun a b => Span.before a b = true)
    (h : ∀ s ∈ spans, meets size s = true → (Blocked last s ↔ Blocked last' s)) :
    (Span.keepFrom last spans).filter (meets size) =
      Span.keepFrom last' (spans.filter (meets size)) := by
  induction spans generalizing last last' with
  | nil => rfl
  | cons s rest ih =>
      obtain ⟨hbefore, hsorted⟩ := List.pairwise_cons.mp hsorted
      have hrest : ∀ t ∈ rest, meets size t = true → (Blocked last t ↔ Blocked last' t) :=
        fun t ht => h t (List.mem_cons_of_mem _ ht)
      by_cases hs : meets size s = true
      · have hsame := h s List.mem_cons_self hs
        rw [List.filter_cons_of_pos hs]
        by_cases hblocked : Blocked last s
        · rw [keepFrom_of_blocked hblocked, keepFrom_of_blocked (hsame.mp hblocked)]
          exact ih hsorted hrest
        · rw [keepFrom_of_not_blocked hblocked, keepFrom_of_not_blocked (mt hsame.mpr hblocked),
            List.filter_cons_of_pos hs, ih hsorted fun _ _ _ => Iff.rfl]
      · rw [List.filter_cons_of_neg hs]
        by_cases hblocked : Blocked last s
        · rw [keepFrom_of_blocked hblocked]
          exact ih hsorted hrest
        · rw [keepFrom_of_not_blocked hblocked, List.filter_cons_of_neg hs]
          -- A kept span that does not reach the document is above all of it, with nothing kept so
          -- far, or behind everything that reaches it.
          refine ih hsorted fun t ht hmeets => ?_
          rw [← hrest t ht hmeets]
          have horder := before_iff.mp (hbefore t ht)
          rw [meets_iff] at hs hmeets
          constructor
          · rintro ⟨k, hk, hle⟩
            cases hk
            omega
          · rintro ⟨k, hk, hle⟩
            refine absurd ⟨k, hk, ?_⟩ hblocked
            omega

theorem removals_filter (size : Nat) (problems : List Problem) :
    removals (problems.filter (reaches size)) = (removals problems).filter (meets size) := by
  induction problems with
  | nil => rfl
  | cons p rest ih =>
      rcases hp : p.removal? with _ | s
      · have hskip (l : List Problem) : removals (p :: l) = removals l :=
          List.filterMap_cons_none hp
        rw [hskip, ← ih]
        by_cases hreach : reaches size p = true
        · rw [List.filter_cons_of_pos hreach, hskip]
        · rw [List.filter_cons_of_neg hreach]
      · have hcons (l : List Problem) : removals (p :: l) = s :: removals l :=
          List.filterMap_cons_some hp
        rw [hcons]
        by_cases hmeets : meets size s = true
        · rw [List.filter_cons_of_pos hmeets, ← ih,
            List.filter_cons_of_pos ((reaches_of_removal hp size).trans hmeets), hcons]
        · rw [List.filter_cons_of_neg hmeets, ← ih,
            List.filter_cons_of_neg (by rwa [reaches_of_removal hp size])]

theorem keptOf_filter (size : Nat) (problems : List Problem) :
    keptOf (problems.filter (reaches size)) = (keptOf problems).filter (meets size) := by
  unfold keptOf Span.keep
  rw [removals_filter, ← mergeSort_filter before_trans before_total]
  exact (keepFrom_filter (List.pairwise_mergeSort before_trans before_total _)
    fun _ _ _ => Iff.rfl).symm

theorem treatment_of_no_removal {p : Problem} (hp : p.removal? = none)
    (kept claimed : List Span) :
    p.treatment kept claimed = .scheduled ↔
      ∀ line ∈ p.line, ∀ k ∈ kept, k.contains line = false := by
  rcases haround : p.line.bind (Span.around? kept) with _ | k
  · have ht : p.treatment kept claimed = .scheduled := by simp only [Problem.treatment, hp, haround]
    refine iff_of_true ht fun line hline => ?_
    rw [Option.mem_def.mp hline] at haround
    exact around?_eq_none haround
  · have ht : p.treatment kept claimed = .absorbed := by simp only [Problem.treatment, hp, haround]
    obtain ⟨line, hline, hk⟩ := Option.bind_eq_some_iff.mp haround
    obtain ⟨hkept, hin⟩ := around?_eq_some hk
    refine iff_of_false (by simp [ht]) fun hout => ?_
    rw [hout line hline k hkept] at hin
    cases hin

theorem line_of_reaches {size : Nat} {p : Problem} (hp : reaches size p = true)
    (hnone : p.removal? = none) : ∀ line ∈ p.line, 1 ≤ line ∧ line ≤ size := by
  intro line hline
  have hline : p.line = some line := hline
  simp only [reaches, hnone, hline, Option.any_some] at hp
  split at hp
  · simpa using hp
  · have := (Bool.and_eq_true _ _).mp hp
    have hin := of_decide_eq_true this.2
    omega
  · cases hp

/-- What becomes of a report that reaches the document does not depend on what does not. -/
theorem treatment_filter {size : Nat} {p : Problem} (hp : reaches size p = true)
    (kept claimed : List Span) :
    p.treatment (kept.filter (meets size)) (claimed.filter (meets size)) = .scheduled ↔
      p.treatment kept claimed = .scheduled := by
  rcases hs : p.removal? with _ | s
  · rw [treatment_of_no_removal hs, treatment_of_no_removal hs]
    constructor
    · intro hout line hline k hk
      obtain ⟨hpos, hle⟩ := line_of_reaches hp hs line hline
      by_contra hin
      have hin : k.contains line = true := by simpa using hin
      have hmeets : meets size k = true := by
        rw [meets_iff]
        rw [contains_iff] at hin
        omega
      rw [hout line hline k (List.mem_filter.mpr ⟨hk, hmeets⟩)] at hin
      cases hin
    · intro hout line hline k hk
      exact hout line hline k (List.mem_of_mem_filter hk)
  · rw [treatment_eq_scheduled_iff hs, treatment_eq_scheduled_iff hs, List.mem_filter,
      List.mem_filter]
    rw [reaches_of_removal hs] at hp
    simp [hp]

theorem claimedAfter_filter {size : Nat} (p : Problem) (kept claimed : List Span) :
    (claimedAfter p kept claimed).filter (meets size) =
      if reaches size p = true then
        claimedAfter p (kept.filter (meets size)) (claimed.filter (meets size))
      else claimed.filter (meets size) := by
  rcases hs : p.removal? with _ | s
  · rw [claimedAfter_of_none hs, claimedAfter_of_none hs, ite_self]
  · by_cases ht : p.treatment kept claimed = .scheduled
    · rw [claimedAfter_of_scheduled hs ht]
      by_cases hp : reaches size p = true
      · rw [if_pos hp, claimedAfter_of_scheduled hs ((treatment_filter hp kept claimed).mpr ht),
          List.filter_cons_of_pos (by rwa [← reaches_of_removal hs])]
      · rw [if_neg hp, List.filter_cons_of_neg (by rwa [← reaches_of_removal hs])]
    · rw [claimedAfter_of_not_scheduled ht]
      by_cases hp : reaches size p = true
      · rw [if_pos hp,
          claimedAfter_of_not_scheduled (mt (treatment_filter hp kept claimed).mp ht)]
      · rw [if_neg hp]

theorem chosen_filter (size : Nat) (kept claimed : List Span) (problems : List Problem) :
    chosen (treatments (kept.filter (meets size)) (claimed.filter (meets size))
        (problems.filter (reaches size))) =
      (chosen (treatments kept claimed problems)).filter (reaches size) := by
  induction problems generalizing claimed with
  | nil => rfl
  | cons p rest ih =>
      have hstep := ih (claimedAfter p kept claimed)
      rw [claimedAfter_filter] at hstep
      rw [treatments_cons, chosen_cons]
      by_cases hp : reaches size p = true
      · rw [if_pos hp] at hstep
        rw [List.filter_cons_of_pos hp, treatments_cons, chosen_cons, hstep]
        by_cases ht : p.treatment kept claimed = .scheduled
        · rw [if_pos ht, if_pos ((treatment_filter hp kept claimed).mpr ht),
            List.filter_cons_of_pos hp]
        · rw [if_neg ht, if_neg (mt (treatment_filter hp kept claimed).mp ht)]
      · rw [if_neg hp] at hstep
        rw [List.filter_cons_of_neg hp, hstep]
        by_cases ht : p.treatment kept claimed = .scheduled
        · rw [if_pos ht, List.filter_cons_of_neg hp]
        · rw [if_neg ht]

theorem schedule_filter (size : Nat) (problems : List Problem) :
    (schedule (problems.filter (reaches size))).1 =
      (schedule problems).1.filter (reaches size) := by
  change (chosen (treatments (keptOf _) [] _)).mergeSort Problem.notAbove =
    ((chosen (treatments (keptOf _) [] _)).mergeSort Problem.notAbove).filter (reaches size)
  rw [mergeSort_filter notAbove_trans notAbove_total, ← chosen_filter, keptOf_filter,
    List.filter_nil]

/-- A round sees only the reports that reach the document. -/
theorem round_filter (document : String) (problems : List Problem) :
    (Repair.round document
        (problems.filter (reaches (Script.ofText document).size))).1 =
      (Repair.round document problems).1 := by
  change (Repair.fixEach (.ofText document) (schedule _).1).1 =
    (Repair.fixEach (.ofText document) (schedule _).1).1
  rw [schedule_filter, fixEach_filter le_rfl]

/-! ### Reports about other files -/

/-- True for a report about a file other than the main one. -/
def IsElsewhere (p : Problem) : Prop := ∃ r ∈ p.range, r.filename ≠ mainFile

/-- Two lists of reports with some more on either side. -/
inductive DifferBy (extra : Problem → Prop) : List Problem → List Problem → Prop
  | nil : DifferBy extra [] []
  | both {l m : List Problem} (p : Problem) : DifferBy extra l m → DifferBy extra (p :: l) (p :: m)
  | left {l m : List Problem} {p : Problem} :
      extra p → DifferBy extra l m → DifferBy extra (p :: l) m
  | right {l m : List Problem} {p : Problem} :
      extra p → DifferBy extra l m → DifferBy extra l (p :: m)

theorem DifferBy.filter_eq {extra : Problem → Prop} {l m : List Problem} {keep : Problem → Bool}
    (h : DifferBy extra l m) (hextra : ∀ p, extra p → keep p = false) :
    l.filter keep = m.filter keep := by
  induction h with
  | nil => rfl
  | both p _ ih =>
      by_cases hp : keep p = true
      · rw [List.filter_cons_of_pos hp, List.filter_cons_of_pos hp, ih]
      · rw [List.filter_cons_of_neg hp, List.filter_cons_of_neg hp, ih]
  | left hp _ ih => rw [List.filter_cons_of_neg (by simp [hextra _ hp]), ih]
  | right hp _ ih => rw [List.filter_cons_of_neg (by simp [hextra _ hp]), ih]

/-! ### Lines of a text -/

/-- True for a text that can be a line of a document as it is. -/
def IsLine (line : String) : Prop := '\n' ∉ line.toList ∧ line.toList.getLast? ≠ some '\r'

theorem dropReturn_of_isLine {line : String} (h : IsLine line) :
    Text.dropReturn line.toList = line.toList := by
  unfold Text.dropReturn
  split
  · next rest hrev =>
      refine absurd ?_ h.2
      rw [List.getLast?_eq_head?_reverse, hrev, List.head?_cons]
  · rfl

theorem splitWhere_text {lines : List String} (h : ∀ line ∈ lines, IsLine line) :
    Text.splitWhere (· == '\n') (String.join (lines.map (· ++ "\n"))).toList =
      lines.map String.toList ++ [[]] := by
  induction lines with
  | nil => rfl
  | cons line rest ih =>
      have hline := h line List.mem_cons_self
      have hrest := ih fun l hl => h l (List.mem_cons_of_mem _ hl)
      rw [List.map_cons, String.join_cons, String.toList_append, String.toList_append,
        List.append_assoc]
      change Text.splitWhere _ (line.toList ++ '\n' :: (String.join _).toList) = _
      rw [Text.splitWhere_append, Text.splitWhere_of_not_mem hline.1, hrest]
      rfl

theorem ofText_text {s : Script} (h : ∀ line ∈ s.lines, IsLine line) :
    Script.ofText s.text = s := by
  have hends : (s.lines.map String.toList).map Text.dropReturn = s.lines.map String.toList := by
    rw [List.map_map]
    exact List.map_congr_left fun line hline => dropReturn_of_isLine (h line hline)
  have hback : (s.lines.map String.toList).map String.ofList = s.lines := by
    rw [List.map_map]
    exact (List.map_congr_left fun line _ => String.ofList_toList).trans (List.map_id _)
  unfold Script.ofText Script.text Text.lines
  rw [splitWhere_text h]
  simp only [List.dropLast_concat, List.getLast?_concat, hends, hback]

theorem exists_document (n : Nat) {line : String} (hline : IsLine line) :
    ∃ document, Script.ofText document = ⟨List.replicate n line⟩ := by
  refine ⟨Script.text ⟨List.replicate n line⟩, ofText_text fun l hl => ?_⟩
  rw [List.eq_of_mem_replicate hl]
  exact hline

/-! ### Rounds of one or two reports -/

theorem schedule_singleton (p : Problem) : (schedule [p]).1 = [p] := by
  have ht : p.treatment (keptOf [p]) [] = .scheduled := by
    rcases hp : p.removal? with _ | s
    · have hkept : keptOf [p] = [] := by
        simp [keptOf, removals, hp, Span.keep, Span.keepFrom]
      rw [hkept, treatment_of_no_removal hp]
      intro _ _ k hk
      cases hk
    · have hkept : keptOf [p] = [s] := by
        simp [keptOf, removals, hp, Span.keep, Span.keepFrom]
      rw [hkept, treatment_eq_scheduled_iff hp]
      exact ⟨List.mem_singleton_self s, List.not_mem_nil⟩
  change (chosen (treatments (keptOf [p]) [] [p])).mergeSort Problem.notAbove = [p]
  rw [treatments_cons, chosen_cons, if_pos ht]
  exact List.mergeSort_singleton p

/-- A removal around another one, and in front of it, takes its place. -/
theorem schedule_around {p q : Problem} {s r : Span} (hp : p.removal? = some s)
    (hq : q.removal? = some r) (hne : r ≠ s) (hbefore : r.before s = false)
    (hin : r.first ≤ s.last) : (schedule [q, p]).1 = [p] := by
  have hkept : keptOf [q, p] = [s] := by
    simp [keptOf, removals, hp, hq, Span.keep, List.mergeSort, hbefore, Span.keepFrom, hin]
  have htq : q.treatment [s] [] ≠ .scheduled := by
    rw [ne_eq, treatment_eq_scheduled_iff hq]
    rintro ⟨hmem, -⟩
    exact hne (List.mem_singleton.mp hmem)
  have htp : p.treatment [s] [] = .scheduled :=
    (treatment_eq_scheduled_iff hp).mpr ⟨List.mem_singleton_self s, List.not_mem_nil⟩
  change (chosen (treatments (keptOf [q, p]) [] [q, p])).mergeSort Problem.notAbove = [p]
  rw [hkept, treatments_cons, chosen_cons, if_neg htq, claimedAfter_of_not_scheduled htq,
    treatments_cons, chosen_cons, if_pos htp]
  exact List.mergeSort_singleton p

theorem round_nil (document : String) : (Repair.round document []).1 = .ofText document := by
  have hnone : (schedule []).1 = [] := by simp [schedule, treatments]
  change (Repair.fixEach (.ofText document) (schedule []).1).1 = _
  rw [hnone]
  rfl

theorem round_of_schedule {document : String} {problems : List Problem} {p : Problem}
    (h : (schedule problems).1 = [p]) :
    (Repair.round document problems).1 =
      (p.fix? (.ofText document)).getD (.ofText document) := by
  change (Repair.fixEach (.ofText document) (schedule problems).1).1 = _
  rw [h]
  rcases hfix : p.fix? (.ofText document) with _ | t <;> simp [Repair.fixEach, hfix]

/-! ### What a report that reaches a document does -/

/-- The document of that many lines, each of which ends a block. -/
theorem exists_ends (n : Nat) :
    ∃ document, Script.ofText document = ⟨List.replicate n "\x7d"⟩ :=
  exists_document n ⟨by decide, by decide⟩

theorem fix?_ne_of_removeLines {p : Problem} {t t' : Script} {first last : Nat}
    (h : p.fix? t = some t') (hremove : t.removeLines first last = .ok t') :
    (p.fix? t).getD t ≠ t := by
  have hsize := size_of_removeLines hremove
  rw [h, Option.getD_some]
  intro heq
  rw [heq] at hsize
  exact absurd hsize (lt_irrefl _)

theorem fix?_ne_of_removal {p : Problem} {s : Span} {t : Script} (hs : p.removal? = some s)
    (hfirst : 1 ≤ s.first) (hlast : s.last ≤ t.size) : (p.fix? t).getD t ≠ t :=
  fix?_ne_of_removeLines (fix?_of_removal? hs hfirst hlast)
    (removeLines_ok hfirst (first_le_last hs) hlast)

/-- The report that asks to remove one line of the main file. -/
def removing (line : Nat) : Problem :=
  (Problem.error "Invalid or unknown key" "").inLines mainFile line line

theorem removal?_removing (line : Nat) : (removing line).removal? = some ⟨line, line⟩ := by
  have hsummary : (removing line).summary = "Invalid or unknown key" := by
    simp [removing, Problem.error, Problem.inLines, Problem.withFinding, Problem.summary]
  have hkind : (removing line).kind = .invalidOrUnknownKey := by
    rw [Problem.kind, hsummary]
    decide
  rw [removal?_of_kind (Or.inr hkind)]
  exact if_pos le_rfl

theorem edits_of_removal {p : Problem} {s : Span} {n : Nat} (hs : p.removal? = some s)
    (hmeets : meets n s = true) :
    ∃ document common, (Script.ofText document).size = n ∧
      (Repair.round document (common ++ [p])).1 ≠ (Repair.round document common).1 := by
  obtain ⟨document, hdocument⟩ := exists_ends n
  have hsize : (Script.ofText document).size = n := by
    rw [hdocument]
    exact List.length_replicate
  obtain ⟨hlast, hn, hfirst⟩ := meets_iff.mp hmeets
  have hle := first_le_last hs
  by_cases hinside : 1 ≤ s.first ∧ s.last ≤ n
  · refine ⟨document, [], hsize, ?_⟩
    rw [List.nil_append, round_of_schedule (schedule_singleton p), round_nil]
    exact fix?_ne_of_removal hs hinside.1 (by omega)
  · -- The removal itself is not possible, but it takes the place of one that is.
    let line := max 1 s.first
    have hq := removal?_removing line
    have hround : (schedule [removing line, p]).1 = [p] := by
      refine schedule_around hs hq ?_ ?_ ?_
      · intro heq
        have hsame : line = s.first ∧ line = s.last :=
          ⟨congrArg Span.first heq, congrArg Span.last heq⟩
        omega
      · rw [← Bool.not_eq_true, before_iff]
        change ¬ (line < s.first ∨ line = s.first ∧ s.last ≤ line)
        omega
      · change line ≤ s.last
        omega
    have hfix : p.fix? (.ofText document) = none := by
      by_contra hsome
      obtain ⟨t', ht'⟩ := Option.ne_none_iff_exists'.mp hsome
      obtain ⟨hone, -, hin, -⟩ := removeLines_eq_ok (removeLines_of_removal hs ht')
      exact hinside ⟨hone, by omega⟩
    refine ⟨document, [removing line], hsize, ?_⟩
    rw [List.singleton_append, round_of_schedule hround, hfix, Option.getD_none,
      round_of_schedule (schedule_singleton _)]
    have hone : 1 ≤ line := Nat.le_max_left 1 s.first
    have hin : line ≤ (Script.ofText document).size := by omega
    exact (fix?_ne_of_removal hq hone hin).symm

theorem fix?_separator {p : Problem} {line n : Nat} (hkind : p.kind = .missingAttributeSeparator)
    (hline : p.line = some line) (hpos : 1 ≤ line) (hle : line ≤ n) :
    (p.fix? ⟨List.replicate n "abc"⟩).getD ⟨List.replicate n "abc"⟩ ≠
      ⟨List.replicate n "abc"⟩ := by
  let t : Script := ⟨List.replicate n "abc"⟩
  have hsize : t.size = n := List.length_replicate
  have hcheck : t.checkLine line = .ok () := if_neg (by omega)
  have hget : (t.get line).toOption = some "abc" := by
    rw [Script.get, hcheck]
    change some ((List.replicate n "abc").getD (line - 1) "") = _
    rw [List.getD_replicate _ (by omega)]
  have hset : t.set line "\"abc\" " = .ok ⟨(List.replicate n "abc").set (line - 1) "\"abc\" "⟩ := by
    rw [Script.set, hcheck]
    rfl
  have hfix : p.fix? t = some ⟨(List.replicate n "abc").set (line - 1) "\"abc\" "⟩ := by
    have hword : Bareword.ofLine "abc" = some ⟨[], ['a', 'b', 'c'], []⟩ := by decide
    have hquoted : (Bareword.mk [] ['a', 'b', 'c'] []).quoted = "\"abc\" " := by decide
    rw [Problem.fix?, hkind]
    change p.quoteToken t = _
    rw [Problem.quoteToken, hline]
    change (t.get line).toOption.bind _ = _
    rw [hget, Option.bind_some]
    change (Bareword.ofLine "abc").bind _ = _
    rw [hword]
    change (t.set line (Bareword.mk [] ['a', 'b', 'c'] []).quoted).toOption = _
    rw [hquoted, hset]
    rfl
  rw [hfix, Option.getD_some]
  intro heq
  have hat := congrArg (fun s : Script => s.lines[line - 1]?) heq
  simp only [List.getElem?_set_self', List.getElem?_replicate] at hat
  rw [if_pos (by omega)] at hat
  revert hat
  decide

theorem fix?_ttl {p : Problem} {line n : Nat} (hkind : p.kind = .missingRequiredArgument)
    (htable : p.resourceType? = some Problem.tableType)
    (hopens : p.snippet.any (Problem.opensTtl ·.code) = true)
    (hline : p.line = some line) (hpos : 1 ≤ line) (hlt : line < n) :
    (p.fix? ⟨List.replicate n "\x7d"⟩).getD ⟨List.replicate n "\x7d"⟩ ≠
      ⟨List.replicate n "\x7d"⟩ := by
  let t : Script := ⟨List.replicate n "\x7d"⟩
  have hsize : t.size = n := List.length_replicate
  have hend : t.blockEnd? line = some (line + 1) := by
    obtain ⟨rest, hrest⟩ : ∃ rest, n - line = rest + 1 := ⟨n - line - 1, by omega⟩
    have hdrop : t.lines.drop line = "\x7d" :: List.replicate rest "\x7d" := by
      rw [List.drop_replicate, hrest]
      rfl
    have hclose : Script.isBlockEnd "\x7d" = true := by decide
    rw [Script.blockEnd?, hdrop, List.findIdx?_cons, if_pos hclose]
    rfl
  have hremove := removeLines_ok (s := t) hpos (Nat.le_succ line) (by omega)
  have hfix : p.fix? t = some ⟨t.lines.take (line - 1) ++ t.lines.drop (line + 1)⟩ := by
    obtain ⟨snippet, hsnippet, hcode⟩ := (Option.any_eq_true _ _).mp hopens
    rw [Problem.fix?, hkind]
    change (if (p.resourceType? == some Problem.tableType) = true then p.removeTtl t else none) = _
    rw [if_pos (beq_iff_eq.mpr htable), Problem.removeTtl, hsnippet]
    change (if (!Problem.opensTtl snippet.code) = true then none else _) = _
    rw [if_neg (by simp [hcode]), hline]
    change (t.blockEnd? line).bind _ = _
    rw [hend]
    change (t.removeLines line (line + 1)).toOption = _
    rw [hremove]
    rfl
  exact fix?_ne_of_removeLines hfix hremove

/-- A report that reaches documents of so many lines edits one of them. -/
theorem edits_of_reaches {p : Problem} {n : Nat} (hp : reaches n p = true) :
    ∃ document common, (Script.ofText document).size = n ∧
      (Repair.round document (common ++ [p])).1 ≠ (Repair.round document common).1 := by
  rcases hs : p.removal? with _ | s
  · simp only [reaches, hs] at hp
    split at hp
    · next hkind =>
        obtain ⟨line, hline, hin⟩ := (Option.any_eq_true _ _).mp hp
        obtain ⟨hpos, hle⟩ := of_decide_eq_true hin
        have hplain : IsLine "abc" := ⟨by decide, by decide⟩
        obtain ⟨document, hdocument⟩ := exists_document n hplain
        refine ⟨document, [], by rw [hdocument]; exact List.length_replicate, ?_⟩
        rw [List.nil_append, round_of_schedule (schedule_singleton p), round_nil, hdocument]
        exact fix?_separator hkind hline hpos hle
    · next hkind =>
        obtain ⟨hleft, hline⟩ := (Bool.and_eq_true _ _).mp hp
        obtain ⟨htable, hopens⟩ := (Bool.and_eq_true _ _).mp hleft
        obtain ⟨line, hline, hin⟩ := (Option.any_eq_true _ _).mp hline
        obtain ⟨hpos, hlt⟩ := of_decide_eq_true hin
        obtain ⟨document, hdocument⟩ := exists_ends n
        refine ⟨document, [], by rw [hdocument]; exact List.length_replicate, ?_⟩
        rw [List.nil_append, round_of_schedule (schedule_singleton p), round_nil, hdocument]
        exact fix?_ttl hkind (beq_iff_eq.mp htable) hopens hline hpos hlt
    · cases hp
  · rw [reaches_of_removal hs] at hp
    exact edits_of_removal hs hp

theorem DifferBy.append_singleton {extra : Problem → Prop} {p : Problem} (hp : extra p)
    (l : List Problem) : DifferBy extra (l ++ [p]) l := by
  induction l with
  | nil => exact .left hp .nil
  | cons q l ih => exact .both q ih

/-- Whatever reports about other files come and go, a round makes the same of every document of so
many lines, just when none of them reaches such a document. -/
theorem elsewhere_ignored_iff (n : Nat) (extra : Problem → Prop) :
    (∀ document l m, (Script.ofText document).size = n →
        DifferBy (fun p => IsElsewhere p ∧ extra p) l m →
        (Repair.round document l).1 = (Repair.round document m).1) ↔
      ∀ p, IsElsewhere p → extra p → reaches n p = false := by
  constructor
  · intro hsame p helsewhere hextra
    by_contra hreach
    obtain ⟨document, common, hsize, hne⟩ := edits_of_reaches (Bool.not_eq_false _ ▸ hreach)
    exact hne (hsame document _ _ hsize (.append_singleton ⟨helsewhere, hextra⟩ common))
  · rintro hnone document l m rfl hdiffer
    rw [← round_filter document l, ← round_filter document m,
      hdiffer.filter_eq fun p hp => hnone p hp.1 hp.2]

/-- A report about the file of values removes the first line of the main file. -/
theorem elsewhere_not_ignored :
    ¬ ∀ document l m, DifferBy IsElsewhere l m →
      (Repair.round document l).1 = (Repair.round document m).1 := by
  intro hsame
  have helsewhere : IsElsewhere
      ((Problem.error "Invalid or unknown key" "").inLines assignmentsFile 1 1) :=
    ⟨_, rfl, by decide⟩
  have heq := hsame "a = 1\n" _ [] (.left helsewhere .nil)
  rw [round_of_schedule (schedule_singleton _), round_nil] at heq
  revert heq
  decide

end StackExport.Proofs.RepairIndependence
