import Mathlib
import StackExport.Proofs.RepairEdits
/-!
The fixes of a round, one after the other.

Every line keeps the number that it has in the document of the reports, which shows what became of
each line of that document. The fixes come from the bottom up, so that what stands above the line of
a fix is in its place when the fix is due.
-/
namespace StackExport.Proofs.RepairSteps

open StackExport
open StackExport.Proofs.RepairSchedule
open StackExport.Proofs.RepairRound
open StackExport.Proofs.RepairIndependence
open StackExport.Proofs.RepairEdits

/-! ### Runs of fixes -/

/-- A fix that is made. -/
structure Step where
  report : Problem
  before : Numbered
  edit : Edit

/-- The fixes that reports bring about, one after the other. -/
def steps (lines : Numbered) : List Problem → List Step
  | [] => []
  | p :: rest =>
    match edit? p (script lines) with
    | some e => ⟨p, lines, e⟩ :: steps (e.apply lines) rest
    | none => steps lines rest

def linesAfter (lines : Numbered) : List Problem → Numbered
  | [] => lines
  | p :: rest =>
    match edit? p (script lines) with
    | some e => linesAfter (e.apply lines) rest
    | none => linesAfter lines rest

theorem fixEach_eq (lines : Numbered) (todo : List Problem) :
    Repair.fixEach (script lines) todo =
      (script (linesAfter lines todo), (steps lines todo).length) := by
  induction todo generalizing lines with
  | nil => rfl
  | cons p rest ih =>
      rcases hedit : edit? p (script lines) with _ | e
      · have hfix : p.fix? (script lines) = none := by rw [fix?_eq, hedit]; rfl
        simp only [Repair.fixEach, hfix, linesAfter, steps, hedit]
        exact ih lines
      · have hfix : p.fix? (script lines) = some (script (e.apply lines)) := by
          rw [fix?_eq, hedit]; rfl
        simp only [Repair.fixEach, hfix, linesAfter, steps, hedit]
        rw [ih]
        rfl

theorem linesAfter_append (lines : Numbered) (front rest : List Problem) :
    linesAfter lines (front ++ rest) = linesAfter (linesAfter lines front) rest := by
  induction front generalizing lines with
  | nil => rfl
  | cons p front ih =>
      rcases hedit : edit? p (script lines) with _ | e <;>
        simp only [List.cons_append, linesAfter, hedit, ih]

/-- A fix is made on what the reports in front of its own have left. -/
theorem exists_front_of_mem_steps {lines : Numbered} {todo : List Problem} {st : Step}
    (h : st ∈ steps lines todo) :
    ∃ front rest, todo = front ++ st.report :: rest ∧ st.before = linesAfter lines front ∧
      EditOf st.report (script st.before) st.edit ∧
      linesAfter lines todo = linesAfter (st.edit.apply st.before) rest := by
  induction todo generalizing lines with
  | nil => cases h
  | cons p todo ih =>
      rcases hedit : edit? p (script lines) with _ | e
      · simp only [steps, hedit] at h
        obtain ⟨front, rest, htodo, hbefore, hof, hafter⟩ := ih h
        refine ⟨p :: front, rest, by rw [htodo]; rfl, ?_, hof, ?_⟩
        · simp only [linesAfter, hedit]
          exact hbefore
        · simp only [linesAfter, hedit]
          exact hafter
      · simp only [steps, hedit] at h
        rcases List.mem_cons.mp h with rfl | h
        · exact ⟨[], todo, rfl, rfl, editOf_of_edit? hedit, by simp only [linesAfter, hedit]⟩
        · obtain ⟨front, rest, htodo, hbefore, hof, hafter⟩ := ih h
          refine ⟨p :: front, rest, by rw [htodo]; rfl, ?_, hof, ?_⟩
          · simp only [linesAfter, hedit]
            exact hbefore
          · simp only [linesAfter, hedit]
            exact hafter

/-- A run of fixes leaves alone what stands above all their reports. -/
theorem take_linesAfter {todo : List Problem} {m : Nat}
    (h : ∀ p ∈ todo, ∀ n ∈ p.line, m < n) (lines : Numbered) :
    (linesAfter lines todo).take m = lines.take m := by
  induction todo generalizing lines with
  | nil => rfl
  | cons p rest ih =>
      have hrest : ∀ q ∈ rest, ∀ n ∈ q.line, m < n := fun q hq => h q (List.mem_cons_of_mem _ hq)
      rcases hedit : edit? p (script lines) with _ | e
      · simp only [linesAfter, hedit]
        exact ih hrest lines
      · have hof := editOf_of_edit? hedit
        simp only [linesAfter, hedit]
        rw [ih hrest, hof.take_apply (h p List.mem_cons_self _ hof.line_eq)]

/-! ### Runs that change nothing -/

theorem linesAfter_shrinks_or_quotes (lines : Numbered) (todo : List Problem) :
    (linesAfter lines todo).length < lines.length ∨
      (linesAfter lines todo).length = lines.length ∧
        allQuotes (linesAfter lines todo) = allQuotes lines + 2 * (steps lines todo).length := by
  induction todo generalizing lines with
  | nil => exact Or.inr ⟨rfl, rfl⟩
  | cons p rest ih =>
      rcases hedit : edit? p (script lines) with _ | e
      · simp only [linesAfter, steps, hedit]
        exact ih lines
      · simp only [linesAfter, steps, hedit, List.length_cons]
        have hstep := (editOf_of_edit? hedit).shrinks_or_quotes
        have hrest := ih (e.apply lines)
        omega

theorem linesAfter_of_steps_eq_nil {lines : Numbered} {todo : List Problem}
    (h : steps lines todo = []) : linesAfter lines todo = lines := by
  induction todo generalizing lines with
  | nil => rfl
  | cons p rest ih =>
      rcases hedit : edit? p (script lines) with _ | e
      · simp only [steps, hedit] at h
        simp only [linesAfter, hedit]
        exact ih h
      · simp only [steps, hedit] at h
        cases h

/-- Fixes that are made leave another script behind. -/
theorem steps_eq_nil_iff {lines : Numbered} {todo : List Problem} :
    steps lines todo = [] ↔ script (linesAfter lines todo) = script lines := by
  constructor
  · intro hnil
    rw [linesAfter_of_steps_eq_nil hnil]
  · intro hsame
    have hlength := congrArg Script.size hsame
    have hquotes : allQuotes (linesAfter lines todo) = allQuotes lines := by
      rw [allQuotes, hsame, allQuotes]
    rw [size_script, size_script] at hlength
    refine List.length_eq_zero_iff.mp ?_
    rcases linesAfter_shrinks_or_quotes lines todo with hless | ⟨-, hmore⟩ <;> omega

/-! ### What becomes of the lines -/

/-- What holds of numbered lines that come from a script by fixes: they are in their order, and each
is as it was or has more quotes. -/
structure Descends (s : Script) (lines : Numbered) : Prop where
  ordered : (lines.map Prod.snd).Pairwise (· < ·)
  source : ∀ line ∈ lines, ∃ text, (text, line.2) ∈ numbered s ∧
    (line.1 = text ∨ quotes text.toList < quotes line.1.toList)

theorem mem_numbered_iff {s : Script} {line : String × Nat} :
    line ∈ numbered s ↔ 1 ≤ line.2 ∧ s.lines[line.2 - 1]? = some line.1 := by
  obtain ⟨text, n⟩ := line
  exact List.mk_mem_zipIdx_iff_le_and_getElem?_sub

theorem text_eq_of_mem_numbered {s : Script} {n : Nat} {a b : String} (ha : (a, n) ∈ numbered s)
    (hb : (b, n) ∈ numbered s) : a = b := by
  have ha := (mem_numbered_iff.mp ha).2
  rw [(mem_numbered_iff.mp hb).2] at ha
  exact (Option.some.inj ha).symm

theorem getElem?_numbered (s : Script) (i : Nat) :
    (numbered s)[i]? = s.lines[i]?.map fun text => (text, i + 1) := by
  rw [numbered, List.getElem?_zipIdx, Nat.add_comm]

theorem descends_numbered (s : Script) : Descends s (numbered s) where
  ordered := by
    rw [numbered, List.zipIdx_map_snd]
    exact List.pairwise_lt_range'
  source := fun line hline => ⟨line.1, hline, Or.inl rfl⟩

section

variable {p : Problem} {s : Script} {e : Edit} {lines : Numbered}

theorem Descends.apply (h : Descends s lines) (he : EditOf p (script lines) e) :
    Descends s (e.apply lines) := by
  cases he with
  | removal hk _ =>
      have hsub := sublist_cut (first_le_last hk) lines
      exact ⟨h.ordered.sublist (hsub.map _), fun line hline => h.source line (hsub.mem hline)⟩
  | ttl _ hk _ =>
      have hsub := sublist_cut (first_lt_last_of_ttlSpan? hk).le lines
      exact ⟨h.ordered.sublist (hsub.map _), fun line hline => h.source line (hsub.mem hline)⟩
  | quote _ _ _ htext hword =>
      refine ⟨by rw [map_snd_put]; exact h.ordered, fun line hline => ?_⟩
      rcases mem_put hline with hline | ⟨old, hold, rfl⟩
      · exact h.source line hline
      · obtain ⟨text, hsource, hmore⟩ := h.source old (List.mem_of_getElem? hold)
        refine ⟨text, hsource, Or.inr ?_⟩
        rw [script, List.getElem?_map, hold] at htext
        cases htext
        rw [quotes_quoted hword]
        rcases hmore with heq | hmore
        · rw [heq]
          omega
        · omega

theorem Descends.run (h : Descends s lines) (todo : List Problem) :
    Descends s (linesAfter lines todo) := by
  induction todo generalizing lines with
  | nil => exact h
  | cons p rest ih =>
      rcases hedit : edit? p (script lines) with _ | e
      · simp only [linesAfter, hedit]
        exact ih h
      · simp only [linesAfter, hedit]
        exact ih (h.apply (editOf_of_edit? hedit))

/-- What is gone, or is no longer as it was, does not come back. -/
theorem Descends.not_mem_apply (h : Descends s lines) (he : EditOf p (script lines) e)
    {line : String × Nat} (hline : line ∈ numbered s) (hgone : line ∉ lines) :
    line ∉ e.apply lines := by
  intro hback
  cases he with
  | removal hk _ => exact hgone ((sublist_cut (first_le_last hk) lines).mem hback)
  | ttl _ hk _ => exact hgone ((sublist_cut (first_lt_last_of_ttlSpan? hk).le lines).mem hback)
  | quote _ _ _ htext hword =>
      rcases mem_put hback with hback | ⟨old, hold, rfl⟩
      · exact hgone hback
      · obtain ⟨text, hsource, hmore⟩ := h.source old (List.mem_of_getElem? hold)
        obtain rfl := text_eq_of_mem_numbered hsource hline
        rw [script, List.getElem?_map, hold] at htext
        cases htext
        rw [quotes_quoted hword] at hmore
        rcases hmore with heq | hmore
        · have := quotes_quoted hword
          rw [heq] at this
          omega
        · omega

theorem Descends.not_mem_linesAfter (h : Descends s lines) {line : String × Nat}
    (hline : line ∈ numbered s) (hgone : line ∉ lines) (todo : List Problem) :
    line ∉ linesAfter lines todo := by
  induction todo generalizing lines with
  | nil => exact hgone
  | cons p rest ih =>
      rcases hedit : edit? p (script lines) with _ | e
      · simp only [linesAfter, hedit]
        exact ih h hgone
      · have hof := editOf_of_edit? hedit
        simp only [linesAfter, hedit]
        exact ih (h.apply hof) (h.not_mem_apply hof hline hgone)

/-- Lines further down have higher numbers. -/
theorem Descends.number_lt (h : Descends s lines) {i j : Nat} {a b : String × Nat}
    (ha : lines[i]? = some a) (hb : lines[j]? = some b) (hij : i < j) : a.2 < b.2 := by
  obtain ⟨hi, rfl⟩ := List.getElem?_eq_some_iff.mp ha
  obtain ⟨hj, rfl⟩ := List.getElem?_eq_some_iff.mp hb
  have hordered := List.pairwise_iff_getElem.mp h.ordered i j (by simpa using hi)
    (by simpa using hj) hij
  simpa using hordered

/-- A line comes at most as far up as its number says. -/
theorem Descends.lt_number (h : Descends s lines) {i : Nat} {line : String × Nat}
    (hline : lines[i]? = some line) : i < line.2 := by
  induction i generalizing line with
  | zero =>
      obtain ⟨text, hsource, -⟩ := h.source line (List.mem_of_getElem? hline)
      exact (mem_numbered_iff.mp hsource).1
  | succ i ih =>
      have hlt := (List.getElem?_eq_some_iff.mp hline).1
      have hat := List.getElem?_eq_getElem (by omega : i < lines.length)
      have hprev := ih hat
      have hnext := h.number_lt hat hline (Nat.lt_succ_self i)
      omega

/-- Behind lines that are all in their places, the next number is in its place if it is there. -/
theorem Descends.getElem?_of_mem (h : Descends s lines) {m : Nat}
    (hm : lines.take m = (numbered s).take m) {line : String × Nat} (hline : line ∈ lines)
    (hle : line.2 ≤ m + 1) : lines[line.2 - 1]? = some line := by
  obtain ⟨i, hi⟩ := List.mem_iff_getElem?.mp hline
  have hlt := h.lt_number hi
  by_cases him : i < m
  · have hat : (numbered s)[i]? = some line := by
      rw [← List.getElem?_take_of_lt him, ← hm, List.getElem?_take_of_lt him, hi]
    rw [getElem?_numbered] at hat
    obtain ⟨text, -, rfl⟩ := Option.map_eq_some_iff.mp hat
    exact hi
  · obtain rfl : line.2 - 1 = i := by omega
    exact hi

theorem Descends.index_eq (h : Descends s lines) {i j : Nat} {a b : String × Nat}
    (ha : lines[i]? = some a) (hb : lines[j]? = some b) (hab : a.2 = b.2) : i = j := by
  rcases Nat.lt_trichotomy i j with hless | hsame | hmore
  · have := h.number_lt ha hb hless
    omega
  · exact hsame
  · have := h.number_lt hb ha hmore
    omega

/-- An edit leaves none of the lines that it covers as it was. -/
theorem Descends.not_mem_apply_of_covers (h : Descends s lines) (he : EditOf p (script lines) e)
    {m : Nat} (hm : lines.take m = (numbered s).take m) {line : String × Nat}
    (hline : line ∈ numbered s) (hcovers : e.Covers line.2) (hle : line.2 ≤ m + 1) :
    line ∉ e.apply lines := by
  intro hback
  by_cases hthere : line ∈ lines
  · have hplace := h.getElem?_of_mem hm hthere hle
    have hpos := (mem_numbered_iff.mp hline).1
    cases e with
    | cut k =>
        obtain ⟨hfirst, hlast⟩ : k.first ≤ line.2 ∧ line.2 ≤ k.last := hcovers
        rcases List.mem_append.mp hback with hback | hback
        · obtain ⟨i, hi⟩ := List.mem_iff_getElem?.mp hback
          rw [List.getElem?_take] at hi
          split_ifs at hi with hlt
          have := h.index_eq hi hplace rfl
          omega
        · obtain ⟨i, hi⟩ := List.mem_iff_getElem?.mp hback
          rw [List.getElem?_drop] at hi
          have := h.index_eq hi hplace rfl
          omega
    | put number text =>
        obtain rfl : line.2 = number := hcovers
        obtain ⟨i, hi⟩ := List.mem_iff_getElem?.mp hback
        rw [Edit.apply, List.getElem?_modify] at hi
        split_ifs at hi with heq
        · subst heq
          rw [hplace] at hi
          cases he with
          | quote _ _ _ htext hword =>
              rw [script, List.getElem?_map, hplace] at htext
              cases htext
              have hmore := quotes_quoted hword
              have hsame : (_, line.2) = line := Option.some.inj hi
              rw [← congrArg Prod.fst hsame] at hmore
              simp at hmore
        · obtain ⟨old, hold, rfl⟩ := Option.map_eq_some_iff.mp hi
          exact heq (h.index_eq hold hplace rfl).symm
  · exact h.not_mem_apply he hline hthere hback

end

/-! ### Rounds -/

theorem mem_steps {lines : Numbered} {front rest : List Problem} {p : Problem} {e : Edit}
    (h : edit? p (script (linesAfter lines front)) = some e) :
    ⟨p, linesAfter lines front, e⟩ ∈ steps lines (front ++ p :: rest) := by
  induction front generalizing lines with
  | nil =>
      rw [List.nil_append]
      simp only [linesAfter] at h ⊢
      simp only [steps, h]
      exact List.mem_cons_self
  | cons q front ih =>
      rw [List.cons_append]
      rcases hedit : edit? q (script lines) with _ | e'
      · simp only [linesAfter, hedit] at h
        simp only [linesAfter, steps, hedit]
        exact ih h
      · simp only [linesAfter, hedit] at h
        simp only [linesAfter, steps, hedit]
        exact List.mem_cons_of_mem _ (ih h)

/-- The fixes of a round come from the bottom up, and what is fixed before a removal lies below all
of it. -/
theorem pairwise_schedule_lines (problems : List Problem) :
    (schedule problems).1.Pairwise fun a b => ∀ n ∈ a.line,
      (∀ m ∈ b.line, m ≤ n) ∧ ∀ k ∈ b.removal?, k.last < n := by
  have hsorted : (schedule problems).1.Pairwise fun a b => a.notAbove b = true :=
    pairwise_mergeSort_notAbove _
  refine (hsorted.and (pairwise_schedule problems)).imp_of_mem
    fun {a b} ha hb ⟨hab, hremoval⟩ n hn => ⟨fun m hm => ?_, fun k hk => ?_⟩
  · obtain ⟨l, hl, hml⟩ := notAbove_iff.mp hab m hm
    rw [Option.mem_def.mp hn] at hl
    cases hl
    exact hml
  · have hkept := kept_of_mem_schedule hb hk
    rcases hj : a.removal? with _ | j
    · have hout := outside_of_mem_schedule ha hj hn hkept
      obtain ⟨l, hl, hle⟩ := notAbove_iff.mp hab k.first (line_of_removal? hk)
      rw [Option.mem_def.mp hn] at hl
      cases hl
      omega
    · have hlast := hremoval j hj k.last (by simp [lastLine?, Option.mem_def.mp hk])
      rw [line_of_removal? hj] at hn
      cases hn
      exact hlast

/-- The fixes of a round that are made on a script. -/
def stepsOf (s : Script) (problems : List Problem) : List Step :=
  steps (numbered s) (schedule problems).1

/-- What a round leaves of the lines of a script. -/
def leftOf (s : Script) (problems : List Problem) : Numbered :=
  linesAfter (numbered s) (schedule problems).1

theorem fixEach_schedule (s : Script) (problems : List Problem) :
    Repair.fixEach s (schedule problems).1 =
      (script (leftOf s problems), (stepsOf s problems).length) := by
  have h := fixEach_eq (numbered s) (schedule problems).1
  rwa [script_numbered] at h

section

variable {s : Script} {problems : List Problem} {st : Step}

theorem take_of_schedule {front rest : List Problem} {p : Problem}
    (h : (schedule problems).1 = front ++ p :: rest) :
    (∀ n ∈ p.line, (linesAfter (numbered s) front).take (n - 1) = (numbered s).take (n - 1)) ∧
      ∀ k ∈ p.removal?, (linesAfter (numbered s) front).take k.last = (numbered s).take k.last := by
  have hpairwise := pairwise_schedule_lines problems
  rw [h] at hpairwise
  have hbelow := fun q hq => (List.pairwise_append.mp hpairwise).2.2 q hq p List.mem_cons_self
  constructor
  · intro n hn
    rcases Nat.eq_zero_or_pos n with rfl | hpos
    · rfl
    · refine take_linesAfter (fun q hq l hl => ?_) _
      have := (hbelow q hq l hl).1 n hn
      omega
  · intro k hk
    exact take_linesAfter (fun q hq l hl => (hbelow q hq l hl).2 k hk) _

theorem descends_before (h : st ∈ stepsOf s problems) : Descends s st.before := by
  obtain ⟨front, _, _, hbefore, -⟩ := exists_front_of_mem_steps h
  rw [hbefore]
  exact (descends_numbered s).run front

theorem editOf_of_mem_stepsOf (h : st ∈ stepsOf s problems) :
    EditOf st.report (script st.before) st.edit := by
  obtain ⟨_, _, _, _, hof, _⟩ := exists_front_of_mem_steps h
  exact hof

/-- What stands above the line of a report is in its place when the report is due. -/
theorem take_before (h : st ∈ stepsOf s problems) :
    st.before.take (st.edit.line - 1) = (numbered s).take (st.edit.line - 1) := by
  obtain ⟨front, rest, htodo, hbefore, hof, -⟩ := exists_front_of_mem_steps h
  rw [hbefore]
  exact (take_of_schedule htodo).1 _ hof.line_eq

theorem take_before_of_removal (h : st ∈ stepsOf s problems) {k : Span}
    (hk : st.report.removal? = some k) :
    st.before.take k.last = (numbered s).take k.last := by
  obtain ⟨front, rest, htodo, hbefore, -⟩ := exists_front_of_mem_steps h
  rw [hbefore]
  exact (take_of_schedule htodo).2 k hk

/-- The lines that a report names: those that it asks to remove, or else its first one. -/
def Names (p : Problem) (n : Nat) : Prop :=
  match p.removal? with
  | some k => k.first ≤ n ∧ n ≤ k.last
  | none => p.line = some n

theorem names_of_removal {p : Problem} {k : Span} (hk : p.removal? = some k) (n : Nat) :
    Names p n ↔ k.first ≤ n ∧ n ≤ k.last := by
  simp only [Names, hk]

theorem names_of_no_removal {p : Problem} (hp : p.removal? = none) (n : Nat) :
    Names p n ↔ p.line = some n := by
  simp only [Names, hp]

/-- A fix of a round leaves no line that its report names as it was. -/
theorem not_mem_leftOf_of_names (h : st ∈ stepsOf s problems) {line : String × Nat}
    (hline : line ∈ numbered s) (hnames : Names st.report line.2) : line ∉ leftOf s problems := by
  have hdescends := descends_before h
  have hgone : line ∉ st.edit.apply st.before := by
    have hof := editOf_of_mem_stepsOf h
    rcases hk : st.report.removal? with _ | k
    · have hn : st.edit.line = line.2 := by
        have hn := (names_of_no_removal hk line.2).mp hnames
        rw [hof.line_eq] at hn
        exact Option.some.inj hn
      have hcovers : st.edit.Covers line.2 := by
        generalize st.edit = e at hof hn
        cases hof with
        | removal hremoval _ => rw [hk] at hremoval; cases hremoval
        | ttl _ hspan _ =>
            have hlt := first_lt_last_of_ttlSpan? hspan
            have hn : _ = line.2 := hn
            exact ⟨hn.le, by rw [← hn]; exact hlt.le⟩
        | quote => exact hn.symm
      exact hdescends.not_mem_apply_of_covers hof (take_before h) hline hcovers (by omega)
    · have hin := (names_of_removal hk line.2).mp hnames
      have hcovers : st.edit.Covers line.2 := by
        rw [(hof.eq_cut hk).1]
        exact hin
      exact hdescends.not_mem_apply_of_covers hof (take_before_of_removal h hk) hline hcovers
        (by omega)
  obtain ⟨_, rest, _, _, hof, hafter⟩ := exists_front_of_mem_steps h
  rw [leftOf, hafter]
  exact (hdescends.apply hof).not_mem_linesAfter hline hgone rest

/-- A kept removal is made just when the script has its lines. -/
theorem exists_step_of_kept_iff {k : Span} (hk : k ∈ keptOf problems) :
    (∃ st ∈ stepsOf s problems, st.report.removal? = some k) ↔ 1 ≤ k.first ∧ k.last ≤ s.size := by
  constructor
  · rintro ⟨st, hst, hremoval⟩
    obtain ⟨hfirst, hlast⟩ := isWithin_iff.mp ((editOf_of_mem_stepsOf hst).eq_cut hremoval).2
    have htake := congrArg List.length (take_before_of_removal hst hremoval)
    rw [size_script] at hlast
    rw [List.length_take, List.length_take, numbered, List.length_zipIdx] at htake
    unfold Script.size
    exact ⟨hfirst, by omega⟩
  · rintro ⟨hfirst, hlast⟩
    obtain ⟨p, hp, hremoval⟩ := List.mem_filterMap.mp (mem_removals_schedule.mpr hk)
    obtain ⟨front, rest, htodo⟩ := List.append_of_mem hp
    have htake := congrArg List.length ((take_of_schedule (s := s) htodo).2 k hremoval)
    rw [List.length_take, List.length_take, numbered, List.length_zipIdx] at htake
    unfold Script.size at hlast
    have hin : isWithin (script (linesAfter (numbered s) front)) k = true := by
      rw [isWithin_iff, size_script, numbered]
      exact ⟨hfirst, by omega⟩
    refine ⟨⟨p, linesAfter (numbered s) front, .cut k⟩, ?_, hremoval⟩
    rw [stepsOf, htodo]
    refine mem_steps ?_
    rw [edit?_of_removal hremoval, if_pos hin]

end

end StackExport.Proofs.RepairSteps
