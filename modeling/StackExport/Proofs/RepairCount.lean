import Mathlib
import StackExport.Proofs.RepairSteps
import StackExport.Proofs.RepairRun
/-!
What the count of a repair counts.

A round counts the reports that it fixes and those that it leaves to a removal around them. The first
are dealt with in truth: no line that they name is left as it was. The others are only where that
removal is made, and it is made just when the document has all of its lines.
-/
namespace StackExport.Proofs.RepairCount

open StackExport
open StackExport.Proofs.RepairSchedule
open StackExport.Proofs.RepairRound
open StackExport.Proofs.RepairEdits
open StackExport.Proofs.RepairSteps
open StackExport.Proofs.RepairRun

/-! ### What a round deals with -/

/-- The reports that a round leaves to a removal around them. -/
def absorbedOf (problems : List Problem) : List Problem :=
  ((treatments (keptOf problems) [] problems).filter (·.2 == .absorbed)).map Prod.fst

section

variable (s : Script) (problems : List Problem)

/-- True for a report when the removal around its first line is made. -/
def isCarriedOut (p : Problem) : Bool :=
  (p.line.bind (Span.around? (keptOf problems))).any fun k =>
    (stepsOf s problems).any fun st => st.report.removal? == some k

/-- The reports that are fixed, and those whose lines go with a removal around them. -/
def dealtWith : List Problem :=
  (stepsOf s problems).map Step.report ++ (absorbedOf problems).filter (isCarriedOut s problems)

/-- True for a report that names lines of the script, none of which is left as it was. -/
def Changed (p : Problem) : Prop :=
  (∃ line ∈ numbered s, Names p line.2) ∧
    ∀ line ∈ numbered s, Names p line.2 → line ∉ leftOf s problems

end

section

variable {s : Script} {problems : List Problem} {p : Problem}

theorem mem_absorbedOf : p ∈ absorbedOf problems ↔
    (p, Treatment.absorbed) ∈ treatments (keptOf problems) [] problems := by
  constructor
  · intro h
    obtain ⟨⟨q, t⟩, hmem, rfl⟩ := List.mem_map.mp h
    obtain ⟨hmem, ht⟩ := List.mem_filter.mp hmem
    obtain rfl : t = .absorbed := by simpa using ht
    exact hmem
  · intro h
    exact List.mem_map.mpr ⟨_, List.mem_filter.mpr ⟨h, rfl⟩, rfl⟩

/-- A report that is left to a removal names only lines of that removal. -/
theorem exists_kept_of_mem_absorbedOf (h : p ∈ absorbedOf problems) :
    ∃ k ∈ keptOf problems, ∃ line, p.line = some line ∧ Names p line ∧
      Span.around? (keptOf problems) line = some k ∧
      ∀ n, Names p n → k.first ≤ n ∧ n ≤ k.last := by
  obtain ⟨k, hk, line, hline, hin, hlast⟩ : Treated (keptOf problems) p .absorbed :=
    treated_treatments [] (fun p hp s hs => exists_around hp hs) _ (mem_absorbedOf.mp h)
  have hin := contains_iff.mp hin
  have haround : Span.around? (keptOf problems) line = some k := by
    rcases hfound : Span.around? (keptOf problems) line with _ | j
    · have hout := around?_eq_none hfound k hk
      rw [contains_iff.mpr hin] at hout
      cases hout
    · obtain ⟨hj, hjin⟩ := around?_eq_some hfound
      have hjin := contains_iff.mp hjin
      rw [eq_of_meets hj hk (by omega) (by omega)]
  rcases hremoval : p.removal? with _ | j
  · refine ⟨k, hk, line, hline, (names_of_no_removal hremoval line).mpr hline, haround,
      fun n hn => ?_⟩
    rw [names_of_no_removal hremoval, Option.mem_def.mp hline] at hn
    cases hn
    exact hin
  · have hfirst : line = j.first := by
      rw [line_of_removal? hremoval] at hline
      exact (Option.some.inj hline).symm
    have hle := first_le_last hremoval
    refine ⟨k, hk, line, hline, (names_of_removal hremoval line).mpr ⟨hfirst.ge, by omega⟩, haround,
      fun n hn => ?_⟩
    have hn := (names_of_removal hremoval n).mp hn
    have := hlast j hremoval
    omega

theorem isCarriedOut_iff {k : Span} {line : Nat} (hline : p.line = some line)
    (hk : Span.around? (keptOf problems) line = some k) :
    isCarriedOut s problems p = true ↔ ∃ st ∈ stepsOf s problems, st.report.removal? = some k := by
  simp [isCarriedOut, hline, hk]

theorem numbered_has {n : Nat} (hpos : 1 ≤ n) (hle : n ≤ s.size) :
    ∃ line ∈ numbered s, line.2 = n := by
  unfold Script.size at hle
  have hlt : n - 1 < s.lines.length := by omega
  exact ⟨(s.lines[n - 1], n),
    mem_numbered_iff.mpr ⟨hpos, List.getElem?_eq_getElem hlt⟩, rfl⟩

theorem le_size_of_mem_numbered {line : String × Nat} (h : line ∈ numbered s) :
    line.2 ≤ s.size := by
  have := (List.getElem?_eq_some_iff.mp (mem_numbered_iff.mp h).2).1
  unfold Script.size
  omega

/-- A report that is fixed names a line of the document. -/
theorem exists_named_of_mem_stepsOf {st : Step} (h : st ∈ stepsOf s problems) :
    ∃ line ∈ numbered s, Names st.report line.2 := by
  have hof := editOf_of_mem_stepsOf h
  have hpos := hof.line_pos
  have hsize := hof.line_le_size
  rw [size_script] at hsize
  have hlt : st.edit.line - 1 < st.before.length := by omega
  have hat := List.getElem?_eq_getElem hlt
  -- The line that is in the place of the reported one comes from it or from below it.
  have hnumber := (descends_before h).lt_number hat
  obtain ⟨text, hsource, -⟩ := (descends_before h).source _ (List.mem_of_getElem? hat)
  have hbelow := le_size_of_mem_numbered hsource
  obtain ⟨line, hline, hn⟩ := numbered_has (s := s) hpos (by omega)
  refine ⟨line, hline, ?_⟩
  rw [hn]
  rcases hremoval : st.report.removal? with _ | k
  · exact (names_of_no_removal hremoval _).mpr hof.line_eq
  · obtain ⟨hedit, -⟩ := hof.eq_cut hremoval
    rw [names_of_removal hremoval, hedit]
    exact ⟨le_rfl, first_le_last hremoval⟩

theorem changed_of_mem_dealtWith (h : p ∈ dealtWith s problems) : Changed s problems p := by
  rcases List.mem_append.mp h with h | h
  · obtain ⟨st, hst, rfl⟩ := List.mem_map.mp h
    exact ⟨exists_named_of_mem_stepsOf hst,
      fun line hline hnames => not_mem_leftOf_of_names hst hline hnames⟩
  · obtain ⟨habsorbed, hout⟩ := List.mem_filter.mp h
    obtain ⟨k, hk, n, hn, hnames, haround, hinside⟩ := exists_kept_of_mem_absorbedOf habsorbed
    obtain ⟨st, hst, hremoval⟩ := (isCarriedOut_iff hn haround).mp hout
    obtain ⟨hfirst, hlast⟩ := (exists_step_of_kept_iff hk).mp ⟨st, hst, hremoval⟩
    have hin := hinside n hnames
    obtain ⟨line, hline, rfl⟩ := numbered_has (s := s) (n := n) (by omega) (by omega)
    refine ⟨⟨line, hline, hnames⟩, fun line hline hnames => ?_⟩
    exact not_mem_leftOf_of_names hst hline
      ((names_of_removal hremoval line.2).mpr (hinside line.2 hnames))

/-- A round that deals with nothing makes no fix. -/
theorem dealtWith_eq_nil_iff : dealtWith s problems = [] ↔ stepsOf s problems = [] := by
  constructor
  · intro h
    exact List.map_eq_nil_iff.mp (List.append_eq_nil_iff.mp h).1
  · intro h
    rw [dealtWith, h, List.map_nil, List.nil_append, List.filter_eq_nil_iff]
    intro p hp hout
    obtain ⟨k, -, line, hline, -, haround, -⟩ := exists_kept_of_mem_absorbedOf hp
    obtain ⟨st, hst, -⟩ := (isCarriedOut_iff hline haround).mp hout
    rw [h] at hst
    cases hst

theorem absorbed_eq (problems : List Problem) :
    (schedule problems).2 = (absorbedOf problems).length := by
  rw [absorbedOf, List.length_map, ← List.countP_eq_length_filter]
  rfl

theorem round_eq (document : String) (problems : List Problem) :
    Repair.round document problems =
      (script (leftOf (.ofText document) problems),
        (absorbedOf problems).length + (stepsOf (.ofText document) problems).length) := by
  have hround : Repair.round document problems =
      ((Repair.fixEach (.ofText document) (schedule problems).1).1,
        (schedule problems).2 + (Repair.fixEach (.ofText document) (schedule problems).1).2) := rfl
  rw [hround, fixEach_schedule, absorbed_eq]

end

/-! ### One round -/

/-- What an honest count of a round is. -/
structure Honest (document : String) (problems : List Problem) : Prop where
  counted : (Repair.round document problems).2 = (dealtWith (.ofText document) problems).length
  unchanged : (Repair.round document problems).1 = .ofText document → (Repair.round document problems).2 = 0
  absorbed : ∀ p ∈ absorbedOf problems, isCarriedOut (.ofText document) problems p = true

/-- What a round counts. -/
structure Counts (document : String) (problems : List Problem) : Prop where
  sum : (Repair.round document problems).2 = (dealtWith (.ofText document) problems).length +
    ((absorbedOf problems).filter (!isCarriedOut (.ofText document) problems ·)).length
  changed : ∀ p ∈ dealtWith (.ofText document) problems, Changed (.ofText document) problems p
  unchanged_iff : (Repair.round document problems).1 = .ofText document ↔
    dealtWith (.ofText document) problems = []
  /-- The count is honest just when the document has all lines of the removals to which reports are
  left. -/
  honest_iff : Honest document problems ↔ ∀ p ∈ absorbedOf problems, ∀ k ∈ keptOf problems,
    ∀ n ∈ p.line, k.contains n = true → 1 ≤ k.first ∧ k.last ≤ (Script.ofText document).size

section

variable {document : String} {problems : List Problem}

theorem count_round (document : String) (problems : List Problem) :
    (Repair.round document problems).2 = (dealtWith (.ofText document) problems).length +
      ((absorbedOf problems).filter (!isCarriedOut (.ofText document) problems ·)).length := by
  have hsplit := List.length_eq_countP_add_countP (isCarriedOut (.ofText document) problems)
    (l := absorbedOf problems)
  simp only [List.countP_eq_length_filter, Bool.decide_eq_false, Bool.not_eq_true] at hsplit
  rw [round_eq, dealtWith, List.length_append, List.length_map]
  simp only [hsplit]
  omega

theorem carriedOut_iff_within {p : Problem} (hp : p ∈ absorbedOf problems) :
    isCarriedOut (.ofText document) problems p = true ↔ ∀ k ∈ keptOf problems, ∀ n ∈ p.line,
      k.contains n = true → 1 ≤ k.first ∧ k.last ≤ (Script.ofText document).size := by
  obtain ⟨k, hk, line, hline, -, haround, -⟩ := exists_kept_of_mem_absorbedOf hp
  obtain ⟨-, hin⟩ := around?_eq_some haround
  rw [isCarriedOut_iff hline haround, exists_step_of_kept_iff hk]
  constructor
  · intro hwithin j hj n hn hjn
    rw [Option.mem_def.mp hline] at hn
    cases hn
    have hin := contains_iff.mp hin
    have hjn := contains_iff.mp hjn
    rwa [eq_of_meets hj hk (by omega) (by omega)]
  · intro hall
    exact hall k hk line hline hin

theorem unchanged_iff_dealtWith_eq_nil :
    (Repair.round document problems).1 = .ofText document ↔
      dealtWith (.ofText document) problems = [] := by
  have hsteps := @steps_eq_nil_iff (numbered (.ofText document)) (schedule problems).1
  rw [script_numbered] at hsteps
  rw [dealtWith_eq_nil_iff, round_eq]
  exact hsteps.symm

theorem honest_of_carriedOut
    (h : ∀ p ∈ absorbedOf problems, isCarriedOut (.ofText document) problems p = true) :
    Honest document problems := by
  have hnone : (absorbedOf problems).filter
      (!isCarriedOut (.ofText document) problems ·) = [] :=
    List.filter_eq_nil_iff.mpr fun p hp => by simp [h p hp]
  have hcount := count_round document problems
  rw [hnone, List.length_nil, Nat.add_zero] at hcount
  refine ⟨hcount, fun hsame => ?_, h⟩
  rw [hcount, unchanged_iff_dealtWith_eq_nil.mp hsame, List.length_nil]

theorem counts_round (document : String) (problems : List Problem) :
    Counts document problems where
  sum := count_round document problems
  changed := fun _ hp => changed_of_mem_dealtWith hp
  unchanged_iff := unchanged_iff_dealtWith_eq_nil
  honest_iff := by
    constructor
    · intro h p hp
      exact (carriedOut_iff_within hp).mp (h.absorbed p hp)
    · intro h
      exact honest_of_carriedOut fun p hp => (carriedOut_iff_within hp).mpr (h p hp)

end

/-! ### All rounds of a run -/

/-- The rounds that lead from one document to another, each with the reports about its document. -/
inductive Leads : String → List (String × List Problem) → String → Prop
  | done (document : String) : Leads document [] document
  | round {document last : String} {problems : List Problem}
      {rounds : List (String × List Problem)}
      (rest : Leads (Repair.round document problems).1.text rounds last) :
      Leads document ((document, problems) :: rounds) last

def answered (r : String × List Problem) : Call := ⟨r.1, .ok r.2⟩

def countOf (r : String × List Problem) : Nat := (Repair.round r.1 r.2).2

variable {σ : Type}

/-- Every call but the last is followed by a round, and the outcome has the sums of all rounds. -/
theorem runFrom_rounds (compile : TrialCompiler σ) (left : Nat) :
    ∀ (memory : σ) (document : String) (rounds fixed : Nat) (seen : List (List ProblemMark))
      (earlier : List Call) (o : RepairOutcome),
      (Repair.runFrom compile memory document rounds fixed seen left).1 = .ok o →
      ∃ made, (Repair.runFrom (recording compile) (memory, earlier) document rounds fixed seen
            left).2.2 = earlier ++ made.map answered ++ [⟨o.document, .ok o.remaining⟩] ∧
        Leads document made o.document ∧ o.rounds = rounds + made.length ∧
        o.fixed = fixed + (made.map countOf).sum := by
  induction left using Nat.strong_induction_on with
  | _ left ih =>
    intro memory document rounds fixed seen earlier o ho
    rcases hcall : compile memory document with ⟨e | problems, memory'⟩
    · rw [runFrom_error hcall] at ho
      cases ho
    · by_cases hends : Ends document problems seen left
      · rw [runFrom_of_ends hcall hends] at ho
        cases ho
        refine ⟨[], ?_, .done document, rfl, rfl⟩
        rw [runFrom_of_ends (recording_eq hcall earlier) hends, List.map_nil, List.append_nil]
      · obtain ⟨left, rfl, -, hrun⟩ := runFrom_of_not_ends hcall hends rounds fixed
        obtain ⟨left', hleft, -, hrecorded⟩ :=
          runFrom_of_not_ends (recording_eq hcall earlier) hends rounds fixed
        obtain rfl : left = left' := by omega
        rw [hrun] at ho
        obtain ⟨made, hcalls, hleads, hrounds, hfixed⟩ := ih left (by omega) memory' _ _ _ _
          (earlier ++ [⟨document, .ok problems⟩]) o ho
        refine ⟨(document, problems) :: made, ?_, .round hleads, ?_, ?_⟩
        · rw [hrecorded, hcalls]
          simp [answered]
        · rw [hrounds, List.length_cons]
          omega
        · have hcount : countOf (document, problems) = (Repair.round document problems).2 := rfl
          rw [hfixed, List.map_cons, List.sum_cons, hcount, Nat.add_assoc]

/-- A run without a fault counts its rounds and adds up what they count. Each count is the number of
the reports that are dealt with, of which no named line is left as it was, and of those that are left
to a removal that is not made. A round changes no line just when it deals with nothing. Its count is
honest just when no report is left to a removal that reaches beyond the document. -/
theorem repair_count_honest_iff (compile : TrialCompiler σ) (memory : σ) (maxRounds : Nat)
    (document : String) :
    ∃ calls : List Call,
      Repair.run (recording compile) (memory, []) maxRounds document =
        ((Repair.run compile memory maxRounds document).1,
          (Repair.run compile memory maxRounds document).2, calls) ∧
      ∀ o, (Repair.run compile memory maxRounds document).1 = .ok o →
        ∃ rounds, calls = rounds.map answered ++ [⟨o.document, .ok o.remaining⟩] ∧
          Leads document rounds o.document ∧
          o.rounds = rounds.length ∧
          o.fixed = (rounds.map countOf).sum ∧
          ∀ r ∈ rounds, Counts r.1 r.2 := by
  obtain ⟨calls, hcalls, -⟩ := runFrom_recording compile maxRounds memory document 0 0 [] []
  refine ⟨calls, hcalls, fun o ho => ?_⟩
  obtain ⟨rounds, hmade, hleads, hrounds, hfixed⟩ :=
    runFrom_rounds compile maxRounds memory document 0 0 [] [] o ho
  rw [hcalls] at hmade
  exact ⟨rounds, hmade, hleads, by omega, by omega, fun r _ => counts_round r.1 r.2⟩

/-! ### A removal beyond the end -/

def shortDocument : String := "resource \"aws_sqs_queue\" \"Q\" \x7b\n  size = 1\n\x7d\n"

/-- A removal that reaches beyond the document, and a report inside it that nothing can be done
about. -/
def beyondEnd : List Problem :=
  [(Problem.error "Invalid or unknown key" "").inLines "main.tf" 2 9,
    (Problem.error "Unsupported argument" "").inLines "main.tf" 2 2]

theorem keptOf_beyondEnd : keptOf beyondEnd = [⟨2, 9⟩] := by
  have hremovals : removals beyondEnd = [⟨2, 9⟩] := by decide
  rw [keptOf, hremovals, Span.keep, List.mergeSort_singleton]
  rfl

theorem schedule_beyondEnd : schedule beyondEnd = ([beyondEnd[0]], 1) := by
  have htreated : treatments (keptOf beyondEnd) [] beyondEnd =
      [(beyondEnd[0], .scheduled), (beyondEnd[1], .absorbed)] := by
    rw [keptOf_beyondEnd]
    rfl
  have hschedule : schedule beyondEnd =
      ((chosen (treatments (keptOf beyondEnd) [] beyondEnd)).mergeSort Problem.notAbove,
        (treatments (keptOf beyondEnd) [] beyondEnd).countP (·.2 == .absorbed)) := rfl
  rw [hschedule, htreated]
  exact Prod.ext (List.mergeSort_singleton _) rfl

theorem round_beyondEnd :
    Repair.round shortDocument beyondEnd = (.ofText shortDocument, 1) := by
  have hfix : (beyondEnd[0]).fix? (.ofText shortDocument) = none := by decide
  have hround : Repair.round shortDocument beyondEnd =
      ((Repair.fixEach (.ofText shortDocument) (schedule beyondEnd).1).1,
        (schedule beyondEnd).2 +
          (Repair.fixEach (.ofText shortDocument) (schedule beyondEnd).1).2) := rfl
  rw [hround, schedule_beyondEnd]
  simp only [Repair.fixEach, hfix]

def unmoved : TrialCompiler Unit := fun _ _ => (.ok beyondEnd, ())

/-- A round that changes no line is counted, with one fix. -/
theorem unchanged_round_counted :
    ¬ Honest shortDocument beyondEnd ∧
      (Repair.run unmoved () 3 shortDocument).1 = .ok ⟨shortDocument, 1, beyondEnd, 1⟩ := by
  constructor
  · intro honest
    have hzero := honest.unchanged (congrArg Prod.fst round_beyondEnd)
    rw [round_beyondEnd] at hzero
    cases hzero
  · have htext : (Script.ofText shortDocument).text = shortDocument := by decide
    have hcall : unmoved () shortDocument = (.ok beyondEnd, ()) := rfl
    have hcount : (Repair.round shortDocument beyondEnd).2 ≠ 0 := by
      rw [round_beyondEnd]
      decide
    have hgoes : ¬ Ends shortDocument beyondEnd [] 3 := by
      have hsome : beyondEnd ≠ [] := List.cons_ne_nil _ _
      simpa [Ends, hcount] using hsome
    obtain ⟨left, -, -, hrun⟩ := runFrom_of_not_ends hcall hgoes 0 0
    rw [Repair.run, hrun, round_beyondEnd, htext]
    have hstops : Ends shortDocument beyondEnd [beyondEnd.map Problem.mark] left :=
      Or.inr (Or.inr (Or.inl List.mem_cons_self))
    rw [runFrom_of_ends hcall hstops]
    rfl

end StackExport.Proofs.RepairCount
