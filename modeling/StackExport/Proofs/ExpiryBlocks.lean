import Mathlib
import StackExport.Proofs.RepairSteps
import StackExport.Proofs.TemplateReading
/-!
Which lines go with a block of expiry settings.

The fix for such a block takes the lines from the reported one through the next line that is a
closing brace and nothing else. That line belongs to the block just when a line of this form is left
of it; when there is none, the lines behind the block go as well.
-/
namespace StackExport.Proofs.ExpiryBlocks

open StackExport
open StackExport.Proofs.RepairSchedule
open StackExport.Proofs.RepairRound
open StackExport.Proofs.RepairIndependence
open StackExport.Proofs.RepairEdits
open StackExport.Proofs.RepairSteps
open StackExport.Proofs.TemplateReading

/-! ### Blocks of a document -/

/-- What is under way behind some lines of a document. -/
structure Place where
  levels : List Level
  /-- The word that ends a text of several lines. -/
  marker : Option String
deriving DecidableEq, Repr

def isCode (levels : List Level) : Bool :=
  match levels with
  | .code _ :: _ => true
  | _ => false

/-- Goes on by a character. A tilde beside a live sequence opens and closes nothing. -/
def stepAt (levels : List Level) (c : Char) : List Level :=
  match levels with
  | .code begun :: outer => if c = '~' then .code none :: outer else step (.code begun :: outer) c
  | levels => step levels c

/-- The first text of several lines that begins in a line: the levels in front of it, and the word
that ends it. -/
def longText? (levels : List Level) : List Char → Option (List Level × String)
  | [] => none
  | c :: rest =>
    if isCode levels && c == '<' && rest.head? == some '<' then
      let word := rest.tail
      some (levels, Text.trim (String.ofList (if word.head? == some '-' then word.tail else word)))
    else longText? (stepAt levels c) rest

def Place.next (place : Place) (line : String) : Place :=
  match place.marker with
  | some word => if Text.trim line = word then ⟨place.levels, none⟩ else place
  | none =>
    match longText? place.levels line.toList with
    | some (levels, word) => ⟨levels, some word⟩
    | none => ⟨(line.toList ++ ['\n']).foldl stepAt place.levels, none⟩

/-- The place behind so many lines. -/
def placeBehind (s : Script) (n : Nat) : Place :=
  (s.lines.take n).foldl Place.next ⟨[.code none], none⟩

/-- The lines of a block of expiry settings: it is opened in code, and the last line is the first
one behind which nothing of it is open. -/
structure TtlBlock (s : Script) (b : Span) : Prop where
  first_pos : 1 ≤ b.first
  last_le : b.last ≤ s.size
  first_le : b.first ≤ b.last
  opens : ∃ text ∈ s.lines[b.first - 1]?, Problem.opensTtl text = true
  code : isCode (placeBehind s (b.first - 1)).levels = true
  marker : (placeBehind s (b.first - 1)).marker = none
  inside : ∀ n, b.first ≤ n → n < b.last →
    (placeBehind s (b.first - 1)).levels.length < (placeBehind s n).levels.length
  closes : placeBehind s b.last = placeBehind s (b.first - 1)

/-- A block has one end. -/
theorem TtlBlock.unique {s : Script} {b c : Span} (hb : TtlBlock s b) (hc : TtlBlock s c)
    (hfirst : b.first = c.first) : b = c := by
  have hle {b c : Span} (hb : TtlBlock s b) (hc : TtlBlock s c) (hfirst : b.first = c.first) :
      c.last ≤ b.last := by
    by_contra hlt
    have hle := hb.first_le
    have hinside := hc.inside b.last (by omega) (by omega)
    rw [hb.closes, hfirst] at hinside
    exact lt_irrefl _ hinside
  obtain ⟨bf, bl⟩ := b
  obtain ⟨cf, cl⟩ := c
  obtain rfl : bf = cf := hfirst
  have hbc := hle hb hc rfl
  have hcb := hle hc hb rfl
  obtain rfl : bl = cl := le_antisymm hcb hbc
  rfl

/-! ### Lines that a fix takes away -/

/-- The numbers of the lines that a fix takes away. -/
def deleted (st : Step) : List Nat :=
  (st.before.map Prod.snd).filter fun n => decide (n ∉ (st.edit.apply st.before).map Prod.snd)

theorem exists_ttlSpan {s : Script} {problems : List Problem} {st : Step}
    (h : st ∈ stepsOf s problems) (hkind : st.report.kind = .missingRequiredArgument) :
    ∃ k, st.edit = .cut k ∧ ttlSpan? st.report (script st.before) = some k ∧
      1 ≤ k.first ∧ k.last ≤ st.before.length := by
  have hof := editOf_of_mem_stepsOf h
  generalize st.edit = e at hof ⊢
  cases hof with
  | removal hremoval _ => rw [removal?_eq_none (Or.inr hkind)] at hremoval; cases hremoval
  | ttl _ hspan hin =>
      have hin := isWithin_iff.mp hin
      rw [size_script] at hin
      exact ⟨_, rfl, hspan, hin⟩
  | quote hother _ _ _ _ => rw [hkind] at hother; cases hother

theorem mem_cut_iff {k : Span} {lines : Numbered} {line : String × Nat} :
    line ∈ (Edit.cut k).apply lines ↔
      ∃ i, lines[i]? = some line ∧ (i < k.first - 1 ∨ k.last ≤ i) := by
  rw [Edit.apply, List.mem_append]
  constructor
  · rintro (h | h)
    · obtain ⟨i, hi⟩ := List.mem_iff_getElem?.mp h
      rw [List.getElem?_take] at hi
      split_ifs at hi with hlt
      exact ⟨i, hi, Or.inl hlt⟩
    · obtain ⟨i, hi⟩ := List.mem_iff_getElem?.mp h
      rw [List.getElem?_drop] at hi
      exact ⟨k.last + i, hi, Or.inr (Nat.le_add_right _ _)⟩
  · rintro ⟨i, hi, hlt | hle⟩
    · refine Or.inl (List.mem_iff_getElem?.mpr ⟨i, ?_⟩)
      rw [List.getElem?_take_of_lt hlt, hi]
    · refine Or.inr (List.mem_iff_getElem?.mpr ⟨i - k.last, ?_⟩)
      rw [List.getElem?_drop, Nat.add_sub_cancel' hle, hi]

/-- A cut takes away the numbers of the lines in its places. -/
theorem mem_deleted_iff {s : Script} {st : Step} {k : Span} (hbefore : Descends s st.before)
    (hedit : st.edit = .cut k) {n : Nat} :
    n ∈ deleted st ↔ ∃ i line, st.before[i]? = some line ∧ line.2 = n ∧
      k.first - 1 ≤ i ∧ i < k.last := by
  have hnumbers : n ∈ deleted st ↔
      n ∈ st.before.map Prod.snd ∧ n ∉ (st.edit.apply st.before).map Prod.snd := by
    simp only [deleted, List.mem_filter, decide_eq_true_eq]
  rw [hnumbers, hedit]
  constructor
  · rintro ⟨hthere, hgone⟩
    obtain ⟨line, hline, rfl⟩ := List.mem_map.mp hthere
    obtain ⟨i, hi⟩ := List.mem_iff_getElem?.mp hline
    refine ⟨i, line, hi, rfl, ?_⟩
    by_contra hout
    refine hgone (List.mem_map_of_mem (mem_cut_iff.mpr ⟨i, hi, ?_⟩))
    omega
  · rintro ⟨i, line, hi, rfl, hfirst, hlast⟩
    refine ⟨List.mem_map_of_mem (List.mem_of_getElem? hi), fun hstays => ?_⟩
    obtain ⟨other, hother, hsame⟩ := List.mem_map.mp hstays
    obtain ⟨j, hj, hout⟩ := mem_cut_iff.mp hother
    have := hbefore.index_eq hi hj hsame.symm
    omega

/-- The end of a block is the first line behind it that is a closing brace. -/
theorem blockEnd?_first {lines : Numbered} {n last : Nat}
    (h : (script lines).blockEnd? n = some last) :
    (∃ line, lines[last - 1]? = some line ∧ Script.isBlockEnd line.1 = true) ∧
      ∀ j line, n ≤ j → j < last - 1 → lines[j]? = some line →
        Script.isBlockEnd line.1 = false := by
  obtain ⟨i, hi, rfl⟩ := Option.map_eq_some_iff.mp h
  obtain ⟨hlt, hend, hnone⟩ := List.findIdx?_eq_some_iff_getElem.mp hi
  have hat (j : Nat) : ((script lines).lines.drop n)[j]? = lines[n + j]?.map Prod.fst := by
    rw [List.getElem?_drop, script, List.getElem?_map]
  constructor
  · have hline := List.getElem?_eq_getElem hlt
    rw [hat] at hline
    obtain ⟨line, hline, htext⟩ := Option.map_eq_some_iff.mp hline
    have hplace : n + 1 + i - 1 = n + i := by omega
    exact ⟨line, by rw [hplace, hline], by rw [htext]; exact hend⟩
  · intro j line hnj hj hline
    have hlt' : j - n < i := by omega
    have hopen := hnone (j - n) hlt'
    have htext := List.getElem?_eq_getElem (hlt'.trans hlt)
    rw [hat, Nat.add_sub_cancel' hnj, hline] at htext
    rw [← Option.some.inj htext] at hopen
    simpa using hopen

section

variable {s : Script} {problems : List Problem} {st : Step} {b : Span}

/-- The lines that go are those of the block, as far as they are left, just when one of them that
closes a block is left. -/
theorem deleted_within_iff (h : st ∈ stepsOf s problems)
    (hkind : st.report.kind = .missingRequiredArgument) (hb : st.report.line = some b.first) :
    (∀ n ∈ deleted st, b.contains n = true) ↔
      ∃ line ∈ st.before.drop b.first, Script.isBlockEnd line.1 = true ∧ line.2 ≤ b.last := by
  obtain ⟨k, hedit, hspan, hfirst, hlast⟩ := exists_ttlSpan h hkind
  obtain ⟨hline, hend⟩ := line_of_ttlSpan? hspan
  have hlt := first_lt_last_of_ttlSpan? hspan
  have hbefore := descends_before h
  have hsame : k.first = b.first := by
    rw [hb] at hline
    exact (Option.some.inj hline).symm
  obtain ⟨⟨closer, hcloser, hbare⟩, hopen⟩ := blockEnd?_first hend
  constructor
  · intro hall
    have hgone : closer.2 ∈ deleted st :=
      (mem_deleted_iff hbefore hedit).mpr ⟨k.last - 1, closer, hcloser, rfl, by omega, by omega⟩
    refine ⟨closer, ?_, hbare, (contains_iff.mp (hall _ hgone)).2⟩
    refine List.mem_iff_getElem?.mpr ⟨k.last - 1 - b.first, ?_⟩
    rw [List.getElem?_drop, Nat.add_sub_cancel' (by omega), hcloser]
  · rintro ⟨line, hline, hends, hle⟩ n hn
    obtain ⟨j, hj⟩ := List.mem_iff_getElem?.mp hline
    rw [List.getElem?_drop] at hj
    have hbehind : k.last - 1 ≤ b.first + j := by
      by_contra hsooner
      have := hopen (b.first + j) line (by omega) (by omega) hj
      rw [hends] at this
      cases this
    obtain ⟨i, other, hi, rfl, hfrom, huntil⟩ := (mem_deleted_iff hbefore hedit).mp hn
    have hnumber := hbefore.lt_number hi
    have hupper : other.2 ≤ line.2 := by
      rcases Nat.lt_or_ge i (b.first + j) with hij | hij
      · exact (hbefore.number_lt hi hj hij).le
      · obtain rfl : i = b.first + j := by omega
        rw [hi] at hj
        cases hj
        exact le_rfl
    exact contains_iff.mpr ⟨by omega, by omega⟩

/-! ### Reports that leave a block alone -/

/-- True for a report whose fix may take the end of a block away, or lines of it together with
others: one that removes the last line, or one about a line of the block that removes no reported
lines. -/
def disturbs (b : Span) (p : Problem) : Bool :=
  match p.removal? with
  | some k => k.contains b.last
  | none => p.line.any b.contains

/-- A line stays through fixes that neither remove it nor begin above it. -/
theorem mem_linesAfter {front rest : List Problem} (h : (schedule problems).1 = front ++ rest)
    {line : String × Nat} (hline : line ∈ numbered s)
    (hout : ∀ p ∈ front, (∀ k ∈ p.removal?, k.contains line.2 = false) ∧
      (p.removal? = none → ∀ n ∈ p.line, line.2 < n)) :
    line ∈ linesAfter (numbered s) front := by
  induction front using List.reverseRecOn generalizing rest with
  | nil => exact hline
  | append_singleton front p ih =>
      have htodo : (schedule problems).1 = front ++ p :: rest := by
        rw [h, List.append_assoc, List.singleton_append]
      have hthere := ih htodo fun q hq => hout q (List.mem_append_left _ hq)
      obtain ⟨hremoval, hlower⟩ := hout p (List.mem_append_right _ List.mem_cons_self)
      obtain ⟨habove, hwhole⟩ := take_of_schedule (s := s) htodo
      rw [linesAfter_append]
      rcases hedit : edit? p (script (linesAfter (numbered s) front)) with _ | e
      · simp only [linesAfter, hedit]
        exact hthere
      · have hof := editOf_of_edit? hedit
        simp only [linesAfter, hedit]
        obtain ⟨hpos, htext⟩ := mem_numbered_iff.mp hline
        have hplace : (numbered s)[line.2 - 1]? = some line := by
          rw [getElem?_numbered, htext, Option.map_some, Nat.sub_add_cancel hpos]
        rcases hk : p.removal? with _ | k
        · -- The fix begins below the line.
          have hn := hof.line_eq
          have hlt := hlower hk _ hn
          have htake := hof.take_apply (m := e.line - 1) (by have := hof.line_pos; omega)
          rw [habove _ hn] at htake
          refine List.mem_iff_getElem?.mpr ⟨line.2 - 1, ?_⟩
          rw [← List.getElem?_take_of_lt (by omega : line.2 - 1 < e.line - 1), htake,
            List.getElem?_take_of_lt (by omega), hplace]
        · obtain ⟨rfl, -⟩ := hof.eq_cut hk
          have houtside := hremoval k hk
          obtain ⟨i, hi⟩ := List.mem_iff_getElem?.mp hthere
          refine mem_cut_iff.mpr ⟨i, hi, ?_⟩
          by_contra hin
          have hat : (numbered s)[i]? = some line := by
            rw [← List.getElem?_take_of_lt (by omega : i < k.last), ← hwhole k hk,
              List.getElem?_take_of_lt (by omega), hi]
          rw [getElem?_numbered] at hat
          obtain ⟨text, -, rfl⟩ := Option.map_eq_some_iff.mp hat
          rw [contains_iff.mpr ⟨by omega, by omega⟩] at houtside
          cases houtside

/-- Of the reports in front of the only one that disturbs a block, none does. -/
theorem not_disturbs_of_mem_front {front rest : List Problem} {p : Problem}
    (h : (schedule problems).1 = front ++ p :: rest) (hp : disturbs b p = true)
    (honly : problems.countP (disturbs b) = 1) : ∀ q ∈ front, disturbs b q = false := by
  have hsub : (chosen (treatments (keptOf problems) [] problems)).Sublist problems := by
    have hall := (List.filter_sublist
      (p := fun pt : Problem × Treatment => pt.2 == .scheduled)
      (l := treatments (keptOf problems) [] problems)).map Prod.fst
    rwa [map_fst_treatments] at hall
  have hcount : (chosen (treatments (keptOf problems) [] problems)).countP (disturbs b) ≤
      problems.countP (disturbs b) := hsub.countP_le
  rw [← (schedule_perm problems).countP_eq, h, honly, List.countP_append,
    List.countP_cons_of_pos hp] at hcount
  have hzero : front.countP (disturbs b) = 0 := by omega
  intro q hq
  simpa using List.countP_eq_zero.mp hzero q hq

/-- A report that removes no lines and does not disturb a block is about a line behind it, if it comes
in front of the report about the block. -/
theorem last_lt_of_not_disturbs {front rest : List Problem} {p q : Problem}
    (h : (schedule problems).1 = front ++ p :: rest) (hp : p.line = some b.first) (hq : q ∈ front)
    (hr : q.removal? = none) (hout : disturbs b q = false) : ∀ n ∈ q.line, b.last < n := by
  intro n hn
  have hpairwise := pairwise_schedule_lines problems
  rw [h] at hpairwise
  have hle := ((List.pairwise_append.mp hpairwise).2.2 q hq p List.mem_cons_self n hn).1 _ hp
  simp only [disturbs, hr, Option.mem_def.mp hn, Option.any_some] at hout
  by_contra hin
  rw [contains_iff.mpr ⟨hle, by omega⟩] at hout
  cases hout

section

variable {front rest : List Problem} {p : Problem} (h : (schedule problems).1 = front ++ p :: rest)
  (hnone : p.removal? = none) (hb : p.line = some b.first)
  (hquiet : ∀ q ∈ front, disturbs b q = false)

include h hb hquiet

theorem last_left {text : String} (hline : (text, b.last) ∈ numbered s) :
    (text, b.last) ∈ linesAfter (numbered s) front := by
  refine mem_linesAfter h hline fun q hq => ⟨fun k hk => ?_, fun hr =>
    last_lt_of_not_disturbs h hb hq hr (hquiet q hq)⟩
  have hout := hquiet q hq
  simpa only [disturbs, Option.mem_def.mp hk] using hout

include hnone

theorem first_left (hlt : b.first < b.last) {text : String}
    (hline : (text, b.first) ∈ numbered s) : (text, b.first) ∈ linesAfter (numbered s) front := by
  refine mem_linesAfter h hline fun q hq => ⟨fun (k : Span) hk => ?_, fun hr n hn =>
    hlt.trans (last_lt_of_not_disturbs h hb hq hr (hquiet q hq) n hn)⟩
  -- A removal around the line would have taken the report in.
  have hp : p ∈ (schedule problems).1 := by
    rw [h]
    exact List.mem_append_right _ List.mem_cons_self
  have hq : q ∈ (schedule problems).1 := by
    rw [h]
    exact List.mem_append_left _ hq
  have hout := outside_of_mem_schedule hp hnone hb (kept_of_mem_schedule hq hk)
  by_contra hin
  have hin : k.first ≤ b.first ∧ b.first ≤ k.last := contains_iff.mp (by simpa using hin)
  omega

end

/-- When no other report disturbs a block whose last line is a closing brace and nothing else, only
lines of the block go. -/
theorem deleted_within (h : st ∈ stepsOf s problems)
    (hkind : st.report.kind = .missingRequiredArgument) (hb : st.report.line = some b.first)
    (hlt : b.first < b.last)
    (hends : ∃ text ∈ s.lines[b.last - 1]?, Script.isBlockEnd text = true)
    (honly : problems.countP (disturbs b) = 1) : ∀ n ∈ deleted st, b.contains n = true := by
  refine (deleted_within_iff h hkind hb).mpr ?_
  obtain ⟨text, htext, hbare⟩ := hends
  obtain ⟨front, rest, htodo, hbefore, hof, -⟩ := exists_front_of_mem_steps h
  have hnone := removal?_eq_none (Or.inr hkind)
  have hquiet : ∀ q ∈ front, disturbs b q = false := by
    refine not_disturbs_of_mem_front htodo ?_ honly
    simp only [disturbs, hnone, hb, Option.any_some]
    exact contains_iff.mpr ⟨le_rfl, hlt.le⟩
  have hfirst : st.edit.line = b.first := by
    have hline := hof.line_eq
    rw [hb] at hline
    exact (Option.some.inj hline).symm
  have hpos := hof.line_pos
  have hsize := (List.getElem?_eq_some_iff.mp htext).1
  have hopening : (s.lines[b.first - 1], b.first) ∈ st.before := by
    rw [hbefore]
    exact first_left htodo hnone hb hquiet hlt
      (mem_numbered_iff.mpr ⟨by omega, List.getElem?_eq_getElem (by omega)⟩)
  have hlast : (text, b.last) ∈ st.before := by
    rw [hbefore]
    exact last_left htodo hb hquiet (mem_numbered_iff.mpr ⟨by omega, htext⟩)
  -- The first line is in its place, and the last one comes further down.
  have hdescends := descends_before h
  have hplace := hdescends.getElem?_of_mem (take_before h) hopening (by omega)
  obtain ⟨i, hi⟩ := List.mem_iff_getElem?.mp hlast
  have hbehind : b.first ≤ i := by
    rcases Nat.lt_trichotomy i (b.first - 1) with hless | rfl | hmore
    · have := hdescends.number_lt hi hplace hless
      omega
    · have hsame : b.last = b.first := congrArg Prod.snd (Option.some.inj (hi.symm.trans hplace))
      omega
    · omega
  refine ⟨(text, b.last), List.mem_iff_getElem?.mpr ⟨i - b.first, ?_⟩, hbare, le_rfl⟩
  rw [List.getElem?_drop, Nat.add_sub_cancel' hbehind, hi]

end

/-! ### The same report again -/

theorem blockEnd?_eq_none {s : Script} {n : Nat} :
    s.blockEnd? n = none ↔ ∀ text ∈ s.lines.drop n, Script.isBlockEnd text = false := by
  rw [Script.blockEnd?, Option.map_eq_none_iff, List.findIdx?_eq_none_iff]

/-- The fix for a block of expiry settings does nothing when it is made again just when no line
further down than the one behind it is a closing brace. -/
theorem fix?_again {p : Problem} {s t : Script} (hkind : p.kind = .missingRequiredArgument)
    (h : p.fix? s = some t) :
    ∃ k : Span, p.line = some k.first ∧ s.blockEnd? k.first = some k.last ∧
      t.lines = s.lines.take (k.first - 1) ++ s.lines.drop k.last ∧
      (p.fix? t = none ↔ ∀ text ∈ s.lines.drop (k.last + 1), Script.isBlockEnd text = false) := by
  have hfix := fix?_eq p (numbered s)
  rw [script_numbered, h] at hfix
  obtain ⟨e, hedit, ht⟩ := Option.map_eq_some_iff.mp hfix.symm
  have hspan : ∃ k, ttlSpan? p s = some k ∧ isWithin s k = true ∧ e = .cut k := by
    simp only [edit?, hkind] at hedit
    exact editOf_cut hedit
  obtain ⟨k, hspan, hin, rfl⟩ := hspan
  obtain ⟨hline, hend⟩ := line_of_ttlSpan? hspan
  have hlt := first_lt_last_of_ttlSpan? hspan
  obtain ⟨hfirst, hlast⟩ := isWithin_iff.mp hin
  rw [script_cut, script_numbered] at ht
  have hlines : t.lines = s.lines.take (k.first - 1) ++ s.lines.drop k.last := by rw [← ht]
  refine ⟨k, hline, hend, hlines, ?_⟩
  have hdrop : t.lines.drop k.first = s.lines.drop (k.last + 1) := by
    have hlength : (s.lines.take (k.first - 1)).length = k.first - 1 := by
      unfold Script.size at hlast
      rw [List.length_take]
      omega
    have hbehind : k.last + (k.first - (k.first - 1)) = k.last + 1 := by omega
    rw [hlines, List.drop_append, hlength, List.drop_eq_nil_of_le (by omega), List.nil_append,
      List.drop_drop, hbehind]
  have hagain : p.fix? t = none ↔ t.blockEnd? k.first = none := by
    have hspans : ttlSpan? p t = (t.blockEnd? k.first).map (Span.mk k.first) := by
      unfold ttlSpan? at hspan ⊢
      split_ifs at hspan ⊢
      rw [hline, Option.bind_some]
    have hfix := fix?_eq p (numbered t)
    rw [script_numbered] at hfix
    rw [hfix, Option.map_eq_none_iff]
    simp only [edit?, hkind, Option.map_eq_none_iff, hspans]
    rcases hend' : t.blockEnd? k.first with _ | last
    · simp
    · have hsize := (blockEnd?_eq_some hend').2
      have hwithin : isWithin t ⟨k.first, last⟩ = true := isWithin_iff.mpr ⟨hfirst, hsize⟩
      simp [Option.filter, hwithin]
  rw [hagain, blockEnd?_eq_none, hdrop]

/-! ### Rounds -/

/-- Only lines of the block that opens on the reported line go. -/
def StaysInBlock (s : Script) (st : Step) : Prop :=
  ∃ b, TtlBlock s b ∧ st.report.line = some b.first ∧ ∀ n ∈ deleted st, b.contains n = true

/-- What a fix for a block of expiry settings does in a round. -/
structure TtlFix (s : Script) (problems : List Problem) (st : Step) : Prop where
  made : st.report.fix? (script st.before) = some (script (st.edit.apply st.before))
  /-- A line of the block that closes a block must be left, behind the line in the reported place. -/
  stays_iff : StaysInBlock s st ↔ ∃ b, TtlBlock s b ∧ st.report.line = some b.first ∧
    ∃ line ∈ st.before.drop b.first, Script.isBlockEnd line.1 = true ∧ line.2 ≤ b.last
  /-- That is so for a block that no other report disturbs. -/
  undisturbed : ∀ b, TtlBlock s b → st.report.line = some b.first → b.first < b.last →
    (∃ text ∈ s.lines[b.last - 1]?, Script.isBlockEnd text = true) →
    problems.countP (disturbs b) = 1 → StaysInBlock s st

theorem ttlFix_of_mem_stepsOf {s : Script} {problems : List Problem} {st : Step}
    (h : st ∈ stepsOf s problems) (hkind : st.report.kind = .missingRequiredArgument) :
    TtlFix s problems st where
  made := by
    obtain ⟨k, hedit, hspan, hfirst, hlast⟩ := exists_ttlSpan h hkind
    have hin : isWithin (script st.before) k = true :=
      isWithin_iff.mpr ⟨hfirst, by rw [size_script]; exact hlast⟩
    have hmade : edit? st.report (script st.before) = some st.edit := by
      simp only [edit?, hkind, hspan, Option.filter, hin, hedit]
      rfl
    rw [fix?_eq, hmade, Option.map_some]
  stays_iff := by
    constructor
    · rintro ⟨b, hblock, hline, hall⟩
      exact ⟨b, hblock, hline, (deleted_within_iff h hkind hline).mp hall⟩
    · rintro ⟨b, hblock, hline, hleft⟩
      exact ⟨b, hblock, hline, (deleted_within_iff h hkind hline).mpr hleft⟩
  undisturbed := fun b hblock hline hlt hends honly =>
    ⟨b, hblock, hline, deleted_within h hkind hline hlt hends honly⟩

/-- The fixes of a round are made one after the other. One for a block of expiry settings takes only
lines of the block just when a line of it that closes a block is left when the fix is due, which is so
when no other report disturbs the block. The same fix again does nothing just when no line further
down than the one behind the lines taken is a closing brace. -/
theorem ttl_fixes (s : Script) (problems : List Problem) :
    Repair.fixEach s (schedule problems).1 =
        (script (leftOf s problems), (stepsOf s problems).length) ∧
      (∀ st ∈ stepsOf s problems, st.report.kind = .missingRequiredArgument →
        TtlFix s problems st) ∧
      ∀ (p : Problem) (t : Script), p.kind = .missingRequiredArgument → p.fix? s = some t →
        ∃ k : Span, p.line = some k.first ∧ s.blockEnd? k.first = some k.last ∧
          t.lines = s.lines.take (k.first - 1) ++ s.lines.drop k.last ∧
          (p.fix? t = none ↔
            ∀ text ∈ s.lines.drop (k.last + 1), Script.isBlockEnd text = false) :=
  ⟨fixEach_schedule s problems, fun _ h hkind => ttlFix_of_mem_stepsOf h hkind,
    fun _ _ hkind hfix => fix?_again hkind hfix⟩

/-! ### A report that comes twice -/

def table : Script :=
  ⟨["resource \"aws_dynamodb_table\" \"T\" \x7b", "  ttl \x7b", "    enabled = false", "  \x7d",
    "  hash_key = \"id\"", "\x7d"]⟩

def lacksName : Problem :=
  ((Problem.error "Missing required argument" "").inLines "main.tf" 2 2).about
    (some "resource \"aws_dynamodb_table\" \"T\"") "  ttl \x7b"

theorem ttlBlock_table : TtlBlock table ⟨2, 4⟩ where
  first_pos := by decide
  last_le := by decide
  first_le := by decide
  opens := ⟨_, rfl, by decide⟩
  code := by decide
  marker := by decide
  inside := by decide
  closes := by decide

theorem eq_of_ttlBlock_table {b : Span} (hb : TtlBlock table b) : b = ⟨2, 4⟩ := by
  refine hb.unique ttlBlock_table ?_
  obtain ⟨text, htext, hopens⟩ := hb.opens
  have hpos := hb.first_pos
  have hle : b.first ≤ 6 := hb.first_le.trans hb.last_le
  have hall : ∀ n ≤ 6, 1 ≤ n → ∀ text ∈ table.lines[n - 1]?,
      Problem.opensTtl text = true → n = 2 := by decide
  exact hall b.first hle hpos text htext hopens

/-- A report about the block that comes once takes the block and nothing else. -/
theorem ttl_fixes_once :
    ∃ st ∈ stepsOf table [lacksName], StaysInBlock table st ∧ deleted st = [2, 3, 4] := by
  have hsteps : stepsOf table [lacksName] = [⟨lacksName, numbered table, .cut ⟨2, 4⟩⟩] := by
    rw [stepsOf, schedule_singleton]
    rfl
  refine ⟨_, by rw [hsteps]; exact List.mem_cons_self, ?_, by decide⟩
  refine ((ttl_fixes table [lacksName]).2.1 _ (by rw [hsteps]; exact List.mem_cons_self)
    (by decide)).undisturbed ⟨2, 4⟩ ttlBlock_table rfl (by decide) ⟨_, rfl, by decide⟩ (by decide)

theorem schedule_twice : (schedule [lacksName, lacksName]).1 = [lacksName, lacksName] := by
  have hkept : keptOf [lacksName, lacksName] = [] := by
    have hremovals : removals [lacksName, lacksName] = [] := by decide
    rw [keptOf, hremovals, Span.keep, List.mergeSort_nil]
    rfl
  have hchosen : chosen (treatments (keptOf [lacksName, lacksName]) [] [lacksName, lacksName]) =
      List.replicate 2 lacksName := by
    rw [hkept]
    rfl
  have hperm := schedule_perm [lacksName, lacksName]
  rw [hchosen] at hperm
  exact List.perm_replicate.mp hperm

/-- A second report about the block takes the end of the resource, in the same round and in the
next. -/
theorem second_report_takes_more :
    ¬ (∀ st ∈ stepsOf table [lacksName, lacksName], st.report.kind = .missingRequiredArgument →
      ∀ n ∈ deleted st, ∃ b, TtlBlock table b ∧ b.contains n = true) ∧
    ((lacksName.fix? table).bind lacksName.fix?).map Script.size = some 1 := by
  refine ⟨fun hall => ?_, by decide⟩
  have hsteps : stepsOf table [lacksName, lacksName] =
      [⟨lacksName, numbered table, .cut ⟨2, 4⟩⟩,
        ⟨lacksName, (Edit.cut ⟨2, 4⟩).apply (numbered table), .cut ⟨2, 3⟩⟩] := by
    rw [stepsOf, schedule_twice]
    rfl
  rw [hsteps] at hall
  obtain ⟨b, hb, hin⟩ := hall _ (List.mem_cons_of_mem _ List.mem_cons_self) (by decide) 6 (by decide)
  rw [eq_of_ttlBlock_table hb] at hin
  cases hin

end StackExport.Proofs.ExpiryBlocks
