import Mathlib
import StackExport.Proofs.RepairIndependence
/-!
Fixes as edits of numbered lines.

A fix cuts some lines out or puts a new text in the place of one.
-/
namespace StackExport.Proofs.RepairEdits

open StackExport
open StackExport.Proofs.RepairSchedule
open StackExport.Proofs.RepairRound
open StackExport.Proofs.RepairIndependence

/-! ### Edits -/

/-- What a fix does to the lines of a script. -/
inductive Edit where
  /-- Takes the lines of a span away. -/
  | cut (span : Span)
  /-- Puts a text in the place of the line with a number. -/
  | put (line : Nat) (text : String)
deriving DecidableEq, Repr

/-- Lines with the numbers that they have in the document of the reports. -/
abbrev Numbered := List (String × Nat)

def numbered (s : Script) : Numbered := s.lines.zipIdx 1

def script (lines : Numbered) : Script := ⟨lines.map Prod.fst⟩

def Edit.apply (e : Edit) (lines : Numbered) : Numbered :=
  match e with
  | .cut k => lines.take (k.first - 1) ++ lines.drop k.last
  | .put line text => lines.modify (line - 1) fun old => (text, old.2)

def isWithin (s : Script) (k : Span) : Bool := decide (1 ≤ k.first ∧ k.last ≤ s.size)

/-- The lines of a block of expiry settings, as the fix for it takes them. -/
def ttlSpan? (p : Problem) (s : Script) : Option Span :=
  if p.resourceType? = some Problem.tableType ∧ p.snippet.any (Problem.opensTtl ·.code) then
    p.line.bind fun first => (s.blockEnd? first).map (Span.mk first)
  else none

def quoteEdit? (p : Problem) (s : Script) : Option Edit := do
  let line ← p.line
  let text ← (s.get line).toOption
  let bareword ← Bareword.ofLine text
  return .put line bareword.quoted

def edit? (p : Problem) (s : Script) : Option Edit :=
  match p.kind with
  | .missingAttributeSeparator => quoteEdit? p s
  | .unconfigurableAttribute | .invalidOrUnknownKey =>
    (p.removal?.filter (isWithin s)).map .cut
  | .missingRequiredArgument => ((ttlSpan? p s).filter (isWithin s)).map .cut
  | .unrecognized => none

theorem script_numbered (s : Script) : script (numbered s) = s := by
  simp [script, numbered]

theorem size_script (lines : Numbered) : (script lines).size = lines.length := by
  simp [script, Script.size]

theorem isWithin_iff {s : Script} {k : Span} :
    isWithin s k = true ↔ 1 ≤ k.first ∧ k.last ≤ s.size := by
  simp [isWithin]

theorem script_cut (k : Span) (lines : Numbered) :
    script ((Edit.cut k).apply lines) =
      ⟨(script lines).lines.take (k.first - 1) ++ (script lines).lines.drop k.last⟩ := by
  simp [script, Edit.apply, List.map_take, List.map_drop]

theorem script_put (line : Nat) (text : String) (lines : Numbered) :
    script ((Edit.put line text).apply lines) = ⟨(script lines).lines.set (line - 1) text⟩ := by
  simp only [script, Edit.apply, Script.mk.injEq]
  refine List.ext_getElem? fun i => ?_
  rw [List.getElem?_map, List.getElem?_modify, List.getElem?_set, List.getElem?_map]
  by_cases hi : line - 1 = i
  · subst hi
    rcases hline : lines[line - 1]? with _ | old
    · have := List.getElem?_eq_none_iff.mp hline
      simp [this]
    · have := (List.getElem?_eq_some_iff.mp hline).1
      simp [this]
  · rcases lines[i]? <;> simp [hi]

theorem removeLines_toOption {s : Script} {k : Span} (hle : k.first ≤ k.last) :
    (s.removeLines k.first k.last).toOption =
      if isWithin s k then some ⟨s.lines.take (k.first - 1) ++ s.lines.drop k.last⟩ else none := by
  split_ifs with hin
  · obtain ⟨hfirst, hlast⟩ := isWithin_iff.mp hin
    rw [removeLines_ok hfirst hle hlast]
    rfl
  · by_contra hne
    obtain ⟨t, ht⟩ := Option.ne_none_iff_exists'.mp hne
    obtain ⟨hfirst, -, hlast, -⟩ := removeLines_eq_ok (eq_ok_of_toOption ht)
    exact hin (isWithin_iff.mpr ⟨hfirst, hlast⟩)

theorem first_lt_last_of_ttlSpan? {p : Problem} {s : Script} {k : Span}
    (h : ttlSpan? p s = some k) : k.first < k.last := by
  unfold ttlSpan? at h
  split_ifs at h
  obtain ⟨first, -, h⟩ := Option.bind_eq_some_iff.mp h
  obtain ⟨last, hlast, rfl⟩ := Option.map_eq_some_iff.mp h
  exact (blockEnd?_eq_some hlast).1

/-- Cutting a span is possible just when the script holds it. -/
theorem map_cut {span? : Option Span} {lines : Numbered}
    (hle : ∀ k ∈ span?, k.first ≤ k.last) :
    ((span?.filter (isWithin (script lines))).map Edit.cut).map
        (fun e => script (e.apply lines)) =
      span?.bind fun k => ((script lines).removeLines k.first k.last).toOption := by
  rcases span? with _ | k
  · rfl
  · rw [Option.bind_some, removeLines_toOption (hle k rfl), Option.filter]
    split_ifs
    · exact congrArg some (script_cut k lines)
    · rfl

theorem removeReported_eq (p : Problem) (s : Script)
    (hkind : p.kind = .unconfigurableAttribute ∨ p.kind = .invalidOrUnknownKey) :
    p.removeReported s = p.removal?.bind fun k => (s.removeLines k.first k.last).toOption := by
  rcases hremoval : p.removal? with _ | k
  · exact removeReported_of_no_removal hremoval hkind
  · rw [removal?_of_kind hkind] at hremoval
    obtain ⟨r, hr, hspan⟩ := Option.bind_eq_some_iff.mp hremoval
    split_ifs at hspan
    cases hspan
    rw [Problem.removeReported, hr]
    rfl

theorem removeTtl_eq (p : Problem) (s : Script)
    (htable : p.resourceType? = some Problem.tableType) :
    p.removeTtl s = (ttlSpan? p s).bind fun k => (s.removeLines k.first k.last).toOption := by
  unfold Problem.removeTtl ttlSpan?
  rcases p.snippet with _ | snippet
  · simp
  · by_cases hopens : Problem.opensTtl snippet.code = true
    · rw [if_pos ⟨htable, by simpa using hopens⟩]
      rcases p.line with _ | first
      · simp
      · rcases hend : s.blockEnd? first with _ | last <;> simp [hopens, hend]
    · rw [if_neg (by simp [hopens])]
      simp [hopens]

theorem quoteToken_eq (p : Problem) (lines : Numbered) :
    p.quoteToken (script lines) =
      (quoteEdit? p (script lines)).map fun e => script (e.apply lines) := by
  unfold Problem.quoteToken quoteEdit?
  rcases p.line with _ | line
  · rfl
  · by_cases hline : line = 0 ∨ (script lines).size < line
    · have hcheck : (script lines).checkLine line =
          .error (.lineOutOfRange line (script lines).size) := if_pos hline
      have hget : ((script lines).get line).toOption = none := by
        rw [Script.get, hcheck]
        rfl
      simp [hget]
    · have hcheck : (script lines).checkLine line = .ok () := if_neg hline
      have hset (text : String) : ((script lines).set line text).toOption =
          some ⟨(script lines).lines.set (line - 1) text⟩ := by
        rw [Script.set, hcheck]
        rfl
      simp [hset, script_put, Option.map_bind]

/-- A fix is its edit. -/
theorem fix?_eq (p : Problem) (lines : Numbered) :
    p.fix? (script lines) =
      (edit? p (script lines)).map fun e => script (e.apply lines) := by
  cases hkind : p.kind with
  | missingAttributeSeparator =>
      simp only [Problem.fix?, edit?, hkind]
      exact quoteToken_eq p lines
  | unconfigurableAttribute =>
      simp only [Problem.fix?, edit?, hkind]
      rw [removeReported_eq p _ (Or.inl hkind), map_cut fun _ hk => first_le_last hk]
  | invalidOrUnknownKey =>
      simp only [Problem.fix?, edit?, hkind]
      rw [removeReported_eq p _ (Or.inr hkind), map_cut fun _ hk => first_le_last hk]
  | missingRequiredArgument =>
      simp only [Problem.fix?, edit?, hkind]
      by_cases htable : p.resourceType? = some Problem.tableType
      · rw [if_pos (beq_iff_eq.mpr htable), removeTtl_eq p _ htable,
          map_cut fun _ hk => (first_lt_last_of_ttlSpan? hk).le]
      · rw [if_neg (by simpa using htable), ttlSpan?, if_neg fun h => htable h.1]
        rfl
  | unrecognized => simp only [Problem.fix?, edit?, hkind, Option.map_none]

/-! ### What an edit needs and leaves alone -/

/-- The line that an edit begins with. -/
def Edit.line : Edit → Nat
  | .cut k => k.first
  | .put line _ => line

def Edit.Covers (e : Edit) (n : Nat) : Prop :=
  match e with
  | .cut k => k.first ≤ n ∧ n ≤ k.last
  | .put line _ => n = line

/-- The ways in which a report brings an edit about. -/
inductive EditOf (p : Problem) (s : Script) : Edit → Prop
  | removal {k : Span} (h : p.removal? = some k) (hin : isWithin s k = true) : EditOf p s (.cut k)
  | ttl {k : Span} (hkind : p.kind = .missingRequiredArgument) (h : ttlSpan? p s = some k)
      (hin : isWithin s k = true) : EditOf p s (.cut k)
  | quote {line : Nat} {text : String} {b : Bareword} (hkind : p.kind = .missingAttributeSeparator)
      (hline : p.line = some line) (hpos : 1 ≤ line) (htext : s.lines[line - 1]? = some text)
      (hword : Bareword.ofLine text = some b) : EditOf p s (.put line b.quoted)

theorem get_eq_some {s : Script} {line : Nat} {text : String}
    (h : (s.get line).toOption = some text) : 1 ≤ line ∧ s.lines[line - 1]? = some text := by
  by_cases hline : line = 0 ∨ s.size < line
  · have hcheck : s.checkLine line = .error (.lineOutOfRange line s.size) := if_pos hline
    rw [Script.get, hcheck] at h
    cases h
  · have hcheck : s.checkLine line = .ok () := if_neg hline
    rw [Script.get, hcheck] at h
    obtain rfl : s.lines.getD (line - 1) "" = text := Option.some.inj h
    have hlt : line - 1 < s.lines.length := by
      unfold Script.size at hline
      omega
    exact ⟨by omega, by rw [List.getD_eq_getElem?_getD, List.getElem?_eq_getElem hlt]; rfl⟩

theorem editOf_cut {span? : Option Span} {s : Script} {e : Edit}
    (h : (span?.filter (isWithin s)).map Edit.cut = some e) :
    ∃ k, span? = some k ∧ isWithin s k = true ∧ e = .cut k := by
  obtain ⟨k, hk, rfl⟩ := Option.map_eq_some_iff.mp h
  obtain ⟨hspan, hin⟩ := Option.filter_eq_some_iff.mp hk
  exact ⟨k, hspan, hin, rfl⟩

theorem editOf_of_edit? {p : Problem} {s : Script} {e : Edit} (h : edit? p s = some e) :
    EditOf p s e := by
  unfold edit? at h
  split at h
  · next hkind =>
      obtain ⟨line, hline, h⟩ := Option.bind_eq_some_iff.mp h
      obtain ⟨text, htext, h⟩ := Option.bind_eq_some_iff.mp h
      obtain ⟨b, hword, h⟩ := Option.bind_eq_some_iff.mp h
      cases h
      obtain ⟨hpos, htext⟩ := get_eq_some htext
      exact .quote hkind hline hpos htext hword
  · obtain ⟨k, hk, hin, rfl⟩ := editOf_cut h
    exact .removal hk hin
  · obtain ⟨k, hk, hin, rfl⟩ := editOf_cut h
    exact .removal hk hin
  · next hkind =>
      obtain ⟨k, hk, hin, rfl⟩ := editOf_cut h
      exact .ttl hkind hk hin
  · cases h

theorem edit?_of_removal {p : Problem} {k : Span} (hk : p.removal? = some k) (s : Script) :
    edit? p s = if isWithin s k then some (.cut k) else none := by
  have hcut : edit? p s = (p.removal?.filter (isWithin s)).map .cut := by
    unfold edit?
    rcases kind_of_removal? hk with hkind | hkind <;> rw [hkind]
  rw [hcut, hk, Option.filter]
  split_ifs <;> rfl

theorem removal?_eq_none {p : Problem}
    (hkind : p.kind = .missingAttributeSeparator ∨ p.kind = .missingRequiredArgument) :
    p.removal? = none := by
  rcases hk : p.removal? with _ | k
  · rfl
  · rcases kind_of_removal? hk with h | h <;> rcases hkind with hkind | hkind <;>
      rw [hkind] at h <;> cases h

theorem EditOf.eq_cut {p : Problem} {s : Script} {e : Edit} (h : EditOf p s e) {k : Span}
    (hk : p.removal? = some k) : e = .cut k ∧ isWithin s k = true := by
  cases h with
  | removal h hin =>
      rw [hk] at h
      cases h
      exact ⟨rfl, hin⟩
  | ttl hkind _ _ => rw [removal?_eq_none (Or.inr hkind)] at hk; cases hk
  | quote hkind _ _ _ _ => rw [removal?_eq_none (Or.inl hkind)] at hk; cases hk

theorem line_of_ttlSpan? {p : Problem} {s : Script} {k : Span} (h : ttlSpan? p s = some k) :
    p.line = some k.first ∧ s.blockEnd? k.first = some k.last := by
  unfold ttlSpan? at h
  split_ifs at h
  obtain ⟨first, hline, h⟩ := Option.bind_eq_some_iff.mp h
  obtain ⟨last, hlast, rfl⟩ := Option.map_eq_some_iff.mp h
  exact ⟨hline, hlast⟩

section

variable {p : Problem} {s : Script} {e : Edit} {lines : Numbered}

theorem EditOf.line_eq (h : EditOf p s e) : p.line = some e.line := by
  cases h with
  | removal h _ => exact line_of_removal? h
  | ttl _ h _ => exact (line_of_ttlSpan? h).1
  | quote _ hline _ _ _ => exact hline

theorem EditOf.line_pos (h : EditOf p s e) : 1 ≤ e.line := by
  cases h with
  | removal _ hin => exact (isWithin_iff.mp hin).1
  | ttl _ _ hin => exact (isWithin_iff.mp hin).1
  | quote _ _ hpos _ _ => exact hpos

theorem EditOf.line_le_size (h : EditOf p s e) : e.line ≤ s.size := by
  cases h with
  | removal h hin => exact (first_le_last h).trans (isWithin_iff.mp hin).2
  | ttl _ h hin => exact (first_lt_last_of_ttlSpan? h).le.trans (isWithin_iff.mp hin).2
  | quote _ _ hpos htext _ =>
      have hlt := (List.getElem?_eq_some_iff.mp htext).1
      simp only [Edit.line, Script.size]
      omega

theorem map_snd_put (line : Nat) (text : String) (lines : Numbered) :
    ((Edit.put line text).apply lines).map Prod.snd = lines.map Prod.snd := by
  refine List.ext_getElem? fun i => ?_
  rw [Edit.apply, List.getElem?_map, List.getElem?_modify, List.getElem?_map]
  split_ifs <;> rcases lines[i]? <;> rfl

theorem mem_put {line : Nat} {text : String} {entry : String × Nat}
    (h : entry ∈ (Edit.put line text).apply lines) :
    entry ∈ lines ∨ ∃ old, lines[line - 1]? = some old ∧ entry = (text, old.2) := by
  obtain ⟨i, hi⟩ := List.mem_iff_getElem?.mp h
  rw [Edit.apply, List.getElem?_modify] at hi
  split_ifs at hi with hline
  · obtain ⟨old, hold, rfl⟩ := Option.map_eq_some_iff.mp hi
    exact Or.inr ⟨old, hline ▸ hold, rfl⟩
  · obtain ⟨old, hold, rfl⟩ := Option.map_eq_some_iff.mp hi
    exact Or.inl (List.mem_of_getElem? hold)

theorem sublist_cut {k : Span} (hle : k.first ≤ k.last) (lines : Numbered) :
    ((Edit.cut k).apply lines).Sublist lines := by
  have hsub : (lines.drop k.last).Sublist (lines.drop (k.first - 1)) :=
    List.drop_sublist_drop_left lines (by omega)
  have hall := (List.Sublist.refl (lines.take (k.first - 1))).append hsub
  rwa [List.take_append_drop] at hall

/-- What stands above the line of an edit stays as it is. -/
theorem EditOf.take_apply (h : EditOf p (script lines) e) {m : Nat} (hm : m < e.line) :
    (e.apply lines).take m = lines.take m := by
  have hsize := h.line_le_size
  rw [size_script] at hsize
  cases e with
  | cut k =>
      have hm : m < k.first := hm
      have hsize : k.first ≤ lines.length := hsize
      rw [Edit.apply, List.take_append_of_le_length (by rw [List.length_take]; omega),
        List.take_take, Nat.min_eq_left (by omega)]
  | put line text =>
      have hm : m < line := hm
      refine List.ext_getElem? fun i => ?_
      rw [Edit.apply, List.getElem?_take, List.getElem?_take, List.getElem?_modify]
      split_ifs with hi hline
      · omega
      · rcases lines[i]? <;> rfl
      · rfl

end

/-! ### Quotes -/

def quotes (text : List Char) : Nat := text.count '"'

theorem quotes_append (a b : List Char) : quotes (a ++ b) = quotes a + quotes b :=
  List.count_append

theorem quotes_dropWhile_blank (text : List Char) :
    quotes (text.dropWhile Text.isBlank) = quotes text := by
  induction text with
  | nil => rfl
  | cons c rest ih =>
      by_cases hc : Text.isBlank c = true
      · have hne : c ≠ '"' := by
          rintro rfl
          revert hc
          decide
        rw [List.dropWhile_cons_of_pos hc, ih]
        exact (List.count_cons_of_ne hne).symm
      · rw [List.dropWhile_cons_of_neg hc]

theorem quotes_trim (text : List Char) :
    quotes (Text.trim (String.ofList text)).toList = quotes text := by
  have hreverse (l : List Char) : quotes l.reverse = quotes l := List.count_reverse
  rw [Text.trim, Text.trimWhere, String.toList_ofList, String.toList_ofList, hreverse,
    quotes_dropWhile_blank, hreverse, quotes_dropWhile_blank]

theorem eq_of_ofLength {cs token rest : List Char} {length : Nat}
    (h : Bareword.ofLength cs length = some (token, rest)) : token ++ rest = cs := by
  unfold Bareword.ofLength at h
  split at h
  · split_ifs at h
    cases h
    exact List.take_append_drop length cs
  · cases h

theorem quotes_of_ofLine {line : String} {b : Bareword} (h : Bareword.ofLine line = some b) :
    quotes line.toList = quotes b.indent + quotes b.token + quotes b.rest := by
  obtain ⟨width, -, h⟩ := List.exists_of_findSome?_eq_some h
  obtain ⟨⟨token, rest⟩, hfound, rfl⟩ := Option.map_eq_some_iff.mp h
  obtain ⟨n, -, hlength⟩ := List.exists_of_findSome?_eq_some hfound
  have hbehind := eq_of_ofLength hlength
  rw [quotes_dropWhile_blank, Nat.add_assoc, ← quotes_append, hbehind, ← quotes_append,
    List.take_append_drop]

/-- A token that is put in quotes brings two quotes into its line. -/
theorem quotes_quoted {line : String} {b : Bareword} (h : Bareword.ofLine line = some b) :
    quotes b.quoted.toList = quotes line.toList + 2 := by
  have hparts : b.quoted.toList = b.indent ++ ['"'] ++
      (Text.trim (String.ofList b.token)).toList ++ ['"', ' '] ++ b.rest := by
    simp [Bareword.quoted]
  have hopen : quotes ['"'] = 1 := rfl
  have hclose : quotes ['"', ' '] = 1 := rfl
  rw [hparts, quotes_append, quotes_append, quotes_append, quotes_append, quotes_trim, hopen,
    hclose, quotes_of_ofLine h]
  omega

def allQuotes (lines : Numbered) : Nat := quotes ((script lines).lines.flatMap String.toList)

/-- An edit makes the lines fewer, or it brings quotes. -/
theorem EditOf.shrinks_or_quotes {p : Problem} {lines : Numbered} {e : Edit}
    (h : EditOf p (script lines) e) :
    (e.apply lines).length < lines.length ∨
      (e.apply lines).length = lines.length ∧ allQuotes (e.apply lines) = allQuotes lines + 2 := by
  have hcut {k : Span} (hle : k.first ≤ k.last) (hin : isWithin (script lines) k = true) :
      ((Edit.cut k).apply lines).length < lines.length := by
    obtain ⟨hfirst, hlast⟩ := isWithin_iff.mp hin
    rw [size_script] at hlast
    rw [Edit.apply, List.length_append, List.length_take, List.length_drop]
    omega
  cases h with
  | removal hk hin => exact Or.inl (hcut (first_le_last hk) hin)
  | ttl _ hk hin => exact Or.inl (hcut (first_lt_last_of_ttlSpan? hk).le hin)
  | @quote line text b _ _ _ htext hword =>
      refine Or.inr ⟨List.length_modify _ _ _, ?_⟩
      obtain ⟨hlt, hat⟩ := List.getElem?_eq_some_iff.mp htext
      have hsplit : (script lines).lines.take (line - 1) ++
          text :: (script lines).lines.drop (line - 1 + 1) = (script lines).lines := by
        rw [← hat, List.getElem_cons_drop, List.take_append_drop]
      have hset := List.set_eq_take_append_cons_drop (l := (script lines).lines) (i := line - 1)
        (a := b.quoted)
      rw [allQuotes, script_put, hset, if_pos hlt, allQuotes]
      conv_rhs => rw [← hsplit]
      simp only [List.flatMap_append, List.flatMap_cons, quotes_append, quotes_quoted hword]
      omega

end StackExport.Proofs.RepairEdits
