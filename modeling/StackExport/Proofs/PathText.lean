import StackExport.Proofs.PathPattern
/-!
The text of a path.

The dotted form of a path is read back exactly when all of its segments are plain. Behind the first
one a segment may stand in brackets instead, which hold dots and opening brackets as well: a path
written in any mixture of the two notations is read as it was meant.
-/
namespace StackExport.Proofs.PathText

open StackExport
open StackExport.Path
open StackExport.Proofs.PathPattern

variable {segment first : String} {segments others : List String} {cs rest : List Char}

/-! ### Runs of characters -/

theorem putSegment_reverse (h : cs ≠ []) (segments : List String) :
    putSegment cs.reverse segments = String.ofList cs :: segments := by
  simp [putSegment, h]

theorem scan_append (hdot : '.' ∉ cs) (hbracket : '[' ∉ cs) (taken rest : List Char) :
    scan false taken (cs ++ rest) = scan false (cs.reverse ++ taken) rest := by
  induction cs generalizing taken with
  | nil => rfl
  | cons c cs ih =>
      obtain ⟨hc, hdot⟩ := not_or.1 (mt List.mem_cons.2 hdot)
      obtain ⟨hc', hbracket⟩ := not_or.1 (mt List.mem_cons.2 hbracket)
      rw [List.cons_append, scan, ih hdot hbracket, List.reverse_cons, List.append_assoc]
      · rfl
      · exact Ne.symm hc
      · exact Ne.symm hc'

theorem scan_plain (h : IsPlain segment) (rest : List Char) :
    scan false [] (segment.toList ++ rest) = scan false segment.toList.reverse rest := by
  rw [scan_append h.no_dot h.no_bracket, List.append_nil]

theorem scan_inside (h : ']' ∉ cs) (taken rest : List Char) :
    scan true taken (cs ++ ']' :: rest) =
      putSegment (trimQuotes (cs.reverse ++ taken)) (scan false [] rest) := by
  induction cs generalizing taken with
  | nil => rfl
  | cons c cs ih =>
      obtain ⟨hc, hcs⟩ := not_or.1 (mt List.mem_cons.2 h)
      rw [List.cons_append, scan, ih hcs, List.reverse_cons, List.append_assoc]
      · rfl
      · exact Ne.symm hc

/-! ### Quotes in brackets -/

/-- A character that may stand around a name in brackets. -/
abbrev Quote := { c : Char // isQuote c = true }

theorem dropWhile_quotes (run : List Quote) (h : ∀ c ∈ cs.head?, isQuote c = false) :
    (run.map Subtype.val ++ cs).dropWhile isQuote = cs := by
  have hrun : ∀ c ∈ run.map Subtype.val, isQuote c = true := by
    simp +contextual
  rw [List.dropWhile_append_of_pos hrun]
  cases cs with
  | nil => rfl
  | cons c cs => rw [List.dropWhile_cons_of_neg (by simp [h c rfl])]

theorem trimQuotes_quoted (front back : List Quote) (hne : cs ≠ [])
    (hhead : ∀ c ∈ cs.head?, isQuote c = false) (hlast : ∀ c ∈ cs.getLast?, isQuote c = false) :
    trimQuotes (front.map Subtype.val ++ (cs ++ back.map Subtype.val)) = cs := by
  have hfront : (front.map Subtype.val ++ (cs ++ back.map Subtype.val)).dropWhile isQuote =
      cs ++ back.map Subtype.val := by
    apply dropWhile_quotes
    rwa [List.head?_append_of_ne_nil _ hne]
  have hback : (back.reverse.map Subtype.val ++ cs.reverse).dropWhile isQuote = cs.reverse := by
    apply dropWhile_quotes
    rwa [List.head?_reverse]
  rw [trimQuotes, hfront, List.reverse_append, ← List.map_reverse, hback, List.reverse_reverse]

/-- A segment that brackets can hold. -/
structure IsBracketable (segment : String) : Prop where
  ne_empty : segment.toList ≠ []
  no_closing : ']' ∉ segment.toList
  no_quote_first : ∀ c ∈ segment.toList.head?, isQuote c = false
  no_quote_last : ∀ c ∈ segment.toList.getLast?, isQuote c = false

/-! ### Both notations -/

/-- How a segment behind the first one is written. -/
inductive Form where
  /-- Behind a dot. -/
  | dotted
  /-- In brackets, between quotes or between none. -/
  | bracketed (front back : List Quote)

/-- A segment in one of the two notations. -/
def Form.text : Form → String → List Char
  | .dotted, segment => '.' :: segment.toList
  | .bracketed front back, segment =>
    '[' :: (front.map Subtype.val ++ (segment.toList ++ back.map Subtype.val) ++ [']'])

def Form.Fits : Form → String → Prop
  | .dotted, segment => IsPlain segment
  | .bracketed _ _, segment => IsBracketable segment

/-- A path with a notation for each of its segments but the first. -/
structure Writing where
  first : String
  others : List (Form × String)

namespace Writing

def path (w : Writing) : Path := ⟨w.first :: w.others.map Prod.snd⟩

def text (w : Writing) : String :=
  String.ofList (w.first.toList ++ w.others.flatMap fun (form, segment) => form.text segment)

/-- Each segment is one that its notation is for. -/
structure IsReadable (w : Writing) : Prop where
  first : IsPlain w.first
  others : ∀ other ∈ w.others, other.1.Fits other.2

end Writing

/-- What stands behind a segment is read as further segments, whatever that segment is. -/
def Continues (rest : List Char) (segments : List String) : Prop :=
  ∀ taken, scan false taken rest = putSegment taken segments

theorem continues_nil : Continues [] [] :=
  fun _ => rfl

theorem Continues.scan_first (h : Continues rest segments) (hs : IsPlain segment) :
    scan false [] (segment.toList ++ rest) = segment :: segments := by
  rw [scan_plain hs, h, putSegment_reverse hs.ne_empty, String.ofList_toList]

theorem Continues.dotted (h : Continues rest segments) (hs : IsPlain segment) :
    Continues ('.' :: (segment.toList ++ rest)) (segment :: segments) := by
  intro taken
  rw [scan, h.scan_first hs]

theorem Continues.bracketed (h : Continues rest segments) (hs : IsBracketable segment)
    (front back : List Quote) :
    Continues
      ('[' :: (front.map Subtype.val ++ (segment.toList ++ back.map Subtype.val) ++ ']' :: rest))
      (segment :: segments) := by
  intro taken
  have hquote (run : List Quote) : ']' ∉ run.map Subtype.val := by
    intro hmem
    obtain ⟨⟨c, hc⟩, -, rfl⟩ := List.mem_map.1 hmem
    exact absurd hc (by decide)
  have hinside : ']' ∉ front.map Subtype.val ++ (segment.toList ++ back.map Subtype.val) := by
    simp only [List.mem_append, not_or]
    exact ⟨hquote front, hs.no_closing, hquote back⟩
  have htrim : trimQuotes (back.reverse.map Subtype.val ++
      (segment.toList.reverse ++ front.reverse.map Subtype.val)) = segment.toList.reverse :=
    trimQuotes_quoted back.reverse front.reverse (by simpa using hs.ne_empty)
      (by simpa using hs.no_quote_last) (by simpa using hs.no_quote_first)
  rw [scan, scan_inside hinside, h]
  simp only [List.reverse_append, List.append_nil, List.append_assoc, ← List.map_reverse]
  rw [htrim, putSegment_reverse hs.ne_empty, String.ofList_toList]
  rfl

theorem continues_others {others : List (Form × String)}
    (h : ∀ other ∈ others, other.1.Fits other.2) :
    Continues (others.flatMap fun (form, segment) => form.text segment)
      (others.map Prod.snd) := by
  induction others with
  | nil => exact continues_nil
  | cons other others ih =>
      obtain ⟨hfits, hothers⟩ := List.forall_mem_cons.1 h
      obtain ⟨form, segment⟩ := other
      cases form with
      | dotted => exact (ih hothers).dotted hfits
      | bracketed front back =>
          simpa [Form.text] using (ih hothers).bracketed hfits front back

theorem parse_text {w : Writing} (h : w.IsReadable) : parse w.text = w.path := by
  rw [parse, Writing.text, String.toList_ofList, (continues_others h.others).scan_first h.first]
  rfl

/-! ### The dotted form -/

/-- Segments with a dot in front of each. -/
def behindDots (segments : List String) : List Char :=
  segments.flatMap fun segment => '.' :: segment.toList

theorem behindDots_cons (segment : String) (segments : List String) :
    behindDots (segment :: segments) = '.' :: (segment.toList ++ behindDots segments) := rfl

theorem toList_display (first : String) (others : List String) :
    (display ⟨first :: others⟩).toList = first.toList ++ behindDots others := by
  rw [display, String.toList_intercalate]
  induction others generalizing first with
  | nil => simp [behindDots]
  | cons next others ih =>
      rw [List.map_cons, List.intercalate_cons_of_ne_nil (by simp), ih, behindDots_cons]
      simp

/-- The dotted form is the writing in which every segment stands behind a dot. -/
theorem display_eq_text (first : String) (others : List String) :
    display ⟨first :: others⟩ = (⟨first, others.map (Form.dotted, ·)⟩ : Writing).text := by
  rw [← String.toList_inj, toList_display, Writing.text, String.toList_ofList, List.flatMap_map]
  rfl

theorem parse_display (h : ∀ segment ∈ segments, IsPlain segment) :
    parse (display ⟨segments⟩) = ⟨segments⟩ := by
  cases segments with
  | nil => rfl
  | cons first others =>
      obtain ⟨hfirst, hothers⟩ := List.forall_mem_cons.1 h
      have hreadable : (⟨first, others.map (Form.dotted, ·)⟩ : Writing).IsReadable :=
        ⟨hfirst, List.forall_mem_map.2 hothers⟩
      rw [display_eq_text, parse_text hreadable]
      simp [Writing.path, Function.comp_def]

/-! ### What is lost of other segments -/

theorem length_trimQuotes_le (cs : List Char) : (trimQuotes cs).length ≤ cs.length := by
  have hfront := (List.dropWhile_sublist (l := cs) isQuote).length_le
  have hback := (List.dropWhile_sublist (l := (cs.dropWhile isQuote).reverse) isQuote).length_le
  rw [List.length_reverse] at hback
  rw [trimQuotes, List.length_reverse]
  omega

theorem length_behindDots_putSegment_le (taken : List Char) (segments : List String) :
    (behindDots (putSegment taken segments)).length ≤
      taken.length + 1 + (behindDots segments).length := by
  unfold putSegment
  split
  · omega
  · simp only [behindDots_cons, String.toList_ofList, List.length_cons, List.length_append,
      List.length_reverse]
    omega

/-- Each segment but the first is read behind a character that belongs to none. -/
theorem length_behindDots_scan_le (inBrackets : Bool) (taken rest : List Char) :
    (behindDots (scan inBrackets taken rest)).length ≤ taken.length + rest.length + 1 := by
  fun_induction scan inBrackets taken rest with
  | case1 taken => exact length_behindDots_putSegment_le taken []
  | case2 taken rest ih | case3 taken rest ih =>
      apply Nat.le_trans (length_behindDots_putSegment_le taken _)
      simp only [List.length_nil, List.length_cons] at *
      omega
  | case5 taken =>
      apply Nat.le_trans (length_behindDots_putSegment_le (trimQuotes taken) [])
      have htrim := length_trimQuotes_le taken
      simp only [behindDots, List.flatMap_nil, List.length_nil]
      omega
  | case6 taken rest ih =>
      apply Nat.le_trans (length_behindDots_putSegment_le (trimQuotes taken) _)
      have htrim := length_trimQuotes_le taken
      simp only [List.length_nil, List.length_cons] at *
      omega
  | case4 taken c rest _ _ ih | case7 taken c rest _ ih =>
      simp only [List.length_cons] at *
      omega

theorem ne_nil_of_mem_putSegment {taken : List Char}
    (h : ∀ segment ∈ segments, segment.toList ≠ []) :
    ∀ segment ∈ putSegment taken segments, segment.toList ≠ [] := by
  unfold putSegment
  split
  · exact h
  · rename_i htaken
    exact List.forall_mem_cons.2 ⟨by simpa using htaken, h⟩

theorem ne_nil_of_mem_scan (inBrackets : Bool) (taken rest : List Char) :
    ∀ segment ∈ scan inBrackets taken rest, segment.toList ≠ [] := by
  fun_induction scan inBrackets taken rest with
  | case1 | case5 => exact ne_nil_of_mem_putSegment nofun
  | case2 _ _ ih | case3 _ _ ih | case6 _ _ ih => exact ne_nil_of_mem_putSegment ih
  | case4 _ _ _ _ _ ih | case7 _ _ _ _ ih => exact ih

/-- A character that ends a segment outside brackets. -/
def isSeparator (c : Char) : Bool :=
  c == '.' || c == '['

theorem scan_separator {c : Char} (hc : isSeparator c = true) (taken rest : List Char) :
    scan false taken (c :: rest) = putSegment taken (scan (c == '[') [] rest) := by
  obtain rfl | rfl : c = '.' ∨ c = '[' := by simpa [isSeparator] using hc
  · rfl
  · rfl

theorem not_isSeparator_of_scan
    (h : scan false [] (segment.toList ++ behindDots others) = segment :: others) :
    ∀ c ∈ segment.toList, isSeparator c = false := by
  by_contra hmem
  obtain ⟨c, hfind⟩ : ∃ c, segment.toList.find? isSeparator = some c := by
    rw [← Option.isSome_iff_exists, List.find?_isSome]
    simpa using hmem
  obtain ⟨hc, front, back, hsplit, hfront⟩ := List.find?_eq_some_iff_append.1 hfind
  have hdot : '.' ∉ front := fun hin => by simpa [isSeparator] using hfront _ hin
  have hbracket : '[' ∉ front := fun hin => by simpa [isSeparator] using hfront _ hin
  rw [hsplit, List.append_assoc, List.cons_append, scan_append hdot hbracket, List.append_nil,
    scan_separator hc] at h
  cases front with
  | nil =>
      -- behind the separator too little is left for as many and as long segments
      have hle := length_behindDots_scan_le (c == '[') [] (back ++ behindDots others)
      have hread : scan (c == '[') [] (back ++ behindDots others) = segment :: others := h
      rw [hread, behindDots_cons, hsplit] at hle
      simp only [List.nil_append, List.cons_append, List.length_cons, List.length_append,
        List.length_nil] at hle
      omega
  | cons d front =>
      -- the first segment read ends in front of the separator
      rw [putSegment_reverse (List.cons_ne_nil d front)] at h
      rw [← (List.cons.inj h).1, String.toList_ofList] at hsplit
      have hlength := congrArg List.length hsplit
      simp only [List.length_append, List.length_cons] at hlength
      omega

theorem isPlain_of_scan
    (h : scan false [] (segment.toList ++ behindDots others) = segment :: others) :
    IsPlain segment := by
  have hseparator := not_isSeparator_of_scan h
  constructor
  case ne_empty =>
    apply ne_nil_of_mem_scan false [] (segment.toList ++ behindDots others)
    rw [h]
    exact List.mem_cons_self
  case no_dot => exact fun hdot => absurd (hseparator _ hdot) (by decide)
  case no_bracket => exact fun hbracket => absurd (hseparator _ hbracket) (by decide)

theorem forall_isPlain_of_scan
    (h : scan false [] (first.toList ++ behindDots others) = first :: others) :
    ∀ segment ∈ first :: others, IsPlain segment := by
  induction others generalizing first with
  | nil => exact List.forall_mem_singleton.2 (isPlain_of_scan h)
  | cons next others ih =>
      have hfirst := isPlain_of_scan h
      rw [scan_plain hfirst, behindDots_cons, scan, putSegment_reverse hfirst.ne_empty,
        String.ofList_toList] at h
      exact List.forall_mem_cons.2 ⟨hfirst, ih (List.cons.inj h).2⟩

theorem parse_display_iff (path : Path) :
    parse path.display = path ↔ ∀ segment ∈ path.segments, IsPlain segment := by
  obtain ⟨segments⟩ := path
  constructor
  · intro h
    cases segments with
    | nil => exact nofun
    | cons first others =>
        rw [parse, toList_display] at h
        exact forall_isPlain_of_scan (congrArg Path.segments h)
  · exact parse_display

/-! ### The round trip -/

/-- A path is read back from its dotted form exactly when its segments are not empty and hold neither
dots nor opening brackets. Behind the first one, a segment that holds no closing bracket and neither
begins nor ends with a quote may stand in brackets instead, between quotes or not; whichever of them
do, the path is read as from the dotted form. Dots and opening brackets in a segment, which the
dotted form would lose, are kept by the brackets. -/
theorem path_text_round_trip :
    (∀ path : Path, parse path.display = path ↔ ∀ segment ∈ path.segments, IsPlain segment) ∧
    ∀ writing : Writing, writing.IsReadable →
      parse writing.text = writing.path ∧
      ((∀ segment ∈ writing.path.segments, IsPlain segment) →
        parse writing.text = parse writing.path.display) := by
  constructor
  · exact parse_display_iff
  · intro writing hreadable
    refine ⟨parse_text hreadable, fun hplain => ?_⟩
    rw [parse_text hreadable, (parse_display_iff writing.path).2 hplain]

/-- A path with an index in brackets and a quoted name. -/
def ruleTag : Writing :=
  ⟨"rule", [(.bracketed [] [], "0"), (.dotted, "tags"),
    (.bracketed [⟨'\'', rfl⟩] [⟨'\'', rfl⟩], "Name")]⟩

theorem path_text_round_trip_ruleTag :
    ruleTag.text = "rule[0].tags['Name']" ∧ ruleTag.path = ⟨["rule", "0", "tags", "Name"]⟩ ∧
      ruleTag.IsReadable ∧ (∀ segment ∈ ruleTag.path.segments, IsPlain segment) ∧
      parse ruleTag.path.display = ruleTag.path ∧ parse ruleTag.text = ruleTag.path ∧
      parse ruleTag.text = parse ruleTag.path.display := by
  have hplain : ∀ segment ∈ ruleTag.path.segments, IsPlain segment := by
    simp only [ruleTag, Writing.path, List.map_cons, List.map_nil, List.forall_mem_cons]
    exact ⟨⟨by decide, by decide, by decide⟩, ⟨by decide, by decide, by decide⟩,
      ⟨by decide, by decide, by decide⟩, ⟨by decide, by decide, by decide⟩, nofun⟩
  have hreadable : ruleTag.IsReadable := by
    refine ⟨hplain _ (by decide), ?_⟩
    simp only [ruleTag, List.forall_mem_cons]
    exact ⟨⟨by decide, by decide, by simp [isQuote], by simp [isQuote]⟩, hplain _ (by decide),
      ⟨by decide, by decide, by simp [isQuote], by simp [isQuote]⟩, nofun⟩
  obtain ⟨hread, hsame⟩ := path_text_round_trip.2 ruleTag hreadable
  exact ⟨by decide, by decide, hreadable, hplain,
    (path_text_round_trip.1 ruleTag.path).2 hplain, hread, hsame hplain⟩

end StackExport.Proofs.PathText
