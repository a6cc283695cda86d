import Mathlib
import StackExport.Template.Interpolation
/-!
Texts with placeholders, printed from their parts and read again.

A literal is plain text with escaped groups in it. What it prints is passed over as a whole, and so
is a placeholder, whatever follows; therefore `parts_undo_printing` gives the parts back. The parts
of any text whatever have no empty literal and no two literals in a row.
-/
namespace StackExport.Proofs.PrintedParts

open StackExport
open StackExport.Interpolation

/-! ### Printing -/

/-- The characters that begin a placeholder. -/
def marker : List Char := ['$', '{']

/-- A group that is meant as text, and the plain text behind it. -/
structure Escape where
  name : List Char
  behind : List Char
deriving DecidableEq, Repr

namespace Escape

/-- The text that is meant. -/
def text (e : Escape) : List Char := marker ++ e.name ++ '}' :: e.behind

/-- The text as it is printed, with an exclamation mark in the group. -/
def printed (e : Escape) : List Char := marker ++ '!' :: e.name ++ '}' :: e.behind

/-- A group ends at its first closing brace, and plain text has no marker in it. -/
structure WellFormed (e : Escape) : Prop where
  name : '}' ∉ e.name
  behind : ¬ marker <:+: e.behind

end Escape

/-- Literal text: plain text, and then escaped groups. -/
structure Literal where
  front : List Char
  escapes : List Escape
deriving DecidableEq, Repr

namespace Literal

/-- The text that is meant. -/
def text (l : Literal) : List Char := l.front ++ l.escapes.flatMap Escape.text

/-- The text as it is printed. -/
def printed (l : Literal) : List Char := l.front ++ l.escapes.flatMap Escape.printed

structure WellFormed (l : Literal) : Prop where
  front : ¬ marker <:+: l.front
  escapes : ∀ e ∈ l.escapes, e.WellFormed

end Literal

/-- A part with what there is to know for printing it. -/
inductive Item where
  | literal (l : Literal)
  | placeholder (name : String)
deriving DecidableEq, Repr

namespace Item

def part : Item → Part
  | .literal l => .literal (String.ofList l.text)
  | .placeholder name => .placeholder name

def printed : Item → List Char
  | .literal l => l.printed
  | .placeholder name => marker ++ name.toList ++ ['}']

end Item

/-- Prints items one behind the other. -/
def printed (items : List Item) : String :=
  String.ofList (items.flatMap Item.printed)

def isLiteral : Part → Bool
  | .literal _ => true
  | .placeholder _ => false

/-- No literal is empty, and none stands next to another. -/
structure Separated (ps : List Part) : Prop where
  nonempty : .literal "" ∉ ps
  apart : ps.IsChain fun a b => ¬ (isLiteral a = true ∧ isLiteral b = true)

/-- The name of a placeholder that stands for itself when it is read. -/
structure IsName (name : String) : Prop where
  trimmed : Text.trim name = name
  closed : '}' ∉ name.toList
  unescaped : name.toList.head? ≠ some '!'

structure Printable (items : List Item) : Prop where
  literals : ∀ l, .literal l ∈ items → l.WellFormed
  names : ∀ name, .placeholder name ∈ items → IsName name
  separated : Separated (items.map Item.part)

/-! ### Scanning what is printed -/

theorem scan_char {c : Char} {rest : List Char} (h : c = '$' → rest.head? ≠ some '{')
    (taken : List Char) : scan taken (c :: rest) = scan (c :: taken) rest := by
  rw [scan]
  rintro after rfl rfl
  exact h rfl rfl

/-- Plain text belongs to the literal under way, unless its end and what follows make a marker. -/
theorem scan_plain {text rest : List Char} (h : ¬ marker <:+: text)
    (hrest : rest.head? ≠ some '{') (taken : List Char) :
    scan taken (text ++ rest) = scan (text.reverse ++ taken) rest := by
  induction text generalizing taken with
  | nil => rfl
  | cons c text ih =>
      have htext : ¬ marker <:+: text := fun hin => h (hin.trans (List.suffix_cons c text).isInfix)
      have hhead : c = '$' → (text ++ rest).head? ≠ some '{' := by
        rintro rfl hbrace
        cases text with
        | nil => exact hrest hbrace
        | cons d text =>
            obtain rfl : d = '{' := by simpa using hbrace
            exact h (List.prefix_append marker text).isInfix
      rw [List.cons_append, scan_char hhead, ih htext, List.reverse_cons, List.append_assoc]
      rfl

theorem untilBrace_append {name : List Char} (h : '}' ∉ name) (rest : List Char) :
    untilBrace (name ++ '}' :: rest) = some (name, rest) := by
  induction name with
  | nil => rfl
  | cons c name ih =>
      obtain ⟨hc, hname⟩ := not_or.mp (mt List.mem_cons.mpr h)
      rw [List.cons_append, untilBrace, ih hname]
      · rfl
      · exact fun hbrace => hc hbrace.symm

theorem scan_escape {e : Escape} (h : e.WellFormed) {rest : List Char}
    (hrest : rest.head? ≠ some '{') (taken : List Char) :
    scan taken (e.printed ++ rest) = scan (e.text.reverse ++ taken) rest := by
  have hmark : '}' ∉ '!' :: e.name := by simpa using h.name
  have hbrace := untilBrace_append hmark (e.behind ++ rest)
  have hgroup : scan taken (e.printed ++ rest) =
      scan ((marker ++ e.name ++ ['}']).reverse ++ taken) (e.behind ++ rest) := by
    have hprinted : e.printed ++ rest =
        '$' :: '{' :: ('!' :: e.name ++ '}' :: (e.behind ++ rest)) := by
      simp [Escape.printed, marker]
    rw [hprinted, scan]
    split
    · next hnone => cases hbrace.symm.trans hnone
    · next escaped tail hsome =>
        cases hbrace.symm.trans hsome
        simp [marker]
    · next name tail hname hsome =>
        cases hbrace.symm.trans hsome
        exact absurd rfl (hname e.name)
  rw [hgroup, scan_plain h.behind hrest, Escape.text]
  simp

/-- A placeholder ends the literal under way. -/
theorem scan_placeholder {name : String} (h : IsName name) (taken rest : List Char) :
    scan taken ((Item.placeholder name).printed ++ rest) =
      putLiteral taken (.placeholder name :: scan [] rest) := by
  have hbrace := untilBrace_append h.closed rest
  have hprinted : (Item.placeholder name).printed ++ rest =
      '$' :: '{' :: (name.toList ++ '}' :: rest) := by
    simp [Item.printed, marker]
  rw [hprinted, scan]
  split
  · next hnone => cases hbrace.symm.trans hnone
  · next escaped tail hsome =>
      have hname : name.toList = '!' :: escaped :=
        congrArg Prod.fst (Option.some.inj (hbrace.symm.trans hsome))
      exact absurd (by rw [hname]; rfl) h.unescaped
  · next read tail _ hsome =>
      cases hbrace.symm.trans hsome
      rw [String.ofList_toList, h.trimmed]

/-- No escaped group begins with the brace that would complete a marker. -/
theorem head?_escapes {rest : List Char} (hrest : rest.head? ≠ some '{') (escapes : List Escape) :
    (escapes.flatMap Escape.printed ++ rest).head? ≠ some '{' := by
  cases escapes with
  | nil => exact hrest
  | cons e escapes => simp [Escape.printed, marker]

theorem scan_escapes {escapes : List Escape} (h : ∀ e ∈ escapes, e.WellFormed)
    {rest : List Char} (hrest : rest.head? ≠ some '{') (taken : List Char) :
    scan taken (escapes.flatMap Escape.printed ++ rest) =
      scan ((escapes.flatMap Escape.text).reverse ++ taken) rest := by
  induction escapes generalizing taken with
  | nil => rfl
  | cons e escapes ih =>
      rw [List.forall_mem_cons] at h
      rw [List.flatMap_cons, List.append_assoc, scan_escape h.1 (head?_escapes hrest escapes),
        ih h.2, List.flatMap_cons, List.reverse_append, List.append_assoc]

/-- What a literal prints is read as its text, unless its end and what follows make a marker. -/
theorem scan_literal {l : Literal} (h : l.WellFormed) {rest : List Char}
    (hrest : rest.head? ≠ some '{') (taken : List Char) :
    scan taken ((Item.literal l).printed ++ rest) = scan (l.text.reverse ++ taken) rest := by
  rw [Item.printed, Literal.printed, List.append_assoc,
    scan_plain h.front (head?_escapes hrest l.escapes), scan_escapes h.escapes hrest, Literal.text,
    List.reverse_append, List.append_assoc]

/-! ### Parts of a text -/

/-- No literal comes first. -/
def StartsApart (ps : List Part) : Prop := ∀ p ∈ ps.head?, isLiteral p = false

theorem Separated.tail {p : Part} {ps : List Part} (h : Separated (p :: ps)) : Separated ps :=
  ⟨fun hmem => h.nonempty (List.mem_cons_of_mem _ hmem), h.apart.tail⟩

theorem Separated.startsApart {p : Part} {ps : List Part} (h : Separated (p :: ps))
    (hp : isLiteral p = true) : StartsApart ps := by
  intro q hq
  have := h.apart.rel_head? hq
  simpa [hp] using this

theorem Separated.placeholder {ps : List Part} (h : Separated ps) (name : String) :
    Separated (.placeholder name :: ps) :=
  ⟨by simpa using h.nonempty, List.isChain_cons.mpr ⟨by simp [isLiteral], h.apart⟩⟩

theorem Separated.putLiteral {ps : List Part} (h : Separated ps) (hstart : StartsApart ps)
    (taken : List Char) : Separated (putLiteral taken ps) := by
  unfold Interpolation.putLiteral
  split
  · exact h
  · next hne =>
      refine ⟨?_, List.isChain_cons.mpr ⟨fun q hq => ?_, h.apart⟩⟩
      · have htext : String.ofList taken.reverse ≠ "" := by
          simpa [String.ofList_eq_empty_iff] using hne
        simpa [htext.symm] using h.nonempty
      · simp [hstart q hq]

theorem separated_scan (taken cs : List Char) : Separated (scan taken cs) := by
  have hnil : Separated [] := ⟨List.not_mem_nil, List.isChain_nil⟩
  have hstart : StartsApart [] := by simp [StartsApart]
  fun_induction scan taken cs with
  | case1 taken => exact hnil.putLiteral hstart taken
  | case2 taken after _ => exact hnil.putLiteral hstart _
  | case3 taken after escaped tail _ _ ih => exact ih
  | case4 taken after name tail _ _ _ ih =>
      exact (ih.placeholder _).putLiteral (by simp [StartsApart, isLiteral]) taken
  | case5 taken c rest _ ih => exact ih

/-! ### Reading what is printed -/

theorem Printable.tail {item : Item} {items : List Item} (h : Printable (item :: items)) :
    Printable items where
  literals l hl := h.literals l (List.mem_cons_of_mem _ hl)
  names name hname := h.names name (List.mem_cons_of_mem _ hname)
  separated := h.separated.tail

/-- Where no literal comes first, the literal under way ends. -/
theorem scan_of_startsApart {items : List Item} (h : Printable items)
    (hstart : StartsApart (items.map Item.part)) (taken : List Char) :
    scan taken (items.flatMap Item.printed) =
      putLiteral taken (scan [] (items.flatMap Item.printed)) := by
  cases items with
  | nil => simp [scan, putLiteral]
  | cons item items =>
      cases item with
      | literal l => exact absurd (hstart _ rfl) (by simp [Item.part, isLiteral])
      | placeholder name =>
          have hname := h.names name List.mem_cons_self
          rw [List.flatMap_cons, scan_placeholder hname, scan_placeholder hname]
          rfl

theorem head?_printed {items : List Item} (hstart : StartsApart (items.map Item.part)) :
    (items.flatMap Item.printed).head? ≠ some '{' := by
  cases items with
  | nil => simp
  | cons item items =>
      cases item with
      | literal l => exact absurd (hstart _ rfl) (by simp [Item.part, isLiteral])
      | placeholder name => simp [Item.printed, marker]

theorem scan_printed {items : List Item} (h : Printable items) :
    scan [] (items.flatMap Item.printed) = items.map Item.part := by
  induction items with
  | nil => simp [scan, putLiteral]
  | cons item items ih =>
      rw [List.flatMap_cons, List.map_cons]
      cases item with
      | placeholder name =>
          rw [scan_placeholder (h.names name List.mem_cons_self), ih h.tail]
          rfl
      | literal l =>
          have hstart : StartsApart (items.map Item.part) := h.separated.startsApart rfl
          have htext : l.text ≠ [] := by
            intro hempty
            refine h.separated.nonempty (List.mem_cons.mpr (.inl ?_))
            simp [Item.part, hempty]
          rw [scan_literal (h.literals l List.mem_cons_self) (head?_printed hstart),
            List.append_nil, scan_of_startsApart h.tail hstart, ih h.tail]
          simp [putLiteral, htext, Item.part]

/-- Reading a printed text gives the parts that were printed, and the parts of any text are
separated. -/
theorem parts_undo_printing :
    (∀ items, Printable items → parts (printed items) = items.map Item.part) ∧
      ∀ text, Separated (parts text) := by
  refine ⟨fun items h => ?_, fun text => separated_scan [] text.toList⟩
  rw [parts, printed, String.toList_ofList, scan_printed h]

/-- A sign in front of each kind of marker, a brace at the start of literal text and an empty
name. -/
def signs : List Item :=
  [.placeholder "",
    .literal ⟨['{', '$'], [⟨['$', '{', '!'], ['}', '$']⟩, ⟨[], ['$']⟩]⟩,
    .placeholder "a.$\x7bb"]

theorem parts_undo_printing_signs :
    Printable signs ∧
      printed signs = "$\x7b\x7d\x7b$$\x7b!$\x7b!\x7d\x7d$$\x7b!\x7d$$\x7ba.$\x7bb\x7d" ∧
      parts (printed signs) =
        [.placeholder "", .literal "\x7b$$\x7b$\x7b!\x7d\x7d$$\x7b\x7d$", .placeholder "a.$\x7bb"] ∧
      Separated (parts (printed signs)) := by
  have hprintable : Printable signs := by
    refine ⟨fun l hl => ?_, fun name hname => ?_, ?_⟩
    · obtain rfl : l = ⟨['{', '$'], [⟨['$', '{', '!'], ['}', '$']⟩, ⟨[], ['$']⟩]⟩ := by
        simpa [signs] using hl
      exact ⟨by decide, List.forall_mem_cons.mpr
        ⟨⟨by decide, by decide⟩, List.forall_mem_singleton.mpr ⟨by decide, by decide⟩⟩⟩
    · obtain rfl | rfl : name = "" ∨ name = "a.$\x7bb" := by simpa [signs] using hname
      · exact ⟨by decide, by decide, by decide⟩
      · exact ⟨by decide, by decide, by decide⟩
    · exact ⟨by decide, by decide⟩
  exact ⟨hprintable, by decide, parts_undo_printing.1 signs hprintable, parts_undo_printing.2 _⟩

end StackExport.Proofs.PrintedParts
