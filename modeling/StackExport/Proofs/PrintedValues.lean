import StackExport.Locals
import StackExport.Proofs.BodyLines
/-!
One text for a value, whether it is printed from its structure or written event by event.

The writer of a resource keeps levels, the printer of look-up tables keeps a number. Both lay a value
out alike, so an attribute that holds a document is the line that the printer would make of it.
-/
namespace StackExport.Proofs.PrintedValues

open StackExport
open StackExport.Resource
open StackExport.Proofs.StreamNesting
open StackExport.Proofs.ResourceCompleteness
open StackExport.Proofs.SerializedResource
open StackExport.Proofs.LiteralReading
open StackExport.Proofs.LayoutReading
open StackExport.Proofs.WrittenText
open StackExport.Proofs.ValueLayout
open StackExport.Proofs.EmbeddedDocument
open StackExport.Proofs.BodyLines

/-! ### Both printers -/

mutual

/-- At every depth a plain value is laid out as the printer writes it. -/
theorem textOf_plain (n : Nat) : ∀ json : Json,
    textOf (written n (documentLayout (.ofJson json))) = Locals.literal n json
  | .null | .bool _ | .number _ | .string _ => textOf_scalarPieces _
  | .array [] | .object [] => rfl
  | .array (item :: rest) => by
      have hitems := textOf_plainItems (n + 1) (item :: rest)
      change textOf (written n (.list (documentLayouts (AttributeTree.ofJsonItems (item :: rest))))) = _
      rw [textOf_list, hitems]
      simp only [Locals.literal, List.isEmpty_cons, Bool.false_eq_true, if_false,
        String.append_assoc]
      rfl
  | .object (entry :: rest) => by
      have hentries := textOf_plainEntries (n + 1) (entry :: rest)
      change textOf (written n (.object
        (documentEntryLayouts (AttributeTree.ofJsonEntries (entry :: rest))))) = _
      rw [textOf_object, hentries]
      simp only [Locals.literal, List.isEmpty_cons, Bool.false_eq_true, if_false,
        String.append_assoc]
      rfl

theorem textOf_plainItems (n : Nat) : ∀ items : List Json,
    textOf (writtenItems n (documentLayouts (AttributeTree.ofJsonItems items))) =
      Locals.itemLines n items
  | [] => rfl
  | item :: rest => by
      rw [AttributeTree.ofJsonItems, documentLayouts, textOf_item, textOf_plain n item,
        textOf_plainItems n rest]
      rfl

theorem textOf_plainEntries (n : Nat) : ∀ entries : List (String × Json),
    textOf (writtenEntries n (documentEntryLayouts (AttributeTree.ofJsonEntries entries))) =
      Locals.entryLines n entries
  | [] => rfl
  | (key, value) :: rest => by
      rw [AttributeTree.ofJsonEntries, documentEntryLayouts, textOf_entry, textOf_plain n value,
        textOf_plainEntries n rest, Locals.entryLines, ← String.append_assoc]
      rfl

end

/-! ### An attribute that holds a document -/

variable {r : Rules} {path : Path} {name : String} {tree : AttributeTree} {doc : Json}

/-- The line of a top-level attribute whose value is a call on a plain document. -/
def documentLine (name : String) (doc : Json) : String :=
  "  " ++ Text.objectKey name ++ " = jsonencode(" ++ Locals.literal 1 doc ++ ")\n"

theorem bodyValue_of_holds (h : Holds tree doc) (r : Rules) (path : Path) (name : String) :
    bodyValue r path name tree = document path (.ofJson doc) := by
  have hvalue := value_of_holds h r path
  rcases h with ⟨s, rfl, -⟩ | rfl <;> exact hvalue

theorem attributeLines_of_holds (h : Holds tree doc) (c : Context) (r : Rules) (path : Path)
    (name : String) :
    attributeLines c r path name tree =
      [.assignment name (.call (documentLayout (.ofJson doc)))] := by
  rcases h with ⟨s, rfl, hs⟩ | rfl
  · simp only [attributeLines, defaulted, layoutOf, hs]
  · rfl

theorem applyDefault_document (c : Context) (key : MappingKey) (path : Path) (doc : AttributeTree) :
    c.applyDefault key (document path doc) = document path doc := rfl

theorem lineText_document (name : String) (doc : Json) :
    linesText 1 [.assignment name (.call (documentLayout (.ofJson doc)))] =
      documentLine name doc := by
  rw [linesText_singleton, lineText, textOf_call, textOf_plain, documentLine]
  simp only [String.append_assoc]
  rfl

theorem bodyLines_append (c : Context) (r : Rules) (path : Path)
    (front back : List (String × AttributeTree)) :
    bodyLines c r path (front ++ back) = bodyLines c r path front ++ bodyLines c r path back := by
  induction front with
  | nil => rfl
  | cons entry front ih =>
      rw [List.cons_append, bodyLines_cons, bodyLines_cons, ih, List.append_assoc]

theorem documentValue_ne_nil (path : Path) (tree : AttributeTree) : documentValue path tree ≠ [] := by
  have hvalue := (documentValue_phrase path tree).isValue
  rintro hnil
  rw [hnil] at hvalue
  cases hvalue

/-- A document with something in it counts as a value. -/
theorem contentOf_document (traits : ResourceTraits) (key : MappingKey) (path : Path)
    (harray : doc ≠ .array []) (hobject : doc ≠ .object []) :
    contentOf traits key (document path (.ofJson doc)) = .value := by
  cases doc with
  | array items =>
      obtain ⟨item, rest, rfl⟩ := List.exists_cons_of_ne_nil fun h => harray (h ▸ rfl)
      have hitem := List.length_pos_of_ne_nil
        (documentValue_ne_nil (path.element 0) (.ofJson item))
      have hlong : ¬ (document path (.ofJson (.array (item :: rest)))).length ≤ 4 := by
        simp only [document, AttributeTree.ofJson, AttributeTree.ofJsonItems, documentValue,
          documentItems, List.length_cons, List.length_append, List.length_nil]
        omega
      exact if_neg hlong
  | object entries =>
      obtain ⟨⟨name, value⟩, rest, rfl⟩ := List.exists_cons_of_ne_nil fun h => hobject (h ▸ rfl)
      have hvalue := List.length_pos_of_ne_nil
        (documentValue_ne_nil (path.child name) (.ofJson value))
      have hlong : ¬ (document path (.ofJson (.object ((name, value) :: rest)))).length ≤ 4 := by
        simp only [document, AttributeTree.ofJson, AttributeTree.ofJsonEntries, documentValue,
          documentEntries, List.length_cons, List.length_append, List.length_nil]
        omega
      exact if_neg hlong
  | _ => rfl

/-- Whether a document is written is for the rules alone to say, unless there is nothing in it. -/
theorem isWritten_document (c : Context) (name : String) (hholds : Holds tree doc)
    (harray : doc ≠ .array []) (hobject : doc ≠ .object []) :
    isWritten c (bodyKey r path name tree) (document path (.ofJson doc)) =
      (c.isRequired (bodyKey r path name tree) || !(bodyKey r path name tree).computedOnly &&
        c.traits.shouldEmit path .value c.populated) := by
  have hshape : (bodyKey r path name tree).shape.isBlock = false := by
    rcases hholds with ⟨s, rfl, -⟩ | rfl <;> rfl
  rw [isWritten_of_not_block hshape, isKept, contentOf_document _ _ _ harray hobject]
  rfl

theorem linesText_holding (c : Context) (r : Rules) (hholds : Holds tree doc)
    (front back : List (String × AttributeTree)) (name : String) :
    linesText 1 (bodyLines c r .root (front ++ (name, tree) :: back)) =
      linesText 1 (bodyLines c r .root front) ++
        (if isWritten c (bodyKey r ⟨[name]⟩ name tree) (document ⟨[name]⟩ (.ofJson doc)) then
          documentLine name doc else "") ++
        linesText 1 (bodyLines c r .root back) := by
  have hkeyed : linesText 1 (keyedLines c r ⟨[name]⟩ name tree) =
      if isWritten c (bodyKey r ⟨[name]⟩ name tree) (document ⟨[name]⟩ (.ofJson doc)) then
        documentLine name doc else "" := by
    rw [keyedLines, bodyValue_of_holds hholds, applyDefault_document,
      attributeLines_of_holds hholds]
    split_ifs
    · exact lineText_document name doc
    · rfl
  have hpath : Path.root.child name = ⟨[name]⟩ := rfl
  rw [bodyLines_append, bodyLines_cons, hpath, linesText_append, linesText_append, hkeyed,
    String.append_assoc]

/-- The text of a resource with an attribute that holds a document is the line that the printer of
look-up tables makes of the document, if the attribute is written at all, between the lines of the
other attributes. Where there is something in the document only the rules can keep it out. -/
theorem document_printed (r : Rules) (type resource : String)
    {entries front back : List (String × AttributeTree)} {name : String} {c : Context}
    (hentries : entries = front ++ (name, tree) :: back) (hholds : Holds tree doc)
    (hc : c = resourceContext r type resource (.object entries)) :
    write r.traits (r.events type resource (.object entries)) =
        .ok (resourceOpening type resource ++ (linesText 1 (bodyLines c r .root front) ++
          (if isWritten c (bodyKey r ⟨[name]⟩ name tree) (document ⟨[name]⟩ (.ofJson doc)) then
            "  " ++ Text.objectKey name ++ " = jsonencode(" ++ Locals.literal 1 doc ++ ")\n"
          else "") ++ linesText 1 (bodyLines c r .root back) ++
          linesText 1 (missingLines c r .root (entries.map (·.1)))) ++ "\x7d\n\n") ∧
      (doc ≠ .array [] → doc ≠ .object [] →
        isWritten c (bodyKey r ⟨[name]⟩ name tree) (document ⟨[name]⟩ (.ofJson doc)) =
          (c.isRequired (bodyKey r ⟨[name]⟩ name tree) ||
            !(bodyKey r ⟨[name]⟩ name tree).computedOnly &&
              c.traits.shouldEmit ⟨[name]⟩ .value c.populated)) := by
  refine ⟨?_, isWritten_document c name hholds⟩
  have htext := events_text r.traits r.schema type resource (.object entries)
  have hlines := linesText_holding c r hholds front back name
  rw [← hentries] at hlines
  rw [htext, ← hc, rootLines, linesText_append, hlines]
  rfl

/-- A document with empty parts. -/
def sampleDocument : Json := .array [.array [], .object [], .array [.null, .bool true]]

def sampleText : String := "[[], \x7b\x7d, [null, true]]"

theorem document_printed_sample :
    Holds (.string sampleText) sampleDocument ∧
      Locals.literal 1 sampleDocument =
        "[\n    [],\n    \x7b\x7d,\n    [\n      null,\n      true,\n    ],\n  ]" ∧
      write (.none "t") (Rules.events ⟨.none "t", []⟩ "t" "n" (.object [("p", .string sampleText)])) =
        .ok (resourceOpening "t" "n" ++
          ("  p = jsonencode(" ++ Locals.literal 1 sampleDocument ++ ")\n") ++ "\x7d\n\n") := by
  have hdocument : Json.document? sampleText = some sampleDocument := by cbv
  have hholds : Holds (.string sampleText) sampleDocument := .inl ⟨_, rfl, hdocument⟩
  have hentries : [("p", AttributeTree.string sampleText)] =
      [] ++ ("p", .string sampleText) :: [] := rfl
  obtain ⟨htext, hkept⟩ := document_printed ⟨.none "t", []⟩ "t" "n" hentries hholds rfl
  have hitems : sampleDocument ≠ .array [] ∧ sampleDocument ≠ .object [] := by
    simp [sampleDocument]
  have hwritten := (hkept hitems.1 hitems.2).trans (show _ = true from rfl)
  rw [if_pos hwritten] at htext
  refine ⟨hholds, by cbv, htext.trans (congrArg Except.ok ?_)⟩
  have hbehind : linesText 1 [] = "" := rfl
  have hname : Text.objectKey "p" = "p" := by cbv
  simp only [bodyLines, missingLines, Rules.missingRequired, List.foldl_nil, List.map_nil, hbehind,
    hname, String.empty_append, String.append_empty, ResourceTraits.none]
  rfl

end StackExport.Proofs.PrintedValues
