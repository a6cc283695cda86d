import StackExport.Text.Blank
import StackExport.Yaml.Page
/-!
Writing YAML values as documents with one item or entry on a line.
-/
namespace StackExport.Yaml

namespace Value

def scalarText? : Value → Option String
  | .null => some "null"
  | .bool b => some (toString b)
  | .int n => some (toString n)
  | .float x =>
    some (if x.isNaN then ".nan"
    else if x.isInf then if x < 0.0 then "-.inf" else ".inf"
    else Decimal.Layout.yaml.text x)
  | _ => none

/-- True for a mapping with one entry, and for a value with a tag. -/
def looksTagged : Value → Bool
  | .mapping [_] => true
  | .tagged _ _ => true
  | _ => false

mutual

/-- True when a value has a written form. A mapping with one entry has none where its key could be
taken for one with a tag, unless the mapping itself has a tag. -/
def isWritable (hasTag : Bool) : Value → Bool
  | .sequence items => itemsWritable items
  | .mapping [(key, value)] =>
    (hasTag || !key.looksTagged) && isWritable false key && isWritable false value
  | .mapping entries => entriesWritable entries
  | .tagged _ value => isWritable true value
  | _ => true

/-- True when all items of a sequence have a written form. -/
def itemsWritable : List Value → Bool
  | [] => true
  | item :: rest => isWritable false item && itemsWritable rest

/-- True when all entries of a mapping have a written form. -/
def entriesWritable : List (Value × Value) → Bool
  | [] => true
  | (key, value) :: rest =>
    isWritable false key && isWritable false value && entriesWritable rest

end

/-- A tag behind its exclamation mark. -/
def marked (tag : String) : String := if tag.startsWith "!" then tag else "!" ++ tag

/-- The number of bytes that a key may have in front of its colon. -/
def simpleKeyLimit : Nat := 128

/-- True for a key in one line that may stand in front of its colon, with the tag before it. -/
def isSimpleKey (tag : String) : Value → Bool
  | .sequence items => items.isEmpty && tag.utf8ByteSize ≤ simpleKeyLimit
  | .mapping entries => entries.isEmpty && tag.utf8ByteSize ≤ simpleKeyLimit
  | .tagged tag value => isSimpleKey (marked tag) value
  | .string s => !s.toList.any isBreak && tag.utf8ByteSize + s.utf8ByteSize ≤ simpleKeyLimit
  | value => tag.utf8ByteSize + ((scalarText? value).getD "").utf8ByteSize ≤ simpleKeyLimit

end Value

/-- What is around a value on a page. -/
structure Surroundings where
  /-- The indentation of the collection around it, if there is one. -/
  indent : Option Nat
  /-- True for a key or a value of a mapping. -/
  inMapping : Bool
  /-- True in front of a colon. -/
  simpleKey : Bool

/-- The indentation of what is inside, further in by two. -/
def Surroundings.inner (around : Surroundings) (outermost : Nat) : Nat :=
  match around.indent with
  | some n => n + 2
  | none => outermost

mutual

/-- Writes a value. A sequence is no further in than the mapping whose value it is. -/
def writeValue (around : Surroundings) : Value → Page → Page
  | .string s, p =>
    let style := possibleStyle (scalarTraits s.toList) around.simpleKey (askedStyle s)
    p.scalar style (around.inner 2) s.toList
  | .sequence [], p => p.word "[]".toList
  | .sequence items, p =>
    let indent := match around.indent with
      | some n => if around.inMapping && !p.fresh then n else n + 2
      | none => 0
    writeItems indent items p
  | .mapping [], p => p.word "\x7b\x7d".toList
  | .mapping entries, p => writeEntries (around.inner 0) entries p
  | .tagged tag value, p =>
    writeValue around value
      (p.word (tagText (Value.marked tag)))
  | value, p => p.word ((value.scalarText?).getD "").toList

/-- Writes the items of a sequence, each behind a dash. -/
def writeItems (n : Nat) : List Value → Page → Page
  | [], p => p
  | item :: rest, p =>
    writeItems n rest (writeValue ⟨some n, false, false⟩ item ((p.indent n).space.mark "-" true))

/-- Writes the entries of a mapping. A key that is no simple one stands behind a question mark. -/
def writeEntries (n : Nat) : List (Value × Value) → Page → Page
  | [], p => p
  | (key, value) :: rest, p =>
    let p := p.indent n
    let p :=
      if key.isSimpleKey "" then (writeValue ⟨some n, true, true⟩ key p).mark ":" false
      else
        let p := writeValue ⟨some n, true, false⟩ key (p.space.mark "?" true)
        (p.indent n).space.mark ":" true
    writeEntries n rest (writeValue ⟨some n, true, false⟩ value p)

end

/-- The document that holds a value, without the blanks around it. -/
def write? (value : Value) : Option String :=
  if value.isWritable false then
    some (Text.trim (writeValue ⟨none, false, false⟩ value Page.start).text)
  else none

end StackExport.Yaml
