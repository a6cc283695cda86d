/-!
A place in a YAML text: the characters still ahead and how far the place is from the start of the
text and of its line.
-/
namespace StackExport.Yaml

/-- A line break: line feed, carriage return, next line, line or paragraph separator. -/
def isBreak (c : Char) : Bool :=
  c == '\n' || c == '\r' || c.toNat == 0x85 || c.toNat == 0x2028 || c.toNat == 0x2029

/-- A blank inside a line. -/
def isBlank (c : Char) : Bool := c == ' ' || c == '\t'

/-- A character of an anchor or tag handle. -/
def isWordChar (c : Char) : Bool := c.isAlphanum || c == '_' || c == '-'

/-- A character that may stand in a text at all. -/
def isPrintable (c : Char) : Bool :=
  let n := c.toNat
  n == 0x09 || n == 0x0A || n == 0x0D || (0x20 ≤ n && n ≤ 0x7E) || n == 0x85 ||
    (0xA0 ≤ n && n ≤ 0xD7FF) || (0xE000 ≤ n && n ≤ 0xFFFD && n != 0xFEFF) || 0x10000 ≤ n

/-- A place in a text. -/
structure Cursor where
  rest : List Char
  line : Nat
  column : Nat
  index : Nat

namespace Cursor

/-- The start of a text. -/
def ofText (text : String) : Cursor := ⟨text.toList, 0, 0, 0⟩

/-- True at the end of the text. -/
def atEnd (c : Cursor) : Bool := c.rest.isEmpty

/-- The character `n` places ahead. -/
def peek (c : Cursor) (n : Nat) : Option Char := c.rest[n]?

/-- True when the character ahead is a given one. -/
def at? (c : Cursor) (x : Char) : Bool := c.rest.head? == some x

/-- True when a property holds of the character `n` places ahead. -/
def check (c : Cursor) (n : Nat) (p : Char → Bool) : Bool :=
  match c.peek n with
  | some x => p x
  | none => false

/-- True where `n` places ahead the text or its line ends. -/
def breakOrEnd (c : Cursor) (n : Nat) : Bool :=
  match c.peek n with
  | some x => isBreak x
  | none => true

/-- True where `n` places ahead a blank stands or the text or its line ends. -/
def blankOrEnd (c : Cursor) (n : Nat) : Bool :=
  match c.peek n with
  | some x => isBlank x || isBreak x
  | none => true

/-- Passes over one character that is no line break. -/
def skip (c : Cursor) : Cursor :=
  match c.rest with
  | [] => c
  | _ :: rest => ⟨rest, c.line, c.column + 1, c.index + 1⟩

/-- Passes over `n` characters that are no line breaks. -/
def skipMany (c : Cursor) : Nat → Cursor
  | 0 => c
  | n + 1 => c.skip.skipMany n

/-- Takes the characters on which a property holds, none of them a line break. -/
def takeWhile (c : Cursor) (p : Char → Bool) : List Char × Cursor :=
  let taken := c.rest.takeWhile p
  (taken, ⟨c.rest.dropWhile p, c.line, c.column + taken.length, c.index + taken.length⟩)

/-- Passes over the characters on which a property holds. -/
def skipWhile (c : Cursor) (p : Char → Bool) : Cursor := (c.takeWhile p).2

/-- Takes a line break, if one is ahead. It counts as a line feed, unless it is a separator. -/
def takeBreak (c : Cursor) : List Char × Cursor :=
  match c.rest with
  | '\r' :: '\n' :: rest => (['\n'], ⟨rest, c.line + 1, 0, c.index + 2⟩)
  | x :: rest =>
    if x == '\r' || x == '\n' || x.toNat == 0x85 then (['\n'], ⟨rest, c.line + 1, 0, c.index + 1⟩)
    else if isBreak x then ([x], ⟨rest, c.line + 1, 0, c.index + 1⟩)
    else ([], c)
  | [] => ([], c)

/-- True where a line starts with a document marker. -/
def atMarker (c : Cursor) (marker : Char) : Bool :=
  c.column == 0 && c.rest.take 3 == [marker, marker, marker] && c.blankOrEnd 3

/-- True where a line starts with either document marker. -/
def atAnyMarker (c : Cursor) : Bool := c.atMarker '-' || c.atMarker '.'

end Cursor

end StackExport.Yaml
