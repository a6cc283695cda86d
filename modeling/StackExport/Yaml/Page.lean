import StackExport.Yaml.Value
/-!
Writing YAML text: the page that is written on, and the forms of scalars on it.

A text may be written plain where it does not read as anything else. It is put in single quotes
otherwise, in double quotes where it holds what only an escape can show, and on lines of its own
where it has line feeds.
-/
namespace StackExport.Yaml

/-- A page that is being written. -/
structure Page where
  /-- What is written, in reverse. -/
  written : List Char
  column : Nat
  /-- True where no blank is needed before a word. -/
  spaced : Bool
  /-- True where the line holds blanks and marks of structure only. -/
  fresh : Bool

namespace Page

/-- The empty page. -/
def start : Page := ⟨[], 0, true, true⟩

def text (p : Page) : String := String.ofList p.written.reverse

/-- Writes a character inside a line. -/
def put (p : Page) (c : Char) : Page := { p with written := c :: p.written, column := p.column + 1 }

/-- Writes characters inside a line. -/
def putAll (p : Page) (cs : List Char) : Page := cs.foldl put p

def breakLine (p : Page) (c : Char) : Page := { p with written := c :: p.written, column := 0 }

/-- Writes a blank where one is needed before a word. -/
def space (p : Page) : Page := if p.spaced then p else p.put ' '

/-- Goes to an indentation, on a new line unless the line is fresh and not beyond it. -/
def indent (p : Page) (n : Nat) : Page :=
  let p :=
    if !p.fresh || n < p.column || (p.column == n && !p.spaced) then p.breakLine '\n' else p
  { p.putAll (List.replicate (n - p.column) ' ') with spaced := true, fresh := true }

/-- Writes a mark. A mark of structure leaves a fresh line fresh. -/
def mark (p : Page) (text : String) (structural : Bool) : Page :=
  { p.putAll text.toList with spaced := false, fresh := p.fresh && structural }

/-- Writes a word. -/
def word (p : Page) (cs : List Char) : Page :=
  { p.space.putAll cs with spaced := false, fresh := false }

end Page

/-! ### Tags -/

/-- A character that stands for itself in a written tag. -/
def isTagChar (c : Char) : Bool :=
  isWordChar c || ";/?:@&=+$,.~*'()[]".toList.contains c

/-- The digits of a number to the base sixteen, with zeros in front up to a width. -/
def hexDigits (width n : Nat) : List Char :=
  let digits := (Nat.toDigits 16 n).map Char.toUpper
  List.replicate (width - digits.length) '0' ++ digits

/-- The written form of a part of a tag. -/
def escapedTag (cs : List Char) : List Char :=
  cs.flatMap fun c =>
    if isTagChar c then [c]
    else (String.singleton c).toUTF8.toList.flatMap fun byte => '%' :: hexDigits 2 byte.toNat

/-- The written form of a tag, which starts with an exclamation mark. One that is nothing else is
put in angle brackets. -/
def tagText (tag : String) : List Char :=
  match tag.toList with
  | ['!'] => "!<%21>".toList
  | cs => '!' :: escapedTag (cs.drop 1)

/-! ### Scalars -/

/-- How a scalar is written. -/
inductive ScalarStyle where
  | plain
  | singleQuoted
  | doubleQuoted
  | literal
deriving DecidableEq

/-- A character that is shown without an escape. -/
def isShown (c : Char) : Bool :=
  let n := c.toNat
  n == 0x0A || (0x20 ≤ n && n ≤ 0x7E) || (0xA0 ≤ n && n ≤ 0xD7FF) ||
    (0xE000 ≤ n && n ≤ 0xFFFD && n != 0xFEFF) || 0x10000 ≤ n

/-- True at the end of a word. -/
def endsWord : List Char → Bool
  | [] => true
  | c :: _ => isBlank c || isBreak c || c.toNat == 0

/-- True when some two characters in a row have the given properties. -/
def anyPair (p q : Char → Bool) (cs : List Char) : Bool :=
  (cs.zip (cs.drop 1)).any fun (a, b) => p a && q b

/-- True when the start of a text does not let it be plain. -/
def startsMarked : List Char → Bool
  | '-' :: '-' :: '-' :: _ => true
  | '.' :: '.' :: '.' :: _ => true
  | c :: rest =>
    "#,[]\x7b\x7d&*!|>'\"%@`".toList.contains c ||
      ((c == '?' || c == ':' || c == '-') && endsWord rest)
  | [] => false

/-- True when a colon ends a word behind the start of a text, or a number sign starts one. -/
def hasMark (before : Char) : List Char → Bool
  | [] => false
  | c :: rest =>
    (c == ':' && endsWord rest) || (c == '#' && endsWord [before]) || hasMark c rest

/-- What a text lets its written form be. -/
structure ScalarTraits where
  multiline : Bool
  plain : Bool
  singleQuoted : Bool
  literal : Bool

/-- What a text lets its written form be. -/
def scalarTraits (cs : List Char) : ScalarTraits :=
  match cs with
  | [] => ⟨false, true, true, false⟩
  | first :: rest =>
    let space := (· == ' ')
    let multiline := cs.any isBreak
    let bounded := fun c => space c || isBreak c
    let hidden := cs.any (!isShown ·) || anyPair space isBreak cs
    let padded := bounded first || cs.getLast?.any bounded
    let marked := startsMarked cs || hasMark first rest
    ⟨multiline, !(hidden || padded || marked || multiline), !(hidden || anyPair isBreak space cs),
      !(hidden || cs.getLast?.any space)⟩

/-- The style that a text asks for: one that reads as something else is put in quotes. -/
def askedStyle (s : String) : ScalarStyle :=
  if s.toList.contains '\n' then .literal
  else
    match readPlain s with
    | some (.string _) => if isZeroPadded s then .singleQuoted else .plain
    | _ => .singleQuoted

/-- The style in which a text can be written, when another is asked for. A key in front of its colon
stays in one line. -/
def possibleStyle (t : ScalarTraits) (simpleKey : Bool) (asked : ScalarStyle) : ScalarStyle :=
  let quoted := if t.singleQuoted then ScalarStyle.singleQuoted else .doubleQuoted
  if simpleKey && t.multiline then .doubleQuoted
  else
    match asked with
    | .plain => if t.plain then .plain else quoted
    | .singleQuoted => quoted
    | .doubleQuoted => .doubleQuoted
    | .literal => if t.literal && !simpleKey then .literal else .doubleQuoted

def escapeLetter? (c : Char) : Option Char :=
  match c.toNat with
  | 0x00 => some '0'
  | 0x07 => some 'a'
  | 0x08 => some 'b'
  | 0x09 => some 't'
  | 0x0A => some 'n'
  | 0x0B => some 'v'
  | 0x0C => some 'f'
  | 0x0D => some 'r'
  | 0x1B => some 'e'
  | 0x22 => some '"'
  | 0x5C => some '\\'
  | 0x85 => some 'N'
  | 0xA0 => some '_'
  | 0x2028 => some 'L'
  | 0x2029 => some 'P'
  | _ => none

def doubleQuotedChar (c : Char) : List Char :=
  if isShown c && !isBreak c && c != '"' && c != '\\' then [c]
  else
    match escapeLetter? c with
    | some letter => ['\\', letter]
    | none =>
      let n := c.toNat
      if n ≤ 0xFF then '\\' :: 'x' :: hexDigits 2 n
      else if n ≤ 0xFFFF then '\\' :: 'u' :: hexDigits 4 n
      else '\\' :: 'U' :: hexDigits 8 n

/-- The marks behind the one of a scalar on lines of its own: how far it is indented, if its own
start does not tell, and what is kept of its last line breaks. -/
def literalMarks (cs : List Char) : List Char :=
  let indentation := if cs.head?.any fun c => c == ' ' || isBreak c then ['2'] else []
  let ending := match cs.reverse with
    | last :: before =>
      if !isBreak last then ['-']
      else
        match before with
        | [] => ['+']
        | c :: _ => if isBreak c then ['+'] else []
    | [] => ['-']
  indentation ++ ending

namespace Page

/-- Writes the characters of a scalar that may have line breaks; `broken` tells that one comes
before them. A line feed that starts the breaks in quotes is doubled, because a single one reads as
a blank. -/
def lines (quoted : Bool) (n : Nat) : (broken : Bool) → List Char → Page → Page
  | broken, [], p => if quoted && broken then p.indent n else p
  | broken, c :: rest, p =>
    if isBreak c then
      let p := if quoted && !broken && c == '\n' then p.breakLine '\n' else p
      lines quoted n true rest { p.breakLine c with fresh := true }
    else
      let p := if broken then p.indent n else p
      let p := if quoted && c == '\'' then p.put '\'' else p
      lines quoted n false rest { p.put c with fresh := false }

/-- Writes a scalar; its own lines are indented by `n`. -/
def scalar (p : Page) (style : ScalarStyle) (n : Nat) (cs : List Char) : Page :=
  match style with
  | .plain => p.word cs
  | .doubleQuoted => p.word (['"'] ++ cs.flatMap doubleQuotedChar ++ ['"'])
  | .singleQuoted => (lines true n false cs (p.word ['\''])).mark "'" false
  | .literal =>
    let p := (p.word ('|' :: literalMarks cs)).breakLine '\n'
    lines false n true cs { p with spaced := true, fresh := true }

end Page

end StackExport.Yaml
