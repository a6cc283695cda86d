import StackExport.Yaml.Cursor
/-!
The tokens of a YAML text.

Indentation becomes explicit: a block collection has a token for its start and one for its end. A
key that is not marked by a question mark is recognised only at the colon behind it; its token is
then put in front of the tokens that the key consists of.
-/
namespace StackExport.Yaml

/-- The lexical elements of a text. -/
inductive Token where
  | streamEnd
  | version (major minor : Nat)
  /-- What a handle stands for, in bytes. -/
  | tagDirective (handle : String) (start : List UInt8)
  | documentStart
  | documentEnd
  | blockSequenceStart
  | blockMappingStart
  | blockEnd
  | flowSequenceStart
  | flowSequenceEnd
  | flowMappingStart
  | flowMappingEnd
  | blockEntry
  | flowEntry
  | key
  | value
  | alias (name : String)
  | anchor (name : String)
  /-- A handle, which is empty for a tag in its long form, and the bytes behind it. -/
  | tag (handle : String) (suffix : List UInt8)
  | scalar (text : String) (plain : Bool)
deriving DecidableEq, Repr

/-! ### Scalars -/

/-- How the breaks and blanks between two parts of a scalar are joined: a single line feed becomes
a blank, and further ones stay. -/
structure Fold where
  blanks : List Char
  leading : List Char
  trailing : List Char
  /-- True once a line break has been passed. -/
  broken : Bool

namespace Fold

/-- Nothing passed yet. -/
def none : Fold := ⟨[], [], [], false⟩

/-- The characters that stand for what was passed. -/
def text (f : Fold) : List Char :=
  if f.broken then
    if f.leading.head? == some '\n' then
      if f.trailing.isEmpty then [' '] else f.trailing
    else f.leading ++ f.trailing
  else f.blanks

end Fold

/-- Passes over blanks and line breaks. With a `limit`, a tab in the indentation before that column
is an error. -/
def passBlanks (limit : Option Nat) : (fuel : Nat) → Cursor → Fold → Option (Cursor × Fold)
  | 0, c, f => some (c, f)
  | fuel + 1, c, f =>
    match c.rest with
    | x :: _ =>
      if isBlank x then
        if f.broken then
          match limit with
          | some n =>
            if x == '\t' && c.column < n then .none else passBlanks limit fuel c.skip f
          | .none => passBlanks limit fuel c.skip f
        else passBlanks limit fuel c.skip { f with blanks := f.blanks ++ [x] }
      else if isBreak x then
        let (text, c) := c.takeBreak
        if f.broken then passBlanks limit fuel c { f with trailing := f.trailing ++ text }
        else passBlanks limit fuel c ⟨[], text, f.trailing, true⟩
      else some (c, f)
    | [] => some (c, f)

/-- The value of a hexadecimal digit. -/
def hexDigit? (c : Char) : Option Nat :=
  let n := c.toNat
  if 48 ≤ n && n ≤ 57 then some (n - 48)
  else if 97 ≤ n && n ≤ 102 then some (n - 87)
  else if 65 ≤ n && n ≤ 70 then some (n - 55)
  else none

/-- The number that hexadecimal digits stand for. -/
def hexNumber? (cs : List Char) : Option Nat :=
  cs.foldlM (fun n c => (hexDigit? c).map (n * 16 + ·)) 0

/-- The character with a code, unless the code is a surrogate or too large. -/
def charOf? (n : Nat) : Option Char :=
  if (0xD800 ≤ n && n ≤ 0xDFFF) || 0x10FFFF < n then none else some (Char.ofNat n)

/-- The character behind a one-letter escape of a double-quoted scalar. -/
def escaped? : Char → Option Char
  | '0' => some (Char.ofNat 0)
  | 'a' => some (Char.ofNat 7)
  | 'b' => some (Char.ofNat 8)
  | 't' => some '\t'
  | '\t' => some '\t'
  | 'n' => some '\n'
  | 'v' => some (Char.ofNat 11)
  | 'f' => some (Char.ofNat 12)
  | 'r' => some '\r'
  | 'e' => some (Char.ofNat 27)
  | ' ' => some ' '
  | '"' => some '"'
  | '/' => some '/'
  | '\\' => some '\\'
  | 'N' => some (Char.ofNat 0x85)
  | '_' => some (Char.ofNat 0xA0)
  | 'L' => some (Char.ofNat 0x2028)
  | 'P' => some (Char.ofNat 0x2029)
  | _ => none

/-- How many hexadecimal digits an escape letter takes. -/
def escapeWidth? : Char → Option Nat
  | 'x' => some 2
  | 'u' => some 4
  | 'U' => some 8
  | _ => none

/-- Reads an escape from behind its backslash. -/
def scanEscape (c : Cursor) : Option (Char × Cursor) :=
  match c.rest with
  | [] => none
  | x :: rest =>
    match escapeWidth? x with
    | some n =>
      let digits := rest.take n
      if digits.length < n then none
      else do
        let code ← hexNumber? digits
        let ch ← charOf? code
        return (ch, c.skipMany (n + 1))
    | none => (escaped? x).map fun ch => (ch, c.skip)

/-- Reads the part of a quoted scalar up to the next blank, line break or closing quote, with its
characters in reverse. The flag tells that it ended in an escaped line break. -/
def scanQuotedPart (single : Bool) :
    (fuel : Nat) → Cursor → List Char → Option (List Char × Cursor × Bool)
  | 0, c, taken => some (taken, c, false)
  | fuel + 1, c, taken =>
    match c.rest with
    | [] => some (taken, c, false)
    | x :: rest =>
      if isBlank x || isBreak x then some (taken, c, false)
      else if single then
        if x == '\'' then
          if rest.head? == some '\'' then
            scanQuotedPart single fuel (c.skipMany 2) ('\'' :: taken)
          else some (taken, c, false)
        else scanQuotedPart single fuel c.skip (x :: taken)
      else if x == '"' then some (taken, c, false)
      else if x == '\\' then
        if c.check 1 isBreak then some (taken, c.skip.takeBreak.2, true)
        else
          match scanEscape c.skip with
          | some (ch, c) => scanQuotedPart single fuel c (ch :: taken)
          | none => none
      else scanQuotedPart single fuel c.skip (x :: taken)

/-- Reads a quoted scalar from behind its opening quote, with its characters in reverse. -/
def scanQuoted (single : Bool) :
    (fuel : Nat) → Cursor → List Char → Option (List Char × Cursor)
  | 0, _, _ => none
  | fuel + 1, c, taken =>
    if c.atAnyMarker || c.atEnd then none
    else
      match scanQuotedPart single fuel c taken with
      | none => none
      | some (taken, c, escapedBreak) =>
        if c.at? (if single then '\'' else '"') then some (taken, c.skip)
        else
          match passBlanks none fuel c { Fold.none with broken := escapedBreak } with
          | none => none
          | some (c, f) => scanQuoted single fuel c (f.text.reverse ++ taken)

/-- A character that ends a plain scalar inside a flow collection. -/
def isFlowIndicator (x : Char) : Bool :=
  x == ',' || x == '[' || x == ']' || x == '\x7b' || x == '\x7d'

/-- Reads the part of a plain scalar up to the next blank or line break, with its characters in
reverse. Inside a flow collection a colon directly before an indicator is an error. -/
def scanPlainPart (inFlow : Bool) :
    (fuel : Nat) → Cursor → List Char → Option (List Char × Cursor)
  | 0, c, taken => some (taken, c)
  | fuel + 1, c, taken =>
    match c.rest with
    | [] => some (taken, c)
    | x :: _ =>
      if isBlank x || isBreak x then some (taken, c)
      else if inFlow && x == ':' && c.check 1 (fun y => isFlowIndicator y || y == '?') then none
      else if (x == ':' && c.blankOrEnd 1) || (inFlow && isFlowIndicator x) then some (taken, c)
      else scanPlainPart inFlow fuel c.skip (x :: taken)

/-- Reads a plain scalar, with its characters in reverse; `passed` is what was passed since its
last part. The flag tells that the scalar ended behind a line break. -/
def scanPlain (inFlow : Bool) (indent : Nat) :
    (fuel : Nat) → Cursor → List Char → Fold → Option (List Char × Cursor × Bool)
  | 0, _, _, _ => none
  | fuel + 1, c, taken, passed =>
    if c.atAnyMarker || c.at? '#' then some (taken, c, passed.broken)
    else
      match scanPlainPart inFlow fuel c [] with
      | none => none
      | some (part, next) =>
        let moved := !part.isEmpty
        let taken := if moved then part ++ passed.text.reverse ++ taken else taken
        let passed := if moved then Fold.none else passed
        if !next.check 0 (fun x => isBlank x || isBreak x) then some (taken, next, passed.broken)
        else
          match passBlanks (some indent) fuel next passed with
          | none => none
          | some (c, passed) =>
            if !inFlow && c.column < indent then some (taken, c, passed.broken)
            else scanPlain inFlow indent fuel c taken passed

/-- What is kept of the line breaks at the end of a block scalar. -/
inductive Chomping where
  | strip
  | clip
  | keep
deriving DecidableEq

/-- Passes over the empty lines and the indentation in a block scalar. While the indentation is not
known it is the widest one passed. A tab in the indentation is an error. -/
def passIndentation :
    (fuel : Nat) → Cursor → (indent : Option Nat) → (widest : Nat) → List Char →
      Option (Cursor × Nat × List Char)
  | 0, _, _, _, _ => none
  | fuel + 1, c, indent, widest, breaks =>
    let c := match indent with
      | some n => c.skipMany (((c.rest.take (n - c.column)).takeWhile (· == ' ')).length)
      | none => c.skipWhile (· == ' ')
    let widest := max widest c.column
    let inside := match indent with
      | some n => decide (c.column < n)
      | none => true
    if inside && c.at? '\t' then none
    else if c.check 0 isBreak then
      let (text, c) := c.takeBreak
      passIndentation fuel c indent widest (breaks ++ text)
    else some (c, widest, breaks)

/-- Reads the lines of a block scalar. `leading` is the break behind the last line and `trailing`
those of the empty lines after it. -/
def scanBlockLines (literal : Bool) (indent : Nat) :
    (fuel : Nat) → Cursor → (taken leading trailing : List Char) → (blankLine : Bool) →
      Option (List Char × List Char × List Char × Cursor)
  | 0, _, _, _, _, _ => none
  | fuel + 1, c, taken, leading, trailing, blankLine =>
    if c.column != indent || c.atEnd then some (taken, leading, trailing, c)
    else
      let startsBlank := c.check 0 isBlank
      let joint :=
        if !literal && leading.head? == some '\n' && !blankLine && !startsBlank then
          if trailing.isEmpty then [' '] else trailing
        else leading ++ trailing
      let (text, c) := c.takeWhile (!isBreak ·)
      let (leading, c) := c.takeBreak
      match passIndentation fuel c (some indent) 0 [] with
      | none => none
      | some (c, _, trailing) =>
        scanBlockLines literal indent fuel c (taken ++ joint ++ text) leading trailing startsBlank

/-- The indicators behind the mark of a block scalar: what happens to its last line breaks, and how
much further than its parent it is indented. -/
def scanBlockHeader (c : Cursor) : Option (Chomping × Option Nat × Cursor) :=
  let chomping? (c : Cursor) : Option (Chomping × Cursor) :=
    if c.at? '+' then some (.keep, c.skip) else if c.at? '-' then some (.strip, c.skip) else none
  let width? (c : Cursor) : Option (Option Nat × Cursor) :=
    match c.rest.head? with
    | some x =>
      if x == '0' then none
      else if x.isDigit then some (some (x.toNat - '0'.toNat), c.skip)
      else some (none, c)
    | none => some (none, c)
  match chomping? c with
  | some (chomping, c) => (width? c).map fun (width, c) => (chomping, width, c)
  | none =>
    match width? c with
    | none => none
    | some (none, c) => some (.clip, none, c)
    | some (some width, c) =>
      match chomping? c with
      | some (chomping, c) => some (chomping, some width, c)
      | none => some (.clip, some width, c)

/-- Passes over blanks, a comment and the line break behind them; anything else on the line is an
error. -/
def finishLine (c : Cursor) : Option Cursor :=
  let c := c.skipWhile isBlank
  let c := if c.at? '#' then c.skipWhile (!isBreak ·) else c
  if c.breakOrEnd 0 then some c.takeBreak.2 else none

/-- Reads a block scalar from behind its mark, inside a collection with a given indentation. -/
def scanBlockScalar (limit : Nat) (literal : Bool) (parent : Int) (c : Cursor) :
    Option (String × Cursor) := do
  let (chomping, width, c) ← scanBlockHeader c
  let c ← finishLine c
  let known := width.map fun n => if 0 ≤ parent then parent.toNat + n else n
  let (c, widest, trailing) ← passIndentation limit c known 0 []
  let indent := known.getD (max (max widest (parent + 1).toNat) 1)
  let (text, leading, trailing, c) ←
    scanBlockLines literal indent limit c [] [] trailing false
  let ending := match chomping with
    | .strip => []
    | .clip => leading
    | .keep => leading ++ trailing
  return (String.ofList (text ++ ending), c)

/-! ### Properties and directives -/

/-- A character of a tag's address; inside angle brackets more are allowed. -/
def isUriChar (bracketed : Bool) (x : Char) : Bool :=
  isWordChar x || ";/?:@&=+$.!~*'()%".toList.contains x || (bracketed && ",[]".toList.contains x)

/-- How many bytes follow the first one of a character, or none for a byte that starts none. -/
def followers? (byte : Nat) : Option Nat :=
  if byte < 0x80 then some 0
  else if byte / 0x20 == 0x6 then some 1
  else if byte / 0x10 == 0xE then some 2
  else if byte / 0x8 == 0x1E then some 3
  else none

def scanEscapedByte (c : Cursor) : Option (Nat × Cursor) :=
  match c.rest with
  | '%' :: a :: b :: _ => (hexNumber? [a, b]).map fun n => (n, c.skipMany 3)
  | _ => none

/-- Reads the escaped bytes that go on with a character and puts them before those taken. -/
def scanFollowers : Nat → Cursor → List UInt8 → Option (List UInt8 × Cursor)
  | 0, c, taken => some (taken, c)
  | n + 1, c, taken =>
    match scanEscapedByte c with
    | some (byte, c) =>
      if byte / 0x40 == 0x2 then scanFollowers n c (.ofNat byte :: taken) else none
    | none => none

/-- Reads a tag's address, with its bytes in reverse. -/
def scanUri (bracketed : Bool) : (fuel : Nat) → Cursor → List UInt8 → Option (List UInt8 × Cursor)
  | 0, c, taken => some (taken, c)
  | fuel + 1, c, taken =>
    match c.rest with
    | x :: _ =>
      if x == '%' then
        match scanEscapedByte c with
        | some (byte, c) =>
          match (followers? byte).bind (scanFollowers · c (.ofNat byte :: taken)) with
          | some (taken, c) => scanUri bracketed fuel c taken
          | none => none
        | none => none
      else if isUriChar bracketed x then scanUri bracketed fuel c.skip (.ofNat x.toNat :: taken)
      else some (taken, c)
    | [] => some (taken, c)

/-- The bytes of an address, given in reverse. A zero byte ends it. -/
def addressBytes (taken : List UInt8) : List UInt8 := taken.reverse.takeWhile (· != 0)

/-- Reads a tag handle from its exclamation mark on. -/
def scanHandle (c : Cursor) : Option (List Char × Cursor) :=
  if c.at? '!' then
    let (word, c) := c.skip.takeWhile isWordChar
    if c.at? '!' then some ('!' :: word ++ ['!'], c.skip) else some ('!' :: word, c)
  else none

/-- Reads a tag from its exclamation mark on: its handle and what follows it. A lone exclamation
mark is a tag in its long form. -/
def scanTag (limit : Nat) (c : Cursor) : Option (String × List UInt8 × Cursor) := do
  if c.peek 1 == some '<' then
    let (uri, c) ← scanUri true limit (c.skipMany 2) []
    if uri.isEmpty || !c.at? '>' then none
    else return ("", addressBytes uri, c.skip)
  else
    let (handle, c) ← scanHandle c
    let (uri, c) ← scanUri false limit c []
    if 2 ≤ handle.length && handle.getLast? == some '!' then
      if uri.isEmpty then none
      else return (String.ofList handle, addressBytes uri, c)
    else
      let suffix := (handle.drop 1).map (fun x => UInt8.ofNat x.toNat) ++ addressBytes uri
      return if suffix.isEmpty then ("", "!".toUTF8.toList, c) else ("!", suffix, c)

/-- Reads a number of a version directive. -/
def scanVersionNumber (c : Cursor) : Option (Nat × Cursor) :=
  let (digits, c) := c.takeWhile Char.isDigit
  if digits.isEmpty || 9 < digits.length then none
  else some (digits.foldl (fun n d => n * 10 + (d.toNat - '0'.toNat)) 0, c)

/-- Reads a directive from behind its percent sign, with the line that it stands on. -/
def scanDirective (limit : Nat) (c : Cursor) : Option (Token × Cursor) := do
  let (name, c) := c.takeWhile isWordChar
  if !c.blankOrEnd 0 then none
  else if name == "YAML".toList then
    let (major, c) ← scanVersionNumber (c.skipWhile isBlank)
    if !c.at? '.' then none
    else
      let (minor, c) ← scanVersionNumber c.skip
      let c ← finishLine c
      return (.version major minor, c)
  else if name == "TAG".toList then
    let (handle, c) ← scanHandle (c.skipWhile isBlank)
    if handle.getLast? != some '!' || !c.check 0 isBlank then none
    else
      let c := c.skipWhile isBlank
      let (uri, c) ← scanUri true limit c []
      if uri.isEmpty || !c.blankOrEnd 0 then none
      else
        let c ← finishLine c
        return (.tagDirective (String.ofList handle) (addressBytes uri), c)
  else none

/-! ### The scanner -/

/-- A place where a key may have started. -/
structure KeyPlace where
  /-- A required key must turn out to be one: it stands at the indentation of its mapping. -/
  required : Bool
  /-- How many tokens there were before it. -/
  tokens : Nat
  line : Nat
  column : Nat
  index : Nat

/-- The state between two tokens. -/
structure Scanner where
  /-- More than the number of characters of the whole text. -/
  limit : Nat
  cursor : Cursor
  tokens : Array Token
  indent : Int
  /-- The indentations of the enclosing block collections. -/
  indents : List Int
  /-- Where a key may have started, for each open flow collection, the innermost first, and for the
  block around them. -/
  keys : List (Option KeyPlace)
  keyAllowed : Bool

namespace Scanner

/-- The state before the first token. -/
def start (text : String) : Scanner := ⟨text.length + 1, .ofText text, #[], -1, [], [none], true⟩

/-- True inside a flow collection. -/
def inFlow (s : Scanner) : Bool := 1 < s.keys.length

/-- Adds a token. -/
def emit (s : Scanner) (t : Token) : Scanner := { s with tokens := s.tokens.push t }

/-- Adds a token in front of all but the first `n`. -/
def emitAt (s : Scanner) (n : Nat) (t : Token) : Scanner :=
  { s with tokens := s.tokens.insertIdxIfInBounds n t }

/-- Passes over blanks, comments and line breaks. In block context a tab does not count as a blank
where a key may start. -/
def passGap : (fuel : Nat) → Scanner → Scanner
  | 0, s => s
  | fuel + 1, s =>
    let tabs := s.inFlow || !s.keyAllowed
    let c := s.cursor.skipWhile fun x => x == ' ' || (tabs && x == '\t')
    let c := if c.at? '#' then c.skipWhile (!isBreak ·) else c
    if c.check 0 isBreak then
      passGap fuel { s with cursor := c.takeBreak.2, keyAllowed := s.keyAllowed || !s.inFlow }
    else { s with cursor := c }

/-- Forgets where a key may have started; an error if that had to be a key. -/
def dropKey (s : Scanner) : Option Scanner :=
  match s.keys with
  | some place :: rest => if place.required then none else some { s with keys := none :: rest }
  | _ => some s

/-- Notes that a key may start here. -/
def noteKey (s : Scanner) : Option Scanner :=
  if s.keyAllowed then
    let required := !s.inFlow && s.indent == (s.cursor.column : Int)
    (s.dropKey).map fun s =>
      let place : KeyPlace :=
        ⟨required, s.tokens.size, s.cursor.line, s.cursor.column, s.cursor.index⟩
      { s with keys := some place :: s.keys.drop 1 }
  else some s

/-- The place where the key before a colon started. It must be on the same line and no more than
1024 characters away. -/
def keyHere (s : Scanner) : Option (Option KeyPlace) :=
  match s.keys with
  | some place :: _ =>
    if place.line < s.cursor.line || place.index + 1024 < s.cursor.index then
      if place.required then none else some none
    else some (some place)
  | _ => some none

/-- Opens a block collection at a column that is further in than the current indentation. -/
def indentTo (s : Scanner) (column : Nat) (place : Option Nat) (t : Token) : Scanner :=
  if !s.inFlow && s.indent < (column : Int) then
    let s := { s with indents := s.indent :: s.indents, indent := (column : Int) }
    match place with
    | some n => s.emitAt n t
    | none => s.emit t
  else s

/-- Closes the block collections that are further in than a column. -/
def closeTo (column : Int) : List Int → Scanner → Scanner
  | [], s => s
  | outer :: rest, s =>
    if s.indent > column then
      closeTo column rest ({ s with indent := outer, indents := rest }.emit .blockEnd)
    else s

/-- Closes the block collections that are further in than a column, outside flow collections. -/
def unindentTo (s : Scanner) (column : Int) : Scanner :=
  if s.inFlow then s else closeTo column s.indents s

/-- Ends all block collections, as a document marker does. -/
def endBlocks (s : Scanner) : Option Scanner :=
  ((s.unindentTo (-1)).dropKey).map fun s => { s with keyAllowed := false }

/-- Moves to another place. -/
def moveTo (s : Scanner) (c : Cursor) : Scanner := { s with cursor := c }

/-- Reads a document marker. -/
def marker (s : Scanner) (t : Token) : Option Scanner :=
  s.endBlocks.map fun s => (s.moveTo (s.cursor.skipMany 3)).emit t

/-- Reads the start of a flow collection. -/
def flowStart (s : Scanner) (t : Token) : Option Scanner :=
  s.noteKey.map fun s =>
    { (s.moveTo s.cursor.skip).emit t with keys := none :: s.keys, keyAllowed := true }

/-- Reads the end of a flow collection. -/
def flowEnd (s : Scanner) (t : Token) : Option Scanner :=
  s.dropKey.map fun s =>
    let keys := if s.inFlow then s.keys.drop 1 else s.keys
    { (s.moveTo s.cursor.skip).emit t with keys := keys, keyAllowed := false }

/-- Reads the comma of a flow collection. -/
def flowEntry (s : Scanner) : Option Scanner :=
  s.dropKey.map fun s =>
    { (s.moveTo s.cursor.skip).emit .flowEntry with keyAllowed := true }

/-- Reads the dash of a block sequence. -/
def blockEntry (s : Scanner) : Option Scanner := do
  if !s.inFlow && !s.keyAllowed then none
  else
    let s := s.indentTo s.cursor.column none .blockSequenceStart
    let s ← s.dropKey
    return { (s.moveTo s.cursor.skip).emit .blockEntry with keyAllowed := true }

/-- Reads the question mark before a key. -/
def markedKey (s : Scanner) : Option Scanner := do
  if !s.inFlow && !s.keyAllowed then none
  else
    let s := s.indentTo s.cursor.column none .blockMappingStart
    let s ← s.dropKey
    return { (s.moveTo s.cursor.skip).emit .key with keyAllowed := !s.inFlow }

/-- Reads the colon before a value. -/
def valueMark (s : Scanner) : Option Scanner := do
  match ← s.keyHere with
  | some place =>
    let s := s.emitAt place.tokens .key
    let s := s.indentTo place.column (some place.tokens) .blockMappingStart
    return { (s.moveTo s.cursor.skip).emit .value with
      keys := none :: s.keys.drop 1, keyAllowed := false }
  | none =>
    if !s.inFlow && !s.keyAllowed then none
    else
      let s := { s with keys := none :: s.keys.drop 1 }
      let s := s.indentTo s.cursor.column none .blockMappingStart
      return { (s.moveTo s.cursor.skip).emit .value with keyAllowed := !s.inFlow }

/-- Reads an anchor or an alias. -/
def named (s : Scanner) (t : String → Token) : Option Scanner := do
  let s ← s.noteKey
  let (name, c) := s.cursor.skip.takeWhile isWordChar
  if name.isEmpty || !(c.blankOrEnd 0 || c.check 0 ("?:,]\x7d%@`".toList.contains ·)) then none
  else return { (s.moveTo c).emit (t (String.ofList name)) with keyAllowed := false }

/-- Reads a tag. -/
def tagged (s : Scanner) : Option Scanner := do
  let s ← s.noteKey
  let (handle, suffix, c) ← scanTag s.limit s.cursor
  if c.blankOrEnd 0 || (s.inFlow && c.at? ',') then
    return { (s.moveTo c).emit (.tag handle suffix) with keyAllowed := false }
  else none

def blockScalar (s : Scanner) (literal : Bool) : Option Scanner := do
  let s ← s.dropKey
  let (text, c) ← scanBlockScalar s.limit literal s.indent s.cursor.skip
  return { (s.moveTo c).emit (.scalar text false) with keyAllowed := true }

def quotedScalar (s : Scanner) (single : Bool) : Option Scanner := do
  let s ← s.noteKey
  let (text, c) ← scanQuoted single s.limit s.cursor.skip []
  return { (s.moveTo c).emit (.scalar (String.ofList text.reverse) false) with keyAllowed := false }

/-- Reads a plain scalar. A key may start behind one that ends behind a line break. -/
def plainScalar (s : Scanner) : Option Scanner := do
  let s ← s.noteKey
  let (text, c, broken) ← scanPlain s.inFlow (s.indent + 1).toNat s.limit s.cursor []
    Fold.none
  return { (s.moveTo c).emit (.scalar (String.ofList text.reverse) true) with keyAllowed := broken }

/-- Characters that start no plain scalar. -/
def indicators : List Char := "-?:,[]\x7b\x7d#&*!|>'\"%@`".toList

/-- True where a plain scalar starts. -/
def atPlain (s : Scanner) (x : Char) : Bool :=
  !(isBlank x || isBreak x || indicators.contains x) ||
    (x == '-' && !s.cursor.check 1 isBlank) ||
    (!s.inFlow && (x == '?' || x == ':') && !s.cursor.blankOrEnd 1)

/-- Reads the token that starts with a character. -/
def next (s : Scanner) (x : Char) : Option Scanner :=
  let c := s.cursor
  if c.column == 0 && x == '%' then do
    let s ← s.endBlocks
    let (t, c) ← scanDirective s.limit c.skip
    return (s.moveTo c).emit t
  else if c.atMarker '-' then s.marker .documentStart
  else if c.atMarker '.' then s.marker .documentEnd
  else if x == '[' then s.flowStart .flowSequenceStart
  else if x == '\x7b' then s.flowStart .flowMappingStart
  else if x == ']' then s.flowEnd .flowSequenceEnd
  else if x == '\x7d' then s.flowEnd .flowMappingEnd
  else if x == ',' then s.flowEntry
  else if x == '-' && c.blankOrEnd 1 then s.blockEntry
  else if x == '?' && (s.inFlow || c.blankOrEnd 1) then s.markedKey
  else if x == ':' && (s.inFlow || c.blankOrEnd 1) then s.valueMark
  else if x == '*' then s.named .alias
  else if x == '&' then s.named .anchor
  else if x == '!' then s.tagged
  else if x == '|' && !s.inFlow then s.blockScalar true
  else if x == '>' && !s.inFlow then s.blockScalar false
  else if x == '\'' then s.quotedScalar true
  else if x == '"' then s.quotedScalar false
  else if s.atPlain x then s.plainScalar
  else none

/-- Reads tokens to the end of the text. Every token takes a character, so that the length of the
text bounds their number. -/
def run : (fuel : Nat) → Scanner → Option (Array Token)
  | 0, _ => none
  | fuel + 1, s =>
    let s := passGap s.limit s
    match s.cursor.rest with
    | [] => (s.endBlocks).map fun s => (s.emit .streamEnd).tokens
    | x :: _ =>
      let s := s.unindentTo (s.cursor.column : Int)
      match s.next x with
      | some s => run fuel s
      | none => none

end Scanner

/-- The tokens of a text, ending with that of its end. -/
def tokens? (text : String) : Option (List Token) :=
  if text.toList.all isPrintable then
    (Scanner.run (text.length + 2) (Scanner.start text)).map Array.toList
  else none

end StackExport.Yaml
