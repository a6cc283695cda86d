import StackExport.Repair.Problem
import StackExport.Script
import StackExport.Text.WordCharacter
/-!
Fixing a configuration line by line, as reports ask for it.
-/
namespace StackExport

/-- A line that starts with a token without quotes. -/
structure Bareword where
  indent : List Char
  token : List Char
  /-- What follows the token and the blanks behind it. -/
  rest : List Char
deriving DecidableEq, Repr

namespace Bareword

/-- The token of so many characters at the start of a text, between characters that are no
quotes. -/
def ofLength (cs : List Char) (length : Nat) : Option (List Char × List Char) :=
  match cs.head?, cs[length - 1]? with
  | some first, some last =>
    if first != '"' && last != '"' then some (cs.take length, cs.drop length) else none
  | _, _ => none

/-- The longest token behind an indentation of so many characters. A token has at least three
characters: any two, no quotes, around characters that are not blank. -/
def withIndent (line : List Char) (width : Nat) : Option Bareword :=
  let cs := line.drop width
  let inner := ((cs.drop 1).takeWhile (!Text.isBlank ·)).length
  (((List.range inner).reverse).findSome? fun n => ofLength cs (n + 3)).map fun (token, rest) =>
    ⟨line.take width, token, rest.dropWhile Text.isBlank⟩

/-- The token at the start of a line, behind as wide an indentation as there can be. -/
def ofLine (line : String) : Option Bareword :=
  let cs := line.toList
  let width := (cs.takeWhile Text.isBlank).length
  ((List.range (width + 1)).reverse).findSome? (withIndent cs)

/-- The line with its token in quotes. -/
def quoted (b : Bareword) : String :=
  String.ofList b.indent ++ "\"" ++ Text.trim (String.ofList b.token) ++ "\" " ++
    String.ofList b.rest

end Bareword

namespace Script

def isBlockEnd (line : String) : Bool := Text.trim line == "\x7d"

/-- The number of the first line behind a given one that closes a block. -/
def blockEnd? (s : Script) (line : Nat) : Option Nat :=
  ((s.lines.drop line).findIdx? isBlockEnd).map (line + 1 + ·)

end Script

namespace Problem

/-- The type of the resource around the text that a report is about. -/
def resourceType? (p : Problem) : Option String := do
  let context ← (← p.snippet).context
  let rest ← Text.dropStart? "resource" context
  match rest.toList with
  | c :: cs =>
    if Text.isBlank c then
      match cs.dropWhile Text.isBlank with
      | '"' :: name =>
        let type := name.takeWhile Text.isWordCharacter
        if !type.isEmpty && (name.dropWhile Text.isWordCharacter).head? == some '"' then
          some (String.ofList type)
        else none
      | _ => none
    else none
  | [] => none

/-- True for code that starts with the opening of a block of expiry settings. -/
def opensTtl (code : String) : Bool :=
  match Text.dropStart? "ttl" (Text.trimStart code) with
  | some rest =>
    match rest.toList with
    | c :: cs => Text.isBlank c && (cs.dropWhile Text.isBlank).head? == some '{'
    | [] => false
  | none => false

/-- Puts the token at the start of a line in quotes. -/
def quoteToken (p : Problem) (s : Script) : Option Script := do
  let line ← p.line
  let text ← (s.get line).toOption
  let bareword ← Bareword.ofLine text
  (s.set line bareword.quoted).toOption

/-- Removes the lines that a report is about. -/
def removeReported (p : Problem) (s : Script) : Option Script := do
  let range ← p.range
  (s.removeLines range.first.line range.last.line).toOption

/-- Removes a block of expiry settings, which cannot be written without the name of its
attribute. -/
def removeTtl (p : Problem) (s : Script) : Option Script := do
  let snippet ← p.snippet
  if !opensTtl snippet.code then none
  let first ← p.line
  let last ← s.blockEnd? first
  (s.removeLines first last).toOption

/-- The type of tables with expiry settings. -/
def tableType : String := "aws_dynamodb_table"

/-- The script with the fix that a report asks for, if there is one. -/
def fix? (p : Problem) (s : Script) : Option Script :=
  match p.kind with
  | .missingAttributeSeparator => p.quoteToken s
  | .unconfigurableAttribute | .invalidOrUnknownKey => p.removeReported s
  | .missingRequiredArgument => if p.resourceType? == some tableType then p.removeTtl s else none
  | .unrecognized => none

end Problem

end StackExport
