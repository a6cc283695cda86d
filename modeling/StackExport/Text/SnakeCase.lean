import StackExport.Text.Alphanumeric
import StackExport.Text.LetterCase
import StackExport.Text.Pieces
/-!
Snake case: the words of a name in lower case, joined by underscores.

Words end where a character is neither letter nor digit, where an upper-case character follows a
lower-case one, and before the last upper-case character of a run that a lower-case one follows.
-/
namespace StackExport.Text

/-- The case of the last cased character of a word under way. -/
inductive WordMode where
  | boundary
  | lowercase
  | uppercase
deriving DecidableEq

/-- Cuts a run of letters and digits into words. `word` is the word under way, in reverse. -/
def cutWords (mode : WordMode) (word : List Char) : List Char → List (List Char)
  | [] => if word.isEmpty then [] else [word.reverse]
  | [c] => [(c :: word).reverse]
  | c :: next :: rest =>
    let nextMode :=
      if isLowercase c then .lowercase else if isUppercase c then .uppercase else mode
    if nextMode == .lowercase && isUppercase next then
      (c :: word).reverse :: cutWords .boundary [] (next :: rest)
    else if mode == .uppercase && isUppercase c && isLowercase next then
      word.reverse :: cutWords .boundary [c] (next :: rest)
    else cutWords nextMode (c :: word) (next :: rest)

/-- A word in lower case; a capital sigma at its end becomes a final sigma. -/
def lowercaseWord : List Char → List Char
  | [] => []
  | [c] => if c.toNat == 0x3A3 then [Char.ofNat 0x3C2] else lowercase c
  | c :: rest => lowercase c ++ lowercaseWord rest

/-- The words of a name. -/
def snakeWords (cs : List Char) : List (List Char) :=
  (splitWhere (!isAlphanumeric ·) cs).flatMap (cutWords .boundary [])

def snakeCase (name : String) : String :=
  String.intercalate "_" ((snakeWords name.toList).map fun w => String.ofList (lowercaseWord w))

end StackExport.Text
