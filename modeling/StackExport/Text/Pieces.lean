/-!
Cutting texts into pieces: at characters, at line ends, and at the occurrences of other texts.

A line ends at a line feed; a carriage return directly before it belongs to the line end and not to
the line.
-/
namespace StackExport.Text

/-- The pieces between the characters on which `p` holds; one more piece than such characters. -/
def splitWhere (p : Char → Bool) : List Char → List (List Char)
  | [] => [[]]
  | c :: rest =>
    if p c then [] :: splitWhere p rest
    else
      match splitWhere p rest with
      | [] => [[c]]
      | piece :: pieces => (c :: piece) :: pieces

theorem splitWhere_ne_nil (p : Char → Bool) (cs : List Char) : splitWhere p cs ≠ [] := by
  cases cs with
  | nil => simp [splitWhere]
  | cons c cs =>
      unfold splitWhere
      split
      · simp
      · split <;> simp

theorem splitWhere_append (sep : Char) (cs rest : List Char) :
    splitWhere (· == sep) (cs ++ sep :: rest) =
      splitWhere (· == sep) cs ++ splitWhere (· == sep) rest := by
  induction cs with
  | nil => simp [splitWhere]
  | cons c cs ih =>
      rw [List.cons_append, splitWhere, ih, splitWhere]
      split
      · rfl
      · cases h : splitWhere (· == sep) cs with
        | nil => exact absurd h (splitWhere_ne_nil _ cs)
        | cons piece pieces => rfl

theorem splitWhere_of_not_mem {sep : Char} {cs : List Char} (h : sep ∉ cs) :
    splitWhere (· == sep) cs = [cs] := by
  induction cs with
  | nil => rfl
  | cons c cs ih =>
      obtain ⟨hc, hcs⟩ := not_or.mp (mt List.mem_cons.mpr h)
      have hne : (c == sep) = false := by simpa using Ne.symm hc
      rw [splitWhere, hne, ih hcs]
      rfl

/-- The pieces of a text between the occurrences of a character. -/
def splitAt (separator : Char) (s : String) : List String :=
  (splitWhere (· == separator) s.toList).map String.ofList

/-- A line without the carriage return that belongs to its end. -/
def dropReturn (line : List Char) : List Char :=
  match line.reverse with
  | '\r' :: rest => rest.reverse
  | _ => line

/-- The lines of a text. A last line feed ends a line and starts none. -/
def lines (s : String) : List String :=
  let pieces := splitWhere (· == '\n') s.toList
  let ended := pieces.dropLast.map dropReturn
  match pieces.getLast? with
  | none | some [] => ended.map String.ofList
  | some rest => (ended ++ [rest]).map String.ofList

/-- True when `needle` stands somewhere in `cs`. -/
def occursIn (needle : List Char) : List Char → Bool
  | [] => needle.isEmpty
  | c :: rest => needle.isPrefixOf (c :: rest) || occursIn needle rest

/-- True when `needle` stands somewhere in `s`. -/
def contains (s needle : String) : Bool :=
  occursIn needle.toList s.toList

/-- What stands before and after the first occurrence of `needle`. -/
def splitFirst (needle : List Char) : List Char → Option (List Char × List Char)
  | [] => if needle.isEmpty then some ([], []) else none
  | c :: rest =>
    if needle.isPrefixOf (c :: rest) then some ([], (c :: rest).drop needle.length)
    else (splitFirst needle rest).map fun (before, after) => (c :: before, after)

/-- What stands before and after the first occurrence of a character. -/
def splitOnce? (separator : Char) (s : String) : Option (String × String) :=
  (splitFirst [separator] s.toList).map fun (before, after) =>
    (String.ofList before, String.ofList after)

/-- The text after `start`, if the text begins with it. -/
def dropStart? (start s : String) : Option String :=
  if start.toList.isPrefixOf s.toList then some (String.ofList (s.toList.drop start.length))
  else none

/-- The text before `tail`, if the text ends with it. -/
def dropEnd? (tail s : String) : Option String :=
  let cs := s.toList.reverse
  if tail.toList.reverse.isPrefixOf cs then some (String.ofList (cs.drop tail.length).reverse)
  else none

/-- The pieces of a text between the occurrences of a delimiter, of which there are no more than
`fuel`. -/
def piecesOn (delimiter : List Char) : (fuel : Nat) → List Char → List (List Char)
  | 0, cs => [cs]
  | fuel + 1, cs =>
    match splitFirst delimiter cs with
    | some (before, after) => before :: piecesOn delimiter fuel after
    | none => [cs]

/-- The pieces of a text between the occurrences of a delimiter. The empty delimiter stands before
and after every character. -/
def splitOn (delimiter s : String) : List String :=
  if delimiter.isEmpty then "" :: s.toList.map String.singleton ++ [""]
  else (piecesOn delimiter.toList s.length s.toList).map String.ofList

/-- The text with every occurrence of a text, which must not be empty, replaced by another. -/
def replaceAll (old new s : String) : String :=
  String.intercalate new (splitOn old s)

end StackExport.Text
