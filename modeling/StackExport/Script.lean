import StackExport.Declaration
/-!
A configuration as a list of lines, numbered from one on.
-/
namespace StackExport

/-- The lines of a configuration. -/
structure Script where
  lines : List String
deriving DecidableEq, Repr

/-- Why a line cannot be reached. -/
inductive ScriptError where
  | lineOutOfRange (line count : Nat)
  | invalidRange (first last : Nat)
deriving DecidableEq, Repr

/-- The message for a line that cannot be reached. -/
def ScriptError.message : ScriptError → String
  | .lineOutOfRange line count =>
    "invalid line " ++ toString line ++ " in HCL document of " ++ toString count ++ " lines"
  | .invalidRange first last =>
    "invalid line range " ++ toString first ++ "..=" ++ toString last

namespace Script

/-- The lines of a text. -/
def ofText (text : String) : Script := ⟨Text.lines text⟩

/-- The text with a line end behind every line. -/
def text (s : Script) : String := String.join (s.lines.map (· ++ "\n"))

/-- The number of lines. -/
def size (s : Script) : Nat := s.lines.length

def checkLine (s : Script) (line : Nat) : Except ScriptError Unit :=
  if line = 0 ∨ s.size < line then .error (.lineOutOfRange line s.size) else .ok ()

/-- The line with a number. -/
def get (s : Script) (line : Nat) : Except ScriptError String := do
  s.checkLine line
  return s.lines.getD (line - 1) ""

/-- Replaces the line with a number. -/
def set (s : Script) (line : Nat) (text : String) : Except ScriptError Script := do
  s.checkLine line
  return ⟨s.lines.set (line - 1) text⟩

/-- Removes the lines from `first` through `last`. -/
def removeLines (s : Script) (first last : Nat) : Except ScriptError Script := do
  if last < first then throw (.invalidRange first last)
  s.checkLine first
  s.checkLine last
  return ⟨s.lines.take (first - 1) ++ s.lines.drop last⟩

/-- Removes ranges one by one, from the last one up. Also returns what is left when a range cannot
be removed. -/
def removeEach (s : Script) : List (Nat × Nat) → Except ScriptError Unit × Script
  | [] => (.ok (), s)
  | (first, last) :: rest =>
    match s.removeLines first last with
    | .ok s => s.removeEach rest
    | .error e => (.error e, s)

/-- Removes ranges of lines, those further down first, so that the numbers of the others keep their
meaning. The ranges that were removed before a fault stay removed. -/
def removeRanges (s : Script) (ranges : List (Nat × Nat)) : Except ScriptError Unit × Script :=
  s.removeEach (ranges.mergeSort fun a b => b.1 ≤ a.1)

/-! ### References to variables -/

/-- True for a line that assigns the default of a variable. -/
def isDefaultLine (line : String) : Bool :=
  match Text.dropStart? "default" (Text.trimStart line) with
  | some rest => (Text.trimStart rest).startsWith "="
  | none => false

/-- Puts a variable in place of a literal in one line. -/
def referLine (literal reference line : String) : Option String :=
  if isDefaultLine line || !Text.contains line literal then none
  else some (Text.replaceAll literal reference line)

/-- Puts a variable in place of the literals that equal its default. Also returns the number of
lines that changed. -/
def referTo (v : Variable) (s : Script) : Script × Nat :=
  match v.type, v.default with
  | .string, some default =>
    if default.isEmpty then (s, 0)
    else
      let changed := s.lines.map fun line =>
        (line, referLine ("\"" ++ default ++ "\"") v.address line)
      (⟨changed.map fun (line, new) => new.getD line⟩, changed.countP fun (_, new) => new.isSome)
  | _, _ => (s, 0)

/-- Puts variables in place of the literals that equal their defaults, one variable after the other.
Also returns the number of changes. -/
def referToAll (s : Script) (inputs : List Variable) : Script × Nat :=
  inputs.foldl (fun (s, count) v =>
    let (s, changed) := s.referTo v
    (s, count + changed)) (s, 0)

end Script

end StackExport
