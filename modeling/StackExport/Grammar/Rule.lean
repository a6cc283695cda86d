import StackExport.Decimal.Reader
import StackExport.Grammar.Word
/-!
Rules, which read the parts of a configuration from the text ahead.

Where the text does not hold the part that a rule reads, the rule retreats, and another one may be
tried at the place where it began. Where the text is broken, reading stops for good.
-/
namespace StackExport.Grammar

/-- A part of an expression that is not layout. Expressions with the same signs differ in their
layout only. -/
inductive Sign where
  | mark (text : String)
  /-- The minus of an operand. -/
  | negation
  | name (text : String)
  | letter (c : Char)
  | integer (value : Int)
  /-- A number with a fraction, given by its bits. -/
  | fraction (bits : UInt64)
deriving DecidableEq, Repr

/-- How far a text is read. -/
structure Reading where
  ahead : List Char
  /-- The signs that are read, the last one first. -/
  signs : List Sign

/-- How reading a part of a text ends. -/
inductive Outcome (α : Type) where
  | found (value : α) (reading : Reading)
  | retreat
  /-- The text is broken where the given part of it begins. -/
  | stop (ahead : List Char)

/-- What reads a part of a text. -/
def Rule (α : Type) : Type := Reading → Outcome α

namespace Rule

variable {α : Type}

instance : Monad Rule where
  pure a := fun r => .found a r
  bind rule next := fun r =>
    match rule r with
    | .found a r => next a r
    | .retreat => .retreat
    | .stop ahead => .stop ahead

/-- The part that the rule is to read is not there. -/
def retreat : Rule α := fun _ => .retreat

/-- The text is broken here. -/
def stop : Rule α := fun r => .stop r.ahead

/-- The text is broken where the given part of it begins. -/
def stopAt (ahead : List Char) : Rule α := fun _ => .stop ahead

/-- The text ahead. -/
def ahead : Rule (List Char) := fun r => .found r.ahead r

/-- Goes on, or back, to where the given part of the text begins. -/
def moveTo (ahead : List Char) : Rule Unit := fun r => .found () { r with ahead }

def note (sign : Sign) : Rule Unit := fun r => .found () { r with signs := sign :: r.signs }

/-- Reads a part that has to be there. -/
def insist (rule : Rule α) : Rule α := fun r =>
  match rule r with
  | .retreat => .stop r.ahead
  | outcome => outcome

/-- Reads a part that may be there. -/
def optional (rule : Rule α) : Rule (Option α) := fun r =>
  match rule r with
  | .found a r => .found (some a) r
  | .retreat => .found none r
  | .stop ahead => .stop ahead

/-- Reads a part, and answers with its signs as well, the last one first. -/
def withSigns (rule : Rule α) : Rule (α × List Sign) := fun r =>
  match rule { r with signs := [] } with
  | .found a part => .found (a, part.signs) { part with signs := part.signs ++ r.signs }
  | .retreat => .retreat
  | .stop ahead => .stop ahead

/-- Skips blanks and comments, and where the gap is wide also line ends. -/
def gap (wide : Bool) : Rule Unit := fun r =>
  .found () { r with ahead := skipGap wide r.ahead }

/-- Reads what a partial function on the text ahead reads. -/
def ofTake (take? : List Char → Option (α × List Char)) : Rule α := fun r =>
  match take? r.ahead with
  | some (a, ahead) => .found a { r with ahead }
  | none => .retreat

/-- Reads a mark. -/
def mark (text : String) : Rule Unit := do
  ofTake fun ahead => (behind? text.toList ahead).map fun rest => ((), rest)
  note (.mark text)

/-- Reads a name. -/
def name : Rule String := do
  let name ← ofTake takeName?
  note (.name name)
  return name

/-- Reads the end of a line. A line also ends with the text. -/
def lineEnd : Rule Unit := ofTake fun ahead =>
  match (afterLineComment? ahead).getD ahead with
  | [] => some ((), [])
  | rest => (afterLineBreak? rest).map fun rest => ((), rest)

/-- Reads a whole number. It has to fit into 64 bits. -/
def integer : Rule Unit := do
  let here ← ahead
  let value := Decimal.ofDigits (here.takeWhile Char.isDigit)
  if value < Nat.pow 2 64 then
    moveTo (here.dropWhile Char.isDigit)
    note (.integer value)
  else retreat

def numberSign (x : Float) : Sign :=
  if x == x.floor && x < 9.3e18 then .integer x.toUInt64.toNat else .fraction x.toBits

/-- Reads a number. Where a fraction or an exponent makes it too large, only the whole part is
read. -/
def number : Rule Unit := do
  let here ← ahead
  let (fraction, rest) := takeFraction (here.dropWhile Char.isDigit)
  match Decimal.float? (String.ofList (here.takeWhile Char.isDigit ++ fraction)) with
  | some x =>
    if !fraction.isEmpty && x.isFinite then
      moveTo rest
      note (numberSign x)
    else integer
  | none => integer

/-- Reads the operand of a minus or of a negation. The minus of a number belongs to it. -/
def negated (operand : Rule Unit) : Rule Unit := do
  note .negation
  operand
  fun r =>
    match r.signs with
    | .integer n :: .negation :: signs => .found () { r with signs := .integer (-n) :: signs }
    | .fraction bits :: .negation :: signs =>
      .found () { r with signs := .fraction (-Float.ofBits bits).toBits :: signs }
    | _ => .found () r

end Rule

end StackExport.Grammar
