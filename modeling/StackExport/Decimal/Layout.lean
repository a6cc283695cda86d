import StackExport.Decimal.Shortest
/-!
How a shortest decimal is laid out: in plain notation or with an exponent.
-/
namespace StackExport.Decimal

/-- The choices of a number format. -/
structure Layout where
  /-- Numbers `x` with `10 ^ lowest ≤ |x| < 10 ^ highest` are written without an exponent; no
  bounds mean that every number is. -/
  plain : Option (Int × Int)
  /-- What follows the digits of a whole number in plain notation. -/
  whole : String
  /-- The sign of a positive exponent. -/
  plus : String

/-- The format of number arguments: never an exponent, no fraction on whole numbers. -/
def Layout.positional : Layout := ⟨none, "", ""⟩

/-- The format of JSON documents: whole numbers keep a fraction, and numbers below `10 ^ -5` or
from `10 ^ 16` on are written with an exponent. -/
def Layout.json : Layout := ⟨some (-5, 16), ".0", "+"⟩

/-- The format of YAML keys, which differs from that of JSON documents in exponents without a
plus sign. -/
def Layout.yaml : Layout := ⟨some (-5, 16), ".0", ""⟩

def Layout.placePlain (layout : Layout) (digits : List Char) (exponent : Int) : String :=
  if 0 ≤ exponent then
    String.ofList (digits ++ List.replicate exponent.toNat '0') ++ layout.whole
  else
    let places := (-exponent).toNat
    if places < digits.length then
      String.ofList (digits.take (digits.length - places)) ++ "." ++
        String.ofList (digits.drop (digits.length - places))
    else
      "0." ++ String.ofList (List.replicate (places - digits.length) '0' ++ digits)

/-- Digits in exponent notation, with one digit before the point. -/
def Layout.placeExponent (layout : Layout) (digits : List Char) (exponent : Int) : String :=
  let power := exponent + digits.length - 1
  let head := String.ofList (digits.take 1)
  let tail := if digits.length ≤ 1 then "" else "." ++ String.ofList (digits.drop 1)
  head ++ tail ++ "e" ++ (if power < 0 then "-" else layout.plus) ++ toString power.natAbs

/-- A nonnegative decimal in the notation that its size calls for. -/
def Layout.place (layout : Layout) (d : Shortest) : String :=
  let digits := Nat.toDigits 10 d.digits
  let power := d.exponent + digits.length - 1
  match layout.plain with
  | some (lowest, highest) =>
    if d.digits = 0 || (lowest ≤ power && power < highest) then
      layout.placePlain digits d.exponent
    else layout.placeExponent digits d.exponent
  | none => layout.placePlain digits d.exponent

/-- The text of a number. -/
def Layout.text (layout : Layout) (x : Float) : String :=
  if x.isNaN then "NaN"
  else
    let sign := if x.toBits.toNat / Nat.pow 2 63 = 1 then "-" else ""
    if x.isInf then sign ++ "inf" else sign ++ layout.place (ofFloat x)

/-- The text of a number in the configuration language: plain notation, and zero without a sign. -/
def format (x : Float) : String :=
  match whole? x with
  | some n => if n.natAbs < Nat.pow 10 15 then toString n else Layout.positional.text x
  | none => Layout.positional.text x

end StackExport.Decimal
