/-!
Reading decimals.

A JSON document's numbers are read in two roundings: the digits as a word, which is rounded to the
nearest number, and then one multiplication or division by a power of ten. Everywhere else a
decimal is read as the number nearest to it.
-/
namespace StackExport.Decimal

/-- The value of a decimal digit. -/
def digit? (c : Char) : Option Nat :=
  if c.isDigit then some (c.toNat - '0'.toNat) else none

/-- The number that a run of decimal digits stands for. -/
def ofDigits (cs : List Char) : Nat :=
  cs.foldl (fun n c => n * 10 + (c.toNat - '0'.toNat)) 0

/-- A word: one or more digits, possibly behind a plus sign, whose value has at most 64 bits. -/
def word? (s : String) : Option Nat :=
  let cs := match s.toList with
    | '+' :: rest => rest
    | cs => cs
  if cs.isEmpty || !cs.all Char.isDigit then none
  else
    let n := ofDigits cs
    if n < Nat.pow 2 64 then some n else none

/-- The number nearest to `digits * 10 ^ exponent`. An exponent far outside the range of numbers is
answered without computing the power. -/
def nearest (digits : Nat) (exponent : Int) : Float :=
  let size := exponent + (Nat.toDigits 10 digits).length
  if digits = 0 || size < -400 then 0.0
  else if 400 < size then 1.0 / 0.0
  else if exponent < 0 then Float.ofScientific digits true (-exponent).toNat
  else Float.ofScientific digits false exponent.toNat

/-- An exponent mark with its digits; the text must end there. -/
def exponent? : List Char → Option Int
  | [] => some 0
  | c :: rest =>
    if c == 'e' || c == 'E' then
      let (negative, digits) := match rest with
        | '-' :: ds => (true, ds)
        | '+' :: ds => (false, ds)
        | ds => (false, ds)
      if digits.isEmpty || !digits.all Char.isDigit then none
      else if negative then some (-(ofDigits digits : Int)) else some (ofDigits digits)
    else none

/-- A magnitude: digits with an optional point and exponent, at least one digit beside the point,
or one of the words for infinity and for no number, in any case. -/
def magnitude? (cs : List Char) : Option Float :=
  let lower := String.ofList (cs.map Char.toLower)
  if lower == "inf" || lower == "infinity" then some (1.0 / 0.0)
  else if lower == "nan" then some (0.0 / 0.0)
  else
    let whole := cs.takeWhile Char.isDigit
    let afterWhole := cs.dropWhile Char.isDigit
    let (fraction, rest) := match afterWhole with
      | '.' :: tail => (tail.takeWhile Char.isDigit, tail.dropWhile Char.isDigit)
      | tail => ([], tail)
    if whole.isEmpty && fraction.isEmpty then none
    else
      (exponent? rest).map fun e => nearest (ofDigits (whole ++ fraction)) (e - fraction.length)

/-- The number nearest to a signed decimal. -/
def float? (s : String) : Option Float :=
  match s.toList with
  | '-' :: rest => (magnitude? rest).map fun x => -x
  | '+' :: rest => magnitude? rest
  | cs => magnitude? cs

/-- Powers of ten up to the largest finite one. -/
def powerOfTen (n : Nat) : Float := Float.ofScientific 1 false n

/-- `significand * 10 ^ exponent` in two roundings; `none` when the result is too large. A number
below the smallest power of ten is first divided by that power. -/
def scaled? (significand : Nat) (exponent : Int) : Option Float :=
  let rec go : Nat → Float → Int → Option Float
    | 0, x, _ => some x
    | fuel + 1, x, e =>
      if e.natAbs ≤ 308 then
        if 0 ≤ e then
          let y := x * powerOfTen e.natAbs
          if y.isInf then none else some y
        else some (x / powerOfTen e.natAbs)
      else if x == 0.0 then some x
      else if 0 ≤ e then none
      else go fuel (x / powerOfTen 308) (e + 308)
  go 4 (Float.ofNat significand) exponent

end StackExport.Decimal
