/-!
The shortest decimal that reads back as a given binary number.

A finite number is `mantissa * 2 ^ exponent`. The reals that round to it form an interval whose
ends belong to it exactly when the mantissa is even. On the decimal grids with 1, 2, ... 17 digits
the two neighbours of the number are tried; the first grid with a neighbour inside the interval
wins, and of two such neighbours the nearer.
-/
namespace StackExport.Decimal

/-- A positive number `mantissa * 2 ^ exponent`. `narrow` marks a mantissa at the lower end of its
binade, below which the next number is only half as far away. -/
structure Binary where
  mantissa : Nat
  exponent : Int
  narrow : Bool

/-- The magnitude of a finite number, read off its bits. -/
def Binary.ofBits (bits : UInt64) : Binary :=
  let fraction : Nat := bits.toNat % Nat.pow 2 52
  let biased : Nat := bits.toNat / Nat.pow 2 52 % Nat.pow 2 11
  if biased = 0 then ⟨fraction, -1074, false⟩
  else ⟨fraction + Nat.pow 2 52, (biased : Int) - 1075, fraction == 0 && biased != 1⟩

/-- A nonnegative decimal `digits * 10 ^ exponent`. -/
structure Shortest where
  digits : Nat
  exponent : Int

/-- The fraction `a / b` times `base ^ e`, as a numerator and a denominator. -/
def scale (a b base : Nat) (e : Int) : Nat × Nat :=
  if e < 0 then (a, b * base.pow (-e).toNat) else (a * base.pow e.toNat, b)

/-- The magnitude, if it is a whole number. -/
def Binary.whole? (x : Binary) : Option Nat :=
  let (num, den) := scale x.mantissa 1 2 x.exponent
  if num % den = 0 then some (num / den) else none

/-- The whole number that a finite number without a fraction is. -/
def whole? (x : Float) : Option Int :=
  let bits := x.toBits
  if bits.toNat / Nat.pow 2 52 % Nat.pow 2 11 = Nat.pow 2 11 - 1 then none
  else (Binary.ofBits bits).whole?.map fun n => if bits.toNat / Nat.pow 2 63 = 1 then -(n : Int) else n

/-- How many decimal digits a number has. -/
def width (n : Nat) : Nat := (Nat.toDigits 10 n).length

/-- The `k` with `10 ^ (k - 1) ≤ a / b < 10 ^ k`, for a positive fraction. -/
def position (a b : Nat) : Int :=
  if b ≤ a then width (a / b)
  else
    let w := width (b / a)
    if b ≤ a * Nat.pow 10 (w - 1) then 2 - (w : Int) else 1 - (w : Int)

/-- Tries the grid on which `a / b` has `count` digits. The interval of readings reaches `below / b`
down from the value and `above / b` up from it. -/
def onGrid (a b below above : Nat) (closed : Bool) (pos : Int) (count : Nat) : Option Shortest :=
  let step := pos - count
  let (num, den) := scale a b 10 (-step)
  let (lowGap, _) := scale below b 10 (-step)
  let (highGap, _) := scale above b 10 (-step)
  let low := num / den
  let downward := num - low * den
  let upward := (low + 1) * den - num
  let lowFits := low != 0 && (if closed then downward ≤ lowGap else downward < lowGap)
  let highFits := if closed then upward ≤ highGap else upward < highGap
  if lowFits && highFits then
    if downward < upward || (downward == upward && low % 2 == 0) then some ⟨low, step⟩
    else some ⟨low + 1, step⟩
  else if lowFits then some ⟨low, step⟩
  else if highFits then some ⟨low + 1, step⟩
  else none

/-- The shortest decimal among those that round to a positive number. -/
def Binary.shortest (x : Binary) : Shortest :=
  -- twice the value, so that half a step to either side is a whole number over the same denominator
  let (a, b) := scale (4 * x.mantissa) 4 2 x.exponent
  let (above, _) := scale 2 4 2 x.exponent
  let below := if x.narrow then above / 2 else above
  let pos := position a b
  match (List.range 17).findSome? fun n =>
      onGrid a b below above (x.mantissa % 2 == 0) pos (n + 1) with
  | some d => d
  | none => ⟨a / b, 0⟩

/-- The digits without the zeros at their end, each of which moves into the exponent. -/
def Shortest.stripped (d : Shortest) : Shortest :=
  let zeros := ((Nat.toDigits 10 d.digits).reverse.takeWhile (· == '0')).length
  if d.digits = 0 then ⟨0, 0⟩ else ⟨d.digits / Nat.pow 10 zeros, d.exponent + zeros⟩

/-- The shortest decimal that reads back as the magnitude of a finite number. -/
def ofFloat (x : Float) : Shortest :=
  let binary := Binary.ofBits x.toBits
  if binary.mantissa = 0 then ⟨0, 0⟩ else binary.shortest.stripped

end StackExport.Decimal
