import Mathlib
import StackExport.Decimal.Layout
/-!
The shortest decimal of a binary number rounds back to it.

Whichever grid the search stops at, what it gives lies in the interval of reals that round to the
number; and the grid of seventeen digits is so fine that the search stops there at the latest.
-/
namespace StackExport.Proofs.ShortestDecimal

open StackExport
open StackExport.Decimal

/-! ### Values -/

def value (x : Binary) : ℚ := x.mantissa * (2 : ℚ) ^ x.exponent

def decimal (d : Shortest) : ℚ := d.digits * (10 : ℚ) ^ d.exponent

/-- Half the way to the next number. -/
def halfUp (x : Binary) : ℚ := (2 : ℚ) ^ (x.exponent - 1)

/-- Half the way to the number before. -/
def halfDown (x : Binary) : ℚ := if x.narrow then (2 : ℚ) ^ (x.exponent - 2) else halfUp x

/-- An interval around a value, with its ends or without them. -/
def Around (closed : Bool) (v down up q : ℚ) : Prop :=
  if closed then v - down ≤ q ∧ q ≤ v + up else v - down < q ∧ q < v + up

/-- The reals that are read as a binary number: those nearer to it than to its neighbours, and those
half way, if its mantissa is even. -/
def RoundsTo (x : Binary) (q : ℚ) : Prop :=
  Around (x.mantissa % 2 == 0) (value x) (halfDown x) (halfUp x) q

/-- True when a distance is not too far for an interval. -/
def Reach {α : Type} [LT α] [LE α] (closed : Bool) (distance gap : α) : Prop :=
  if closed then distance ≤ gap else distance < gap

theorem around_of_below {closed : Bool} {v down up q : ℚ} (hup : 0 < up) (hq : q ≤ v)
    (h : Reach closed (v - q) down) : Around closed v down up q := by
  cases closed with
  | false =>
      have h : v - q < down := h
      have : v - down < q ∧ q < v + up := ⟨by linarith, by linarith⟩
      exact this
  | true =>
      have h : v - q ≤ down := h
      have : v - down ≤ q ∧ q ≤ v + up := ⟨by linarith, by linarith⟩
      exact this

theorem around_of_above {closed : Bool} {v down up q : ℚ} (hdown : 0 < down) (hq : v ≤ q)
    (h : Reach closed (q - v) up) : Around closed v down up q := by
  cases closed with
  | false =>
      have h : q - v < up := h
      have : v - down < q ∧ q < v + up := ⟨by linarith, by linarith⟩
      exact this
  | true =>
      have h : q - v ≤ up := h
      have : v - down ≤ q ∧ q ≤ v + up := ⟨by linarith, by linarith⟩
      exact this

theorem reach_of_lt {α : Type} [Preorder α] {closed : Bool} {distance gap : α}
    (h : distance < gap) : Reach closed distance gap := by
  cases closed with
  | false => exact h
  | true => exact le_of_lt h

theorem reach_cast_iff (closed : Bool) {m n den : Nat} {s x y : ℚ} (hden : 0 < den) (hs : 0 < s)
    (hm : (m : ℚ) / den * s = x) (hn : (n : ℚ) / den * s = y) :
    Reach closed m n ↔ Reach closed x y := by
  have hdenq : (0 : ℚ) < den := by exact_mod_cast hden
  subst hm hn
  cases closed with
  | false =>
      change m < n ↔ _ < _
      rw [mul_lt_mul_iff_of_pos_right hs, div_lt_div_iff_of_pos_right hdenq, Nat.cast_lt]
  | true =>
      change m ≤ n ↔ _ ≤ _
      rw [mul_le_mul_iff_of_pos_right hs, div_le_div_iff_of_pos_right hdenq, Nat.cast_le]

theorem scale_spec (a : Nat) {b base : Nat} (hb : 0 < b) (hbase : 0 < base) (e : Int) :
    0 < (scale a b base e).2 ∧
      ((scale a b base e).1 : ℚ) / (scale a b base e).2 = a / b * (base : ℚ) ^ e := by
  have hbq : (b : ℚ) ≠ 0 := by positivity
  have hbaseq : (base : ℚ) ≠ 0 := by positivity
  unfold scale
  split_ifs with he
  · obtain ⟨n, rfl⟩ : ∃ n : Nat, e = -(n : Int) := ⟨(-e).toNat, by omega⟩
    simp only [neg_neg, Int.toNat_natCast, zpow_neg, zpow_natCast, Nat.pow_eq]
    refine ⟨by positivity, ?_⟩
    push_cast
    field_simp
  · obtain ⟨n, rfl⟩ := Int.eq_ofNat_of_zero_le (not_lt.mp he)
    refine ⟨hb, ?_⟩
    simp only [Int.toNat_natCast, zpow_natCast, Nat.pow_eq]
    push_cast
    ring

theorem scale_snd (a a' b base : Nat) (e : Int) :
    (scale a b base e).2 = (scale a' b base e).2 := by
  unfold scale
  split_ifs <;> rfl

/-! ### One grid -/

theorem onGrid_cases {a b below above num den lowGap highGap count : Nat} {pos step : Int}
    (closed : Bool) (hstep : pos - count = step) (hnum : (scale a b 10 (-step)).1 = num)
    (hden : (scale a b 10 (-step)).2 = den) (hbelow : (scale below b 10 (-step)).1 = lowGap)
    (habove : (scale above b 10 (-step)).1 = highGap) :
    onGrid a b below above closed pos count = some ⟨num / den, step⟩ ∧ num / den ≠ 0 ∧
        Reach closed (num - num / den * den) lowGap ∨
      onGrid a b below above closed pos count = some ⟨num / den + 1, step⟩ ∧
        Reach closed ((num / den + 1) * den - num) highGap ∨
      onGrid a b below above closed pos count = none ∧
        ¬ (num / den ≠ 0 ∧ Reach closed (num - num / den * den) lowGap) ∧
        ¬ Reach closed ((num / den + 1) * den - num) highGap := by
  subst hstep hnum hden hbelow habove
  unfold onGrid Reach
  cases closed <;> simp only [] <;> split_ifs <;> simp_all

/-- The search on a grid tries the neighbours of a value, and gives one whose distance fits. -/
theorem onGrid_spec {a b : Nat} (below above : Nat) (hb : 0 < b) (closed : Bool) (pos : Int)
    (count : Nat) :
    ∃ (step : Int) (low : Nat), step = pos - count ∧ low * (10 : ℚ) ^ step ≤ a / b ∧
      a / b < (low + 1) * (10 : ℚ) ^ step ∧
      (onGrid a b below above closed pos count = some ⟨low, step⟩ ∧ low ≠ 0 ∧
          Reach closed ((a : ℚ) / b - low * 10 ^ step) (below / b) ∨
        onGrid a b below above closed pos count = some ⟨low + 1, step⟩ ∧
          Reach closed ((low + 1) * (10 : ℚ) ^ step - a / b) (above / b) ∨
        onGrid a b below above closed pos count = none ∧
          ¬ (low ≠ 0 ∧ Reach closed ((a : ℚ) / b - low * 10 ^ step) (below / b)) ∧
          ¬ Reach closed ((low + 1) * (10 : ℚ) ^ step - a / b) (above / b)) := by
  have hten : 0 < 10 := by decide
  obtain ⟨step, hstep⟩ : ∃ step, pos - count = step := ⟨_, rfl⟩
  have hs : (0 : ℚ) < 10 ^ step := by positivity
  obtain ⟨hden, hvalue⟩ := scale_spec a hb hten (-step)
  obtain ⟨-, hbelow⟩ := scale_spec below hb hten (-step)
  obtain ⟨-, habove⟩ := scale_spec above hb hten (-step)
  rw [scale_snd below a] at hbelow
  rw [scale_snd above a] at habove
  have hcases := onGrid_cases (a := a) (b := b) closed hstep rfl rfl
    (rfl : (scale below b 10 (-step)).1 = _) (rfl : (scale above b 10 (-step)).1 = _)
  generalize (scale a b 10 (-step)).1 = num at *
  generalize (scale a b 10 (-step)).2 = den at *
  generalize (scale below b 10 (-step)).1 = lowGap at *
  generalize (scale above b 10 (-step)).1 = highGap at *
  have hcancel (r : ℚ) : r * ((10 : Nat) : ℚ) ^ (-step) * 10 ^ step = r := by
    rw [Nat.cast_ofNat, mul_assoc, ← zpow_add₀ (by norm_num), neg_add_cancel, zpow_zero, mul_one]
  have hdenq : (0 : ℚ) < den := by exact_mod_cast hden
  have hlow : num / den * den ≤ num := Nat.div_mul_le_self num den
  have hhigh : num < (num / den + 1) * den := by
    have := Nat.lt_div_mul_add (a := num) hden
    rw [Nat.add_mul, Nat.one_mul]
    exact this
  have hv : (num : ℚ) / den * 10 ^ step = a / b := by rw [hvalue, hcancel]
  have hdown : ((num - num / den * den : Nat) : ℚ) / den * 10 ^ step =
      a / b - (num / den : Nat) * 10 ^ step := by
    rw [Nat.cast_sub hlow, Nat.cast_mul, sub_div, mul_div_assoc, div_self hdenq.ne', mul_one,
      sub_mul, hv]
  have hup : (((num / den + 1) * den - num : Nat) : ℚ) / den * 10 ^ step =
      ((num / den : Nat) + 1) * 10 ^ step - a / b := by
    rw [Nat.cast_sub hhigh.le, Nat.cast_mul, sub_div, mul_div_assoc, div_self hdenq.ne', mul_one,
      sub_mul, hv, Nat.cast_add, Nat.cast_one]
  have hlowIff := reach_cast_iff closed hden hs hdown
    (show (lowGap : ℚ) / den * 10 ^ step = below / b by rw [hbelow, hcancel])
  have hhighIff := reach_cast_iff closed hden hs hup
    (show (highGap : ℚ) / den * 10 ^ step = above / b by rw [habove, hcancel])
  refine ⟨step, num / den, hstep.symm, ?_, ?_, ?_⟩
  · rw [← hv, mul_le_mul_iff_of_pos_right hs, le_div_iff₀ hdenq]
    exact_mod_cast hlow
  · rw [← hv, mul_lt_mul_iff_of_pos_right hs, div_lt_iff₀ hdenq]
    exact_mod_cast hhigh
  · rw [hlowIff, hhighIff] at hcases
    exact hcases

theorem onGrid_sound {a b below above count : Nat} {closed : Bool} {pos : Int} {d : Shortest}
    (hb : 0 < b) (hbelow : 0 < below) (habove : 0 < above)
    (h : onGrid a b below above closed pos count = some d) :
    0 < d.digits ∧ Around closed (a / b) (below / b) (above / b) (decimal d) := by
  obtain ⟨step, low, -, hle, hlt, hcases⟩ := onGrid_spec below above hb closed pos
    count
  have hdown : (0 : ℚ) < below / b := by positivity
  have hup : (0 : ℚ) < above / b := by positivity
  rcases hcases with ⟨hd, hlow, hfits⟩ | ⟨hd, hfits⟩ | ⟨hd, -⟩
  · obtain rfl := Option.some.inj (hd.symm.trans h)
    exact ⟨Nat.pos_of_ne_zero hlow, around_of_below hup hle hfits⟩
  · obtain rfl := Option.some.inj (hd.symm.trans h)
    have hdecimal : decimal ⟨low + 1, step⟩ = (low + 1) * (10 : ℚ) ^ step := by simp [decimal]
    rw [hdecimal]
    exact ⟨Nat.succ_pos low, around_of_above hdown hlt.le hfits⟩
  · rw [hd] at h
    cases h

/-- A grid whose steps are shorter than twice either side of the interval has a neighbour in it. -/
theorem exists_onGrid {a b below above count : Nat} (closed : Bool) {pos : Int} (hb : 0 < b)
    (hbelow : (10 : ℚ) ^ (pos - count) < 2 * (below / b))
    (habove : (10 : ℚ) ^ (pos - count) < 2 * (above / b))
    (hvalue : (10 : ℚ) ^ (pos - count) ≤ a / b) :
    ∃ d, onGrid a b below above closed pos count = some d := by
  obtain ⟨step, low, rfl, hle, hlt, hcases⟩ := onGrid_spec (a := a) below above hb
    closed pos count
  rcases hcases with ⟨hd, -⟩ | ⟨hd, -⟩ | ⟨-, hlow, hhigh⟩
  · exact ⟨_, hd⟩
  · exact ⟨_, hd⟩
  · have hne : low ≠ 0 := by
      rintro rfl
      rw [Nat.cast_zero, zero_add, one_mul] at hlt
      linarith
    have hdown : ¬ (a : ℚ) / b - low * 10 ^ (pos - count) < below / b :=
      fun h => hlow ⟨hne, reach_of_lt h⟩
    have hup : ¬ ((low : ℚ) + 1) * 10 ^ (pos - count) - a / b < above / b :=
      fun h => hhigh (reach_of_lt h)
    rw [add_mul, one_mul] at hup
    linarith

/-! ### The search -/

theorem pow_width_le {n : Nat} (hn : 0 < n) : 10 ^ (width n - 1) ≤ n := by
  by_contra hlt
  by_cases hone : width n - 1 = 0
  · rw [hone] at hlt
    omega
  · have hle := (Nat.length_toDigits_le_iff (b := 10) (by decide) (Nat.pos_of_ne_zero hone)).mpr
      (not_le.mp hlt)
    change width n ≤ width n - 1 at hle
    omega

theorem lt_pow_width (n : Nat) : n < 10 ^ width n :=
  (Nat.length_toDigits_le_iff (by decide) (List.length_pos_iff.mpr Nat.toDigits_ne_nil)).mp le_rfl

theorem pow_position_le {a b : Nat} (ha : 0 < a) (hb : 0 < b) :
    (10 : ℚ) ^ (position a b - 1) ≤ a / b := by
  have hbq : (0 : ℚ) < b := by exact_mod_cast hb
  simp only [position]
  split_ifs with hle hnear
  · have hquot : 0 < a / b := Nat.div_pos hle hb
    have hwidth : 1 ≤ width (a / b) := List.length_pos_iff.mpr Nat.toDigits_ne_nil
    obtain ⟨k, hk⟩ : ∃ k, width (a / b) = k + 1 := ⟨width (a / b) - 1, by omega⟩
    have hpow := pow_width_le hquot
    rw [hk] at hpow ⊢
    have hexp : ((k + 1 : Nat) : Int) - 1 = k := by omega
    rw [hexp, zpow_natCast, le_div_iff₀ hbq]
    have hmul : 10 ^ k * b ≤ a := (Nat.mul_le_mul_right b hpow).trans (Nat.div_mul_le_self a b)
    exact_mod_cast hmul
  · have hwidth : 1 ≤ width (b / a) := List.length_pos_iff.mpr Nat.toDigits_ne_nil
    obtain ⟨k, hk⟩ : ∃ k, width (b / a) = k + 1 := ⟨width (b / a) - 1, by omega⟩
    rw [hk] at hnear ⊢
    have hexp : (2 : Int) - (k + 1 : Nat) - 1 = -k := by omega
    rw [hexp, zpow_neg, zpow_natCast, le_div_iff₀ hbq, inv_mul_le_iff₀ (by positivity)]
    have hmul : b ≤ 10 ^ k * a := by
      rw [mul_comm]
      exact hnear
    exact_mod_cast hmul
  · have hexp : (1 : Int) - width (b / a) - 1 = -(width (b / a) : Int) := by omega
    rw [hexp, zpow_neg, zpow_natCast, le_div_iff₀ hbq, inv_mul_le_iff₀ (by positivity)]
    have hlt : b < 10 ^ width (b / a) * a := by
      have := (Nat.div_lt_iff_lt_mul ha).mp (lt_pow_width (b / a))
      exact this
    exact_mod_cast hlt.le

/-- The binary numbers of sixty-four bits: the mantissa fits, and the number before is nearer only
at the lower end of a binade. -/
structure IsDouble (x : Binary) : Prop where
  lt : x.mantissa < 2 ^ 53
  narrow : x.narrow = true → x.mantissa = 2 ^ 52

theorem isDouble_ofBits (bits : UInt64) : IsDouble (Binary.ofBits bits) := by
  have hfraction : bits.toNat % Nat.pow 2 52 < 2 ^ 52 := Nat.mod_lt _ (by decide)
  simp only [Binary.ofBits]
  split_ifs
  · exact ⟨hfraction.trans (by decide), nofun⟩
  · refine ⟨?_, fun h => ?_⟩
    · change bits.toNat % Nat.pow 2 52 + 2 ^ 52 < 2 ^ 53
      omega
    · have hzero : bits.toNat % Nat.pow 2 52 = 0 := by simpa using ((Bool.and_eq_true _ _).mp h).1
      change bits.toNat % Nat.pow 2 52 + 2 ^ 52 = 2 ^ 52
      omega

theorem halfUp_pos (x : Binary) : 0 < halfUp x := by
  unfold halfUp
  positivity

theorem halfDown_pos (x : Binary) : 0 < halfDown x := by
  unfold halfDown
  split_ifs
  · positivity
  · exact halfUp_pos x

theorem value_lt_halfUp {x : Binary} (hx : IsDouble x) : value x < 2 ^ 54 * halfUp x := by
  have hmantissa : (x.mantissa : ℚ) < 2 ^ 53 := by exact_mod_cast hx.lt
  have hpow : (2 : ℚ) ^ x.exponent = 2 * halfUp x := by
    rw [halfUp, zpow_sub_one₀ (by norm_num)]
    ring
  have hpos := halfUp_pos x
  rw [value, hpow]
  nlinarith

theorem value_le_halfDown {x : Binary} (hx : IsDouble x) : value x ≤ 2 ^ 54 * halfDown x := by
  unfold halfDown
  split_ifs with hnarrow
  · have hpow : (2 : ℚ) ^ (x.exponent - 2) * 4 = 2 ^ x.exponent := by
      rw [zpow_sub₀ (by norm_num)]
      norm_num
    rw [value, hx.narrow hnarrow, ← hpow]
    push_cast
    linarith
  · exact (value_lt_halfUp hx).le

/-- Half the way to the next number can be halved once more on the same scale. -/
theorem half_scale_two (exponent : Int) :
    2 * ((scale 2 4 2 exponent).1 / 2) = (scale 2 4 2 exponent).1 ∧
      0 < (scale 2 4 2 exponent).1 / 2 := by
  unfold scale
  split_ifs
  · change 2 * (2 / 2) = 2 ∧ 0 < 2 / 2
    decide
  · have hpow : 0 < Nat.pow 2 exponent.toNat := Nat.pow_pos (by decide)
    constructor <;> omega

/-- What the search is started with. -/
theorem shortest_start {x : Binary} (hx : 0 < x.mantissa) :
    ∃ a b above below : Nat, 0 < a ∧ 0 < b ∧ 0 < above ∧ 0 < below ∧ (a / b : ℚ) = value x ∧
      (above / b : ℚ) = halfUp x ∧ (below / b : ℚ) = halfDown x ∧
      ((List.range 17).findSome? fun n =>
        onGrid a b below above (x.mantissa % 2 == 0) (position a b) (n + 1)).getD ⟨a / b, 0⟩ =
          x.shortest := by
  obtain ⟨hb, hvalue⟩ := scale_spec (4 * x.mantissa) (b := 4) (by decide) (by decide : 0 < 2)
    x.exponent
  obtain ⟨-, hup⟩ := scale_spec 2 (b := 4) (by decide) (by decide : 0 < 2) x.exponent
  rw [scale_snd 2 (4 * x.mantissa)] at hup
  have ha : 0 < (scale (4 * x.mantissa) 4 2 x.exponent).1 := by
    unfold scale
    simp only [Nat.pow_eq]
    split_ifs <;> positivity
  obtain ⟨hhalves, hhalfPos⟩ := half_scale_two x.exponent
  refine ⟨_, _, (scale 2 4 2 x.exponent).1,
    if x.narrow then (scale 2 4 2 x.exponent).1 / 2 else (scale 2 4 2 x.exponent).1, ha, hb,
    by omega, by split_ifs <;> omega, ?_, ?_, ?_, ?_⟩
  · rw [hvalue, value]
    push_cast
    ring
  · rw [hup, halfUp, zpow_sub_one₀ (by norm_num)]
    norm_num
    ring
  · unfold halfDown
    split_ifs
    · have hhalf : (((scale 2 4 2 x.exponent).1 / 2 : Nat) : ℚ) =
          ((scale 2 4 2 x.exponent).1 : ℚ) / 2 := by
        rw [eq_div_iff (by norm_num), mul_comm]
        exact_mod_cast hhalves
      rw [hhalf, div_right_comm, hup, zpow_sub₀ (by norm_num)]
      norm_num
      ring
    · rw [hup, halfUp, zpow_sub_one₀ (by norm_num)]
      norm_num
      ring
  · unfold Binary.shortest
    simp only []
    generalize List.findSome? _ (List.range 17) = found
    cases found <;> rfl

theorem shortest_rounds {x : Binary} (hdouble : IsDouble x) (hx : 0 < x.mantissa) :
    0 < x.shortest.digits ∧ RoundsTo x (decimal x.shortest) := by
  obtain ⟨a, b, above, below, ha, hb, habove, hbelow, hvalue, hup, hdown, hshortest⟩ :=
    shortest_start hx
  have hpos : 0 < value x := by
    rw [← hvalue]
    positivity
  -- On the last grid a step is at most a part of ten to the sixteenth of the value.
  have hfine : (10 : ℚ) ^ (position a b - 17) * 10 ^ 16 ≤ value x := by
    have hposition := pow_position_le ha hb
    rw [hvalue] at hposition
    have hexp : position a b - 1 = position a b - 17 + 16 := by omega
    rwa [hexp, zpow_add₀ (by norm_num)] at hposition
  obtain ⟨last, hlast⟩ : ∃ d, onGrid a b below above (x.mantissa % 2 == 0) (position a b) 17 =
      some d := by
    have hstep : (0 : ℚ) < 10 ^ (position a b - 17) := by positivity
    have hupper := value_lt_halfUp hdouble
    have hlower := value_le_halfDown hdouble
    refine exists_onGrid _ hb ?_ ?_ ?_
    · rw [hdown, Nat.cast_ofNat]
      linarith
    · rw [hup, Nat.cast_ofNat]
      linarith
    · rw [hvalue, Nat.cast_ofNat]
      linarith
  rcases hfound : (List.range 17).findSome? (fun n =>
      onGrid a b below above (x.mantissa % 2 == 0) (position a b) (n + 1)) with _ | d
  · have := List.findSome?_eq_none_iff.mp hfound 16 (by decide)
    rw [hlast] at this
    cases this
  · obtain ⟨n, -, hd⟩ := List.exists_of_findSome?_eq_some hfound
    rw [hfound, Option.getD_some] at hshortest
    obtain ⟨hdigits, haround⟩ := onGrid_sound hb hbelow habove hd
    rw [hvalue, hup, hdown] at haround
    rw [← hshortest]
    exact ⟨hdigits, haround⟩

end StackExport.Proofs.ShortestDecimal
