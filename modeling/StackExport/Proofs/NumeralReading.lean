import Mathlib
import StackExport.Json.Basic
import StackExport.Proofs.ShortestDecimal
/-!
Numerals of the configuration language, and which of them a number may be written as.

A whole number is written exactly. A binary number is written as a decimal that rounds to it, so
whoever reads the decimal as a binary number has the same one again.
-/
namespace StackExport.Proofs.NumeralReading

open StackExport
open StackExport.Decimal
open StackExport.Proofs.ShortestDecimal

/-- The number that digits stand for, of which so many are places behind the point. -/
def ofPlaces (digits : List Char) (places : Nat) : ℚ :=
  Nat.ofDigitChars 10 digits 0 / 10 ^ places

/-- Digits, with a point between them or without. -/
def magnitude? (cs : List Char) : Option ℚ :=
  let whole := cs.takeWhile Char.isDigit
  if whole.isEmpty then none
  else
    match cs.dropWhile Char.isDigit with
    | [] => some (ofPlaces whole 0)
    | '.' :: places =>
      if places.isEmpty || !places.all Char.isDigit then none
      else some (ofPlaces (whole ++ places) places.length)
    | _ => none

/-- The number that a numeral without an exponent stands for. -/
def numeral? : List Char → Option ℚ
  | '-' :: cs => (magnitude? cs).map fun q => -q
  | cs => magnitude? cs

/-- True for a number that is read as a given binary one, sign and magnitude. -/
def IsReadAs (x : Float) (q : ℚ) : Prop :=
  RoundsTo (.ofBits x.toBits) (if x.toBits.toNat / Nat.pow 2 63 = 1 then -q else q)

/-- True for the numbers that a number of a document may be written as. -/
def StandsFor : Number → ℚ → Prop
  | .int n, q => q = n
  | .float x, q => IsReadAs x q

/-- Documents hold no other numbers. -/
def IsFinite : Number → Prop
  | .int _ => True
  | .float x => x.isNaN = false ∧ x.isInf = false

/-! ### Digits -/

theorem magnitude_digits {ds : List Char} (hne : ds ≠ []) (hds : ds.all Char.isDigit = true) :
    magnitude? ds = some (ofPlaces ds 0) := by
  have hall := List.all_eq_true.mp hds
  have hempty : ds.isEmpty = false := by simpa using hne
  rw [magnitude?, List.takeWhile_eq_self_iff.mpr hall, List.dropWhile_eq_nil_iff.mpr hall]
  simp only [hempty, Bool.false_eq_true, if_false]

theorem magnitude_point {ds places : List Char} (hne : ds ≠ []) (hds : ds.all Char.isDigit = true)
    (hplaces : places ≠ []) (hdigits : places.all Char.isDigit = true) :
    magnitude? (ds ++ '.' :: places) = some (ofPlaces (ds ++ places) places.length) := by
  have hall := List.all_eq_true.mp hds
  have hpoint : ('.' : Char).isDigit = false := by decide
  have hempty : ds.isEmpty = false := by simpa using hne
  have hempty' : places.isEmpty = false := by simpa using hplaces
  rw [magnitude?, List.takeWhile_append_of_pos hall, List.dropWhile_append_of_pos hall,
    List.takeWhile_cons_of_neg (by simp [hpoint]), List.dropWhile_cons_of_neg (by simp [hpoint]),
    List.append_nil]
  simp only [hempty, hempty', hdigits, Bool.false_eq_true, Bool.not_true, Bool.or_self, if_false]

theorem numeral_of_magnitude {cs : List Char} {q : ℚ} (h : magnitude? cs = some q) :
    numeral? cs = some q ∧ numeral? ('-' :: cs) = some (-q) := by
  constructor
  · unfold numeral?
    split
    · next rest =>
        have hsign : ('-' : Char).isDigit = false := by decide
        rw [magnitude?, List.takeWhile_cons_of_neg (by simp [hsign])] at h
        cases h
    · exact h
  · rw [numeral?, h]
    rfl

theorem all_isDigit_toDigits (n : Nat) : (Nat.toDigits 10 n).all Char.isDigit = true :=
  List.all_eq_true.mpr fun _ hc => Nat.isDigit_of_mem_toDigits (by decide) (by decide) hc

theorem magnitude_natural (n : Nat) : magnitude? (Nat.toDigits 10 n) = some (n : ℚ) := by
  rw [magnitude_digits Nat.toDigits_ne_nil (all_isDigit_toDigits n), ofPlaces,
    Nat.ofDigitChars_ten_toDigits, pow_zero, div_one]

theorem toList_int (n : Int) :
    (toString n).toList =
      if n < 0 then '-' :: Nat.toDigits 10 n.natAbs else Nat.toDigits 10 n.natAbs := by
  cases n with
  | ofNat k => simp [toString, Int.repr]
  | negSucc k => simp [toString, Int.repr]

theorem numeral_int (n : Int) : numeral? (toString n).toList = some (n : ℚ) := by
  obtain ⟨hplain, hsigned⟩ := numeral_of_magnitude (magnitude_natural n.natAbs)
  have habs : ((n.natAbs : Nat) : ℚ) = |(n : ℚ)| := by
    rw [← Int.cast_natCast, Int.natCast_natAbs, Int.cast_abs]
  rw [toList_int]
  split_ifs with hneg
  · have hneg : (n : ℚ) < 0 := by exact_mod_cast hneg
    rw [hsigned, habs, abs_of_neg hneg, neg_neg]
  · have hpos : (0 : ℚ) ≤ n := by exact_mod_cast not_lt.mp hneg
    rw [hplain, habs, abs_of_nonneg hpos]

/-! ### Decimals -/

theorem ofDigitChars_zeros (n init : Nat) :
    Nat.ofDigitChars 10 (List.replicate n '0') init = init * 10 ^ n := by
  induction n generalizing init with
  | zero => simp [Nat.ofDigitChars]
  | succ n ih =>
      rw [List.replicate_succ, Nat.ofDigitChars_cons, ih, pow_succ]
      simp
      ring

theorem all_isDigit_zeros (n : Nat) : (List.replicate n '0').all Char.isDigit = true :=
  List.all_eq_true.mpr fun c hc => by rw [List.eq_of_mem_replicate hc]; decide

/-- Taking zeros from the end of the digits into the exponent keeps the value. -/
theorem decimal_stripped (d : Shortest) (hd : 0 < d.digits) : decimal d.stripped = decimal d := by
  obtain ⟨zeros, hzeros⟩ : ∃ n,
      ((Nat.toDigits 10 d.digits).reverse.takeWhile (· == '0')).length = n := ⟨_, rfl⟩
  have hsplit : Nat.toDigits 10 d.digits =
      ((Nat.toDigits 10 d.digits).reverse.dropWhile (· == '0')).reverse ++
        List.replicate zeros '0' := by
    have hrun : (Nat.toDigits 10 d.digits).reverse.takeWhile (· == '0') =
        List.replicate zeros '0' := by
      refine List.eq_replicate_iff.mpr ⟨hzeros, fun c hc => ?_⟩
      simpa using List.mem_takeWhile_imp hc
    have hreverse := congrArg List.reverse
      (List.takeWhile_append_dropWhile (p := (· == '0')) (l := (Nat.toDigits 10 d.digits).reverse))
    rw [hrun, List.reverse_append, List.reverse_reverse, List.reverse_replicate] at hreverse
    exact hreverse.symm
  generalize ((Nat.toDigits 10 d.digits).reverse.dropWhile (· == '0')).reverse = front at hsplit
  have hvalue : d.digits = Nat.ofDigitChars 10 front 0 * 10 ^ zeros := by
    rw [← Nat.ofDigitChars_ten_toDigits (n := d.digits), hsplit, Nat.ofDigitChars_append,
      ofDigitChars_zeros]
  have hstripped : d.stripped = ⟨Nat.ofDigitChars 10 front 0, d.exponent + zeros⟩ := by
    have hquot : d.digits / Nat.pow 10 zeros = Nat.ofDigitChars 10 front 0 := by
      rw [hvalue]
      exact Nat.mul_div_cancel _ (by positivity)
    rw [Shortest.stripped, hzeros, if_neg hd.ne', hquot]
  rw [hstripped, decimal, decimal, hvalue, zpow_add₀ (by norm_num), zpow_natCast]
  push_cast
  ring

/-- A decimal in plain notation reads as itself. -/
theorem magnitude_place (d : Shortest) :
    magnitude? (Layout.positional.place d).toList = some (decimal d) := by
  have hdigits := all_isDigit_toDigits d.digits
  have hvalue := Nat.ofDigitChars_ten_toDigits (n := d.digits)
  have hne : Nat.toDigits 10 d.digits ≠ [] := Nat.toDigits_ne_nil
  change magnitude? (Layout.positional.placePlain (Nat.toDigits 10 d.digits) d.exponent).toList = _
  unfold decimal Layout.placePlain
  generalize Nat.toDigits 10 d.digits = ds at *
  dsimp only
  split_ifs with hexp hplaces
  · obtain ⟨n, hn⟩ := Int.eq_ofNat_of_zero_le hexp
    have hall : (ds ++ List.replicate n '0').all Char.isDigit = true := by
      rw [List.all_append, hdigits, all_isDigit_zeros]
      rfl
    have hread := magnitude_digits (by simp [hne]) hall
    rw [hn, Int.toNat_natCast, zpow_natCast]
    change magnitude? (String.ofList _ ++ "").toList = _
    rw [String.append_empty, String.toList_ofList, hread, ofPlaces, Nat.ofDigitChars_append, hvalue,
      ofDigitChars_zeros, pow_zero, div_one]
    push_cast
    rfl
  all_goals
    obtain ⟨n, hn⟩ : ∃ n : Nat, d.exponent = -(n : Int) := ⟨(-d.exponent).toNat, by omega⟩
    have hpos : 0 < n := by omega
    rw [hn, neg_neg, Int.toNat_natCast] at hplaces
    rw [hn, neg_neg, Int.toNat_natCast, zpow_neg, zpow_natCast, ← div_eq_mul_inv]
    simp only [String.toList_append, String.toList_ofList, List.append_assoc]
  · have hsplit := List.take_append_drop (ds.length - n) ds
    have hlength : (ds.drop (ds.length - n)).length = n := by
      rw [List.length_drop]
      omega
    have hboth : (ds.take (ds.length - n)).all Char.isDigit = true ∧
        (ds.drop (ds.length - n)).all Char.isDigit = true := by
      rw [← Bool.and_eq_true, ← List.all_append, hsplit]
      exact hdigits
    have hwhole : ds.take (ds.length - n) ≠ [] :=
      List.ne_nil_of_length_pos (by rw [List.length_take]; omega)
    have hread := magnitude_point hwhole hboth.1 (List.ne_nil_of_length_pos (by omega)) hboth.2
    rw [hsplit, hlength] at hread
    change magnitude? (_ ++ '.' :: ds.drop (ds.length - n)) = _
    rw [hread, ofPlaces, hvalue]
  · have hall : (List.replicate (n - ds.length) '0' ++ ds).all Char.isDigit = true := by
      rw [List.all_append, hdigits, all_isDigit_zeros]
      rfl
    have hzero : ['0'] ≠ [] ∧ ['0'].all Char.isDigit = true := by decide
    have hread := magnitude_point hzero.1 hzero.2 (by simp [hne]) hall
    have hlength : (List.replicate (n - ds.length) '0' ++ ds).length = n := by
      rw [List.length_append, List.length_replicate]
      omega
    rw [hlength] at hread
    change magnitude? (['0'] ++ '.' :: (List.replicate (n - ds.length) '0' ++ ds)) = _
    have hnothing : Nat.ofDigitChars 10 ['0'] 0 = 0 := rfl
    rw [hread, ofPlaces, Nat.ofDigitChars_append, Nat.ofDigitChars_append, hnothing,
      ofDigitChars_zeros, Nat.zero_mul, hvalue]

/-! ### Numbers -/

theorem roundsTo_value (x : Binary) : RoundsTo x (value x) := by
  have hup := halfUp_pos x
  have hdown := halfDown_pos x
  unfold RoundsTo Around
  split_ifs
  · exact ⟨by linarith, by linarith⟩
  · exact ⟨by linarith, by linarith⟩

theorem value_of_whole {x : Binary} {n : Nat} (h : x.whole? = some n) : value x = n := by
  obtain ⟨hden, hscale⟩ := scale_spec x.mantissa (b := 1) (by decide) (by decide : 0 < 2) x.exponent
  simp only [Binary.whole?] at h
  split_ifs at h with hmod
  have hdiv := Nat.div_mul_cancel (Nat.dvd_of_mod_eq_zero hmod)
  rw [Option.some.inj h] at hdiv
  have hdenq : ((scale x.mantissa 1 2 x.exponent).2 : ℚ) ≠ 0 := by exact_mod_cast hden.ne'
  have hnum : ((scale x.mantissa 1 2 x.exponent).1 : ℚ) =
      n * (scale x.mantissa 1 2 x.exponent).2 := by exact_mod_cast hdiv.symm
  rw [hnum, mul_div_cancel_right₀ _ hdenq] at hscale
  rw [value, hscale]
  push_cast
  ring

theorem isReadAs_of_sign {x : Float} {q r : ℚ} (h : RoundsTo (.ofBits x.toBits) q)
    (hr : r = if x.toBits.toNat / Nat.pow 2 63 = 1 then -q else q) : IsReadAs x r := by
  unfold IsReadAs
  subst hr
  split_ifs
  · rw [neg_neg]
    exact h
  · exact h

theorem isReadAs_whole {x : Float} {n : Int} (h : whole? x = some n) : IsReadAs x n := by
  unfold whole? at h
  dsimp only at h
  split at h
  · cases h
  · obtain ⟨m, hm, hn⟩ := Option.map_eq_some_iff.mp h
    obtain ⟨k, hk, hkm⟩ := Option.bind_eq_some_iff.mp hm
    obtain rfl : (k : Int) = m := Option.some.inj hkm
    refine isReadAs_of_sign (roundsTo_value _) ?_
    rw [value_of_whole hk, ← hn]
    split_ifs <;> push_cast <;> rfl

theorem roundsTo_ofFloat (x : Float) : RoundsTo (.ofBits x.toBits) (decimal (ofFloat x)) := by
  simp only [ofFloat]
  split_ifs with hzero
  · have hvalue : value (.ofBits x.toBits) = 0 := by simp [value, hzero]
    have hdecimal : decimal ⟨0, 0⟩ = 0 := by simp [decimal]
    rw [hdecimal, ← hvalue]
    exact roundsTo_value _
  · obtain ⟨hdigits, hrounds⟩ :=
      shortest_rounds (isDouble_ofBits x.toBits) (Nat.pos_of_ne_zero hzero)
    rw [decimal_stripped _ hdigits]
    exact hrounds

theorem numeral_positional {x : Float} (hnan : x.isNaN = false) (hinf : x.isInf = false) :
    ∃ q, numeral? (Layout.positional.text x).toList = some q ∧ IsReadAs x q := by
  obtain ⟨hplain, hsigned⟩ := numeral_of_magnitude (magnitude_place (ofFloat x))
  refine ⟨_, ?_, isReadAs_of_sign (roundsTo_ofFloat x) rfl⟩
  simp only [Layout.text, hnan, hinf, Bool.false_eq_true, if_false]
  split_ifs
  · rw [String.toList_append]
    exact hsigned
  · rw [String.empty_append]
    exact hplain

/-- A number is written as a numeral that stands for it. -/
theorem numeral_configText {n : Number} (h : IsFinite n) :
    ∃ q, numeral? n.configText.toList = some q ∧ StandsFor n q := by
  cases n with
  | int n => exact ⟨n, numeral_int n, rfl⟩
  | float x =>
      change ∃ q, numeral? (format x).toList = some q ∧ IsReadAs x q
      unfold format
      split
      · next n hn =>
          split_ifs
          · exact ⟨n, numeral_int n, isReadAs_whole hn⟩
          · exact numeral_positional h.1 h.2
      · exact numeral_positional h.1 h.2

/-! ### Characters of numerals -/

/-- True for the characters of names and numerals. -/
def IsWord (c : Char) : Bool := c.isAlphanum || c == '_' || c == '-' || c == '.'

theorem all_isWord_of_digits {ds : List Char} (h : ds.all Char.isDigit = true) :
    ds.all IsWord = true := by
  refine List.all_eq_true.mpr fun c hc => ?_
  simp [IsWord, Char.isAlphanum, List.all_eq_true.mp h c hc]

theorem all_isWord_place (d : Shortest) :
    (Layout.positional.place d).toList.all IsWord = true := by
  have hdigits := all_isWord_of_digits (all_isDigit_toDigits d.digits)
  have hzeros (n : Nat) := all_isWord_of_digits (all_isDigit_zeros n)
  have hpoint : ".".toList.all IsWord = true ∧ "0.".toList.all IsWord = true := by decide
  change (Layout.positional.placePlain (Nat.toDigits 10 d.digits) d.exponent).toList.all IsWord =
    true
  unfold Layout.placePlain
  generalize Nat.toDigits 10 d.digits = ds at *
  dsimp only
  split_ifs <;> simp only [String.toList_append, String.toList_ofList, List.all_append,
    Bool.and_eq_true]
  · exact ⟨⟨hdigits, hzeros _⟩, rfl⟩
  · rw [List.all_eq_true] at hdigits
    refine ⟨⟨List.all_eq_true.mpr fun c hc => ?_, hpoint.1⟩, List.all_eq_true.mpr fun c hc => ?_⟩
    · exact hdigits c (List.mem_of_mem_take hc)
    · exact hdigits c (List.mem_of_mem_drop hc)
  · exact ⟨hpoint.2, hzeros _, hdigits⟩

theorem all_isWord_int (n : Int) : (toString n).toList.all IsWord = true := by
  have hdigits := all_isWord_of_digits (all_isDigit_toDigits n.natAbs)
  rw [toList_int]
  split_ifs
  · rw [List.all_cons, hdigits]
    rfl
  · exact hdigits

theorem all_isWord_positional (x : Float) :
    (Layout.positional.text x).toList.all IsWord = true := by
  have hplace := all_isWord_place (ofFloat x)
  have hwords : "NaN".toList.all IsWord = true ∧ "inf".toList.all IsWord = true ∧
      "-".toList.all IsWord = true := by decide
  simp only [Layout.text]
  split_ifs
  · exact hwords.1
  all_goals rw [String.toList_append, List.all_append, Bool.and_eq_true]
  · exact ⟨hwords.2.2, hwords.2.1⟩
  · exact ⟨rfl, hwords.2.1⟩
  · exact ⟨hwords.2.2, hplace⟩
  · exact ⟨rfl, hplace⟩

theorem all_isWord_configText (n : Number) : n.configText.toList.all IsWord = true := by
  cases n with
  | int n => exact all_isWord_int n
  | float x =>
      change (format x).toList.all IsWord = true
      unfold format
      split
      · split_ifs
        · exact all_isWord_int _
        · exact all_isWord_positional x
      · exact all_isWord_positional x

/-- The texts of numbers that are not finite are words. -/
theorem positional_of_not_finite {x : Float} (h : ¬IsFinite (.float x)) :
    Layout.positional.text x ∈ ["NaN", "inf", "-inf"] := by
  simp only [Layout.text]
  split_ifs with hnan hinf hsign
  · decide
  · decide
  · decide
  · exact absurd ⟨Bool.eq_false_iff.mpr hnan, Bool.eq_false_iff.mpr hinf⟩ h
  · exact absurd ⟨Bool.eq_false_iff.mpr hnan, Bool.eq_false_iff.mpr hinf⟩ h

theorem positional_cases (x : Float) :
    (∃ q, numeral? (Layout.positional.text x).toList = some q) ∨
      Layout.positional.text x ∈ ["NaN", "inf", "-inf"] := by
  by_cases hfinite : IsFinite (.float x)
  · obtain ⟨q, hq, -⟩ := numeral_positional hfinite.1 hfinite.2
    exact .inl ⟨q, hq⟩
  · exact .inr (positional_of_not_finite hfinite)

theorem configText_cases (n : Number) :
    (∃ q, numeral? n.configText.toList = some q) ∨ n.configText ∈ ["NaN", "inf", "-inf"] := by
  cases n with
  | int n => exact .inl ⟨_, numeral_int n⟩
  | float x =>
      change (∃ q, numeral? (format x).toList = some q) ∨ format x ∈ _
      unfold format
      split
      · split_ifs
        · exact .inl ⟨_, numeral_int _⟩
        · exact positional_cases x
      · exact positional_cases x

/-! ### Numbers that are not finite -/

section

open Float.Model Float.Model.UnpackedFloat

theorem unpackExponent_toBits (x : Float) :
    (@unpackExponent Format.binary64 x.toBits.toBitVec).toNat =
      x.toBits.toNat / Nat.pow 2 52 % Nat.pow 2 11 := by
  simp only [unpackExponent, BitVec.toNat_cast, BitVec.extractLsb_toNat, Nat.shiftRight_eq_div_pow]
  rfl

theorem exponent_of_not_finite {x : Float} (h : ¬IsFinite (.float x)) :
    x.toBits.toNat / Nat.pow 2 52 % Nat.pow 2 11 = Nat.pow 2 11 - 1 := by
  have hones : @unpackExponent Format.binary64 x.toBits.toBitVec = -1#_ := by
    by_contra hne
    have hnan : x.isNaN = (UnpackedFloat.unpack Format.binary64 x.toBits.toBitVec).isNaN := rfl
    have hinf : x.isInf = (UnpackedFloat.unpack Format.binary64 x.toBits.toBitVec).isInf := rfl
    refine h ?_
    rw [IsFinite, hnan, hinf, UnpackedFloat.unpack]
    simp only [if_neg hne]
    split_ifs <;> exact ⟨rfl, rfl⟩
  rw [← unpackExponent_toBits, hones]
  rfl

theorem format_of_not_finite {x : Float} (h : ¬IsFinite (.float x)) :
    format x ∈ ["NaN", "inf", "-inf"] := by
  have hwhole : whole? x = none := if_pos (exponent_of_not_finite h)
  rw [format, hwhole]
  exact positional_of_not_finite h

end

end StackExport.Proofs.NumeralReading
