import Mathlib.Algebra.Order.Field.Power
import Mathlib.Algebra.Order.Floor.Semifield
import Mathlib.Data.Int.Log
import Mathlib.Data.Rat.Floor
import Mathlib.Tactic.FieldSimp
import Mathlib.Tactic.Linarith
import Mathlib.Tactic.NormNum
import Mathlib.Tactic.Positivity
import Mathlib.Tactic.Ring
import SourceLedger.Binary64.Basic

/-!
# Rounding to the nearest number

Rounding a quotient depends on the rational number that it denotes and not on the two natural
numbers that are handed over. `ofRat` says so: it takes the exponent from the binary logarithm of
the rational and rounds the scaled rational to the nearest natural number. From it follow that a
decimal may be scaled before it is read, and that whatever lies within five parts in `10 ^ 17` of
a number is read as that number.
-/

namespace SourceLedger.Binary64

/-- The natural number nearest to a rational that is not negative, a half to the even one. -/
def nearest (q : ℚ) : ℕ :=
  if 1 / 2 < Int.fract q ∨ Int.fract q = 1 / 2 ∧ ⌊q⌋₊ % 2 = 1 then ⌊q⌋₊ + 1 else ⌊q⌋₊

theorem roundDiv_eq_nearest (num : ℕ) {den : ℕ} (h : 0 < den) :
    roundDiv num den = nearest (num / den) := by
  have hd : (0 : ℚ) < den := by exact_mod_cast h
  have above : den < 2 * (num % den) ↔ (1 : ℚ) / 2 < ((num % den : ℕ) : ℚ) / den := by
    rw [div_lt_div_iff₀ two_pos hd]
    norm_cast
    omega
  have tie : den = 2 * (num % den) ↔ ((num % den : ℕ) : ℚ) / den = 1 / 2 := by
    rw [div_eq_div_iff hd.ne' two_ne_zero]
    norm_cast
    omega
  simp only [roundDiv, nearest, Nat.floor_div_eq_div, Int.fract_div_natCast_eq_div_natCast_mod,
    above, tie]

theorem nearest_eq {q : ℚ} {n : ℕ} (hq : 0 ≤ q) (h : |q - n| < 1 / 2) : nearest q = n := by
  obtain ⟨low, high⟩ := abs_lt.mp h
  rcases le_or_gt (n : ℚ) q with hn | hn
  · have hfloor : ⌊q⌋₊ = n := (Nat.floor_eq_iff hq).mpr ⟨hn, by linarith⟩
    have hfract : Int.fract q = q - n := by
      rw [Int.fract, ← Int.natCast_floor_eq_floor hq, hfloor]
      norm_cast
    rw [nearest, hfloor, hfract, if_neg]
    rintro (h' | ⟨h', _⟩) <;> linarith
  · obtain ⟨m, rfl⟩ : ∃ m, n = m + 1 := by
      cases n with
      | zero => exact absurd hn (not_lt.mpr (by simpa using hq))
      | succ m => exact ⟨m, rfl⟩
    push_cast at low high hn
    have hfloor : ⌊q⌋₊ = m := (Nat.floor_eq_iff hq).mpr ⟨by linarith, hn⟩
    have hfract : Int.fract q = q - m := by
      rw [Int.fract, ← Int.natCast_floor_eq_floor hq, hfloor]
      norm_cast
    rw [nearest, hfloor, hfract, if_pos (Or.inl (by linarith))]

/-- The exponent for a positive rational: with it the mantissa has 53 bits, unless the rational is
too small for that. -/
def exponentFor (q : ℚ) : ℤ := max (Int.log 2 q - 52) (-1074)

/-- The number nearest to a rational that is not negative. -/
def ofRat (negative : Bool) (q : ℚ) : Binary64 :=
  if q = 0 then zero negative
  else
    let mantissa := nearest (q / 2 ^ exponentFor q)
    if mantissa = 2 ^ 53 then make negative (2 ^ 52) (exponentFor q + 1)
    else make negative mantissa (exponentFor q)

theorem roundScaled_eq (num : ℕ) {den : ℕ} (h : 0 < den) (e : ℤ) :
    roundScaled num den e = nearest (num / den / 2 ^ e) := by
  unfold roundScaled
  split_ifs with he
  · rw [roundDiv_eq_nearest _ (by positivity)]
    obtain ⟨n, rfl⟩ := Int.eq_ofNat_of_zero_le he
    simp [div_div]
  · rw [roundDiv_eq_nearest _ h]
    obtain ⟨n, hn⟩ := Int.eq_ofNat_of_zero_le (show 0 ≤ -e by omega)
    obtain rfl : e = -n := by omega
    simp [div_eq_mul_inv, mul_right_comm]

/-- A quotient lies between the powers of two that the logarithms of its parts tell. -/
theorem ratio_bounds {num den : ℕ} (hn : num ≠ 0) (hd : den ≠ 0) :
    (2 : ℚ) ^ (num.log2 - den.log2 - 1 : ℤ) < num / den ∧
      (num : ℚ) / den < 2 ^ (num.log2 - den.log2 + 1 : ℤ) := by
  have hden : (0 : ℚ) < den := by exact_mod_cast Nat.pos_of_ne_zero hd
  have numLow : (2 : ℚ) ^ num.log2 ≤ num := by exact_mod_cast Nat.log2_self_le hn
  have numHigh : (num : ℚ) < 2 ^ (num.log2 + 1) := by exact_mod_cast Nat.lt_log2_self
  have denLow : (2 : ℚ) ^ den.log2 ≤ den := by exact_mod_cast Nat.log2_self_le hd
  have denHigh : (den : ℚ) < 2 ^ (den.log2 + 1) := by exact_mod_cast Nat.lt_log2_self
  have add (a b : ℤ) : (2 : ℚ) ^ a * 2 ^ b = 2 ^ (a + b) := (zpow_add₀ two_ne_zero a b).symm
  rw [lt_div_iff₀ hden, div_lt_iff₀ hden]
  constructor
  · calc (2 : ℚ) ^ (num.log2 - den.log2 - 1 : ℤ) * den
        < 2 ^ (num.log2 - den.log2 - 1 : ℤ) * 2 ^ (den.log2 + 1) :=
          mul_lt_mul_of_pos_left denHigh (by positivity)
      _ = 2 ^ num.log2 := by
          rw [← zpow_natCast, ← zpow_natCast, add]
          congr 1
          push_cast
          ring
      _ ≤ num := numLow
  · calc (num : ℚ) < 2 ^ (num.log2 + 1) := numHigh
      _ = 2 ^ (num.log2 - den.log2 + 1 : ℤ) * 2 ^ den.log2 := by
          rw [← zpow_natCast, ← zpow_natCast, add]
          congr 1
          push_cast
          ring
      _ ≤ 2 ^ (num.log2 - den.log2 + 1 : ℤ) * den :=
          mul_le_mul_of_nonneg_left denLow (by positivity)

/-- Whether a quotient reaches a power of two, settled in natural numbers. -/
theorem reaches_iff {num den : ℕ} (hd : den ≠ 0) (guess : ℤ) :
    (if 0 ≤ guess then den * 2 ^ (guess.toNat + 53) ≤ num
      else den * 2 ^ 53 ≤ num * 2 ^ (-guess).toNat) ↔ (2 : ℚ) ^ (guess + 53) ≤ num / den := by
  have hden : (0 : ℚ) < den := by exact_mod_cast Nat.pos_of_ne_zero hd
  rw [le_div_iff₀ hden]
  split_ifs with h
  · obtain ⟨n, rfl⟩ := Int.eq_ofNat_of_zero_le h
    have cast : ((2 : ℚ) ^ ((n : ℤ) + 53) * den) = ((den * 2 ^ (n + 53) : ℕ) : ℚ) := by
      rw [← Nat.cast_ofNat (R := ℤ), ← Nat.cast_add, zpow_natCast, Nat.cast_mul, Nat.cast_pow,
        mul_comm, Nat.cast_ofNat]
    rw [cast, Nat.cast_le, Int.toNat_natCast]
  · obtain ⟨n, hn⟩ := Int.eq_ofNat_of_zero_le (show 0 ≤ -guess by omega)
    obtain rfl : guess = -n := by omega
    have cast : ((2 : ℚ) ^ (-(n : ℤ) + 53) * den) = ((den * 2 ^ 53 : ℕ) : ℚ) / 2 ^ n := by
      rw [zpow_add₀ two_ne_zero, zpow_neg, zpow_natCast]
      push_cast
      field_simp
    rw [cast, div_le_iff₀ (by positivity), neg_neg, Int.toNat_natCast, ← Nat.cast_ofNat (R := ℚ),
      ← Nat.cast_pow, ← Nat.cast_mul, Nat.cast_le]

theorem ofRatio_eq (negative : Bool) (num : ℕ) {den : ℕ} (hd : den ≠ 0) :
    ofRatio negative num den = ofRat negative (num / den) := by
  by_cases hn : num = 0
  · simp [ofRatio, ofRat, hn]
  have hpos : (0 : ℚ) < num / den :=
    div_pos (by exact_mod_cast Nat.pos_of_ne_zero hn) (by exact_mod_cast Nat.pos_of_ne_zero hd)
  obtain ⟨low, high⟩ := ratio_bounds hn hd
  have logLow : (num.log2 - den.log2 - 1 : ℤ) ≤ Int.log 2 ((num : ℚ) / den) :=
    (Int.zpow_le_iff_le_log one_lt_two hpos).mp (by exact_mod_cast low.le)
  have logHigh : Int.log 2 ((num : ℚ) / den) < num.log2 - den.log2 + 1 :=
    (Int.lt_zpow_iff_log_lt one_lt_two hpos).mp (by exact_mod_cast high)
  have fits : (2 : ℚ) ^ ((num.log2 - den.log2 - 53 : ℤ) + 53) ≤ num / den ↔
      (num.log2 - den.log2 : ℤ) ≤ Int.log 2 ((num : ℚ) / den) := by
    rw [sub_add_cancel, ← Int.zpow_le_iff_le_log one_lt_two hpos]
    norm_cast
  have exponent : max
      (if (num.log2 - den.log2 : ℤ) ≤ Int.log 2 ((num : ℚ) / den)
        then (num.log2 - den.log2 - 53 : ℤ) + 1 else num.log2 - den.log2 - 53) (-1074) =
      exponentFor (num / den) := by
    unfold exponentFor
    split_ifs <;> congr 1 <;> omega
  simp only [ofRatio, if_neg hn, ofRat, if_neg hpos.ne']
  simp only [← decide_ite, decide_eq_true_eq, reaches_iff hd, fits, exponent,
    roundScaled_eq num (Nat.pos_of_ne_zero hd)]

theorem nearest_zero {q : ℚ} (hq : 0 ≤ q) (h : q < 1 / 2) : nearest q = 0 :=
  nearest_eq hq (by rw [Nat.cast_zero, sub_zero, abs_of_nonneg hq]; exact h)

theorem exponentFor_eq {q : ℚ} (hq : 0 < q) {e : ℤ} (least : -1074 ≤ e)
    (low : 2 ^ (e + 52) ≤ q ∨ e = -1074) (high : q < 2 ^ (e + 53)) : exponentFor q = e := by
  have logHigh : Int.log 2 q < e + 53 :=
    (Int.lt_zpow_iff_log_lt one_lt_two hq).mp (by exact_mod_cast high)
  unfold exponentFor
  rcases low with low | rfl
  · have logLow : e + 52 ≤ Int.log 2 q :=
      (Int.zpow_le_iff_le_log one_lt_two hq).mp (by exact_mod_cast low)
    omega
  · omega

/-- A number less than half a unit away has the mantissa. -/
theorem nearest_scaled {y : ℚ} (hy : 0 ≤ y) {m : ℕ} {e : ℤ} (near : |y - m * 2 ^ e| < 2 ^ e / 2) :
    nearest (y / 2 ^ e) = m := by
  have unit : (0 : ℚ) < 2 ^ e := by positivity
  refine nearest_eq (by positivity) ?_
  rw [div_sub' unit.ne', abs_div, abs_of_pos unit, div_lt_iff₀ unit, mul_comm _ (m : ℚ)]
  linarith

theorem ofRat_of_unit (negative : Bool) {m : ℕ} {e : ℤ} (h : Canonical m e) {y : ℚ} (hy : 0 < y)
    (low : 2 ^ (e + 52) ≤ y ∨ e = -1074) (high : y < 2 ^ (e + 53))
    (near : |y - m * 2 ^ e| < 2 ^ e / 2) : ofRat negative y = .finite negative m e h := by
  rw [ofRat, if_neg hy.ne', exponentFor_eq hy h.2.1 low high, nearest_scaled hy.le near]
  simp only [if_neg h.1.ne]
  exact dif_pos h

/-- Below the least mantissa the unit is finer, and rounding leads up to it again. -/
theorem ofRat_of_finer (negative : Bool) {e : ℤ} (h : Canonical (2 ^ 52) e) (least : -1074 < e)
    {y : ℚ} (high : y < 2 ^ (e + 52)) (near : |y - 2 ^ 52 * 2 ^ e| < 2 ^ e / 4) :
    ofRat negative y = .finite negative (2 ^ 52) e h := by
  have unit : (0 : ℚ) < 2 ^ (e - 1) := by positivity
  have half : (2 : ℚ) ^ e = 2 ^ (e - 1) * 2 := by
    rw [← zpow_add_one₀ two_ne_zero, sub_add_cancel]
  have low : (2 : ℚ) ^ (e - 1 + 52) ≤ y := by
    rw [zpow_add₀ two_ne_zero, zpow_ofNat]
    rw [half] at near
    linarith [(abs_lt.mp near).1]
  have hy : 0 < y := lt_of_lt_of_le (by positivity) low
  have exponent : exponentFor y = e - 1 := by
    refine exponentFor_eq hy (by omega) (Or.inl low) ?_
    rwa [show e - 1 + 53 = e + 52 by ring]
  have mantissa : nearest (y / 2 ^ (e - 1)) = 2 ^ 53 := by
    refine nearest_scaled hy.le ?_
    rw [half, ← mul_assoc, mul_right_comm, ← pow_succ] at near
    push_cast
    linarith
  rw [ofRat, if_neg hy.ne', exponent, mantissa, sub_add_cancel]
  exact dif_pos h

/-- Whatever is nearer to a number than five parts in `10 ^ 17` is read as that number. -/
theorem ofRat_near (negative : Bool) {m : ℕ} {e : ℤ} (h : Canonical m e) (hm : m ≠ 0) {y : ℚ}
    (near : |y - m * 2 ^ e| ≤ m * 2 ^ e * (5 / 10 ^ 17)) :
    ofRat negative y = .finite negative m e h := by
  have ⟨small, least, _, normal⟩ := h
  have unit : (0 : ℚ) < 2 ^ e := by positivity
  have hm1 : (1 : ℚ) ≤ m := by exact_mod_cast Nat.one_le_iff_ne_zero.mpr hm
  have hm2 : (m : ℚ) + 1 ≤ 2 ^ 53 := by exact_mod_cast small
  have narrow : |y - m * 2 ^ e| < 2 ^ e / 2 := by nlinarith
  have positive : 0 < y := by
    have value : (0 : ℚ) < m * 2 ^ e := by positivity
    linarith [(abs_le.mp near).1]
  have high : y < 2 ^ (e + 53) := by
    rw [zpow_add₀ two_ne_zero, zpow_ofNat]
    nlinarith [(abs_lt.mp narrow).2]
  by_cases low : 2 ^ (e + 52) ≤ y ∨ e = -1074
  · exact ofRat_of_unit negative h positive low high narrow
  · obtain ⟨low, he⟩ := not_or.mp low
    obtain rfl : m = 2 ^ 52 := by
      refine le_antisymm ?_ (normal.resolve_right he)
      by_contra more
      have more : (2 : ℚ) ^ 52 + 1 ≤ m := by exact_mod_cast not_le.mp more
      rw [zpow_add₀ two_ne_zero, zpow_ofNat] at low
      nlinarith [(abs_lt.mp narrow).1]
    refine ofRat_of_finer negative h (by omega) (not_le.mp low) ?_
    push_cast at near ⊢
    linarith

theorem make_infinite (negative : Bool) (m : ℕ) {e : ℤ} (h : 971 < e) :
    make negative m e = .infinite negative :=
  dif_neg fun canonical => (not_lt.mpr canonical.2.2.1) h

theorem ofRat_large (negative : Bool) {q : ℚ} (h : 2 ^ (1025 : ℤ) ≤ q) :
    ofRat negative q = .infinite negative := by
  have positive : 0 < q := lt_of_lt_of_le (by positivity) h
  have log : 1025 ≤ Int.log 2 q :=
    (Int.zpow_le_iff_le_log one_lt_two positive).mp (by rwa [Nat.cast_ofNat])
  have exponent : 971 < exponentFor q := lt_of_lt_of_le (by omega) (le_max_left _ _)
  rw [ofRat, if_neg positive.ne']
  simp only [make_infinite negative _ exponent,
    make_infinite negative _ (exponent.trans (lt_add_one _)), ite_self]

theorem ofRat_small (negative : Bool) {q : ℚ} (hq : 0 ≤ q) (h : q < 2 ^ (-1075 : ℤ)) :
    ofRat negative q = zero negative := by
  rcases hq.eq_or_lt with rfl | positive
  · exact if_pos rfl
  have exponent : exponentFor q = -1074 :=
    exponentFor_eq positive le_rfl (Or.inr rfl)
      (h.trans (zpow_lt_zpow_right₀ one_lt_two (by norm_num)))
  have mantissa : nearest (q / 2 ^ (-1074 : ℤ)) = 0 := by
    refine nearest_zero (by positivity) ?_
    rw [div_lt_iff₀ (by positivity), show (-1074 : ℤ) = -1075 + 1 by norm_num,
      zpow_add_one₀ two_ne_zero]
    linarith
  rw [ofRat, if_neg positive.ne', exponent, mantissa]
  rfl

/-- The approximation `30103 / 100000` of the common logarithm of two is a little too great. -/
theorem ten_power_bounds : 2 ^ 100000 ≤ 10 ^ 30103 ∧ 10 ^ 30103 ≤ 2 ^ 100001 := by
  decide +kernel

theorem ten_zpow_le (bits digits : ℤ) (h : digits * 100000 ≤ bits * 30103)
    (most : bits ≤ 100000) : (10 : ℚ) ^ digits ≤ 2 * 2 ^ bits := by
  have cast {m n : ℕ} (h : m ≤ n) : (m : ℚ) ≤ n := by exact_mod_cast h
  have least : (2 : ℚ) ^ (100000 : ℤ) ≤ 10 ^ (30103 : ℤ) := by
    simpa only [Nat.cast_pow, Nat.cast_ofNat, zpow_ofNat] using cast ten_power_bounds.1
  have greatest : (10 : ℚ) ^ (30103 : ℤ) ≤ 2 ^ (100001 : ℤ) := by
    simpa only [Nat.cast_pow, Nat.cast_ofNat, zpow_ofNat] using cast ten_power_bounds.2
  have power : (10 : ℚ) ^ (30103 * bits) ≤ 2 ^ ((bits + 1) * 100000) := by
    rw [zpow_mul]
    rcases le_or_gt 0 bits with hb | hb
    · calc ((10 : ℚ) ^ (30103 : ℤ)) ^ bits ≤ (2 ^ (100001 : ℤ)) ^ bits :=
          zpow_le_zpow_left₀ hb (by positivity) greatest
        _ = 2 ^ (100001 * bits) := (zpow_mul _ _ _).symm
        _ ≤ 2 ^ ((bits + 1) * 100000) := zpow_le_zpow_right₀ one_le_two (by omega)
    · calc
        ((10 : ℚ) ^ (30103 : ℤ)) ^ bits = ((10 ^ (30103 : ℤ)) ^ (-bits))⁻¹ := by
          rw [zpow_neg, inv_inv]
        _ ≤ ((2 ^ (100000 : ℤ)) ^ (-bits))⁻¹ :=
          inv_anti₀ (by positivity) (zpow_le_zpow_left₀ (by omega) (by positivity) least)
        _ = 2 ^ (100000 * bits) := by rw [zpow_neg, inv_inv, zpow_mul]
        _ ≤ 2 ^ ((bits + 1) * 100000) := zpow_le_zpow_right₀ one_le_two (by omega)
  rw [← zpow_one_add₀ two_ne_zero,
    ← zpow_le_zpow_iff_left₀ (by positivity) (by positivity) (show (0 : ℤ) < 100000 by norm_num),
    ← zpow_mul, ← zpow_mul, add_comm]
  exact (zpow_le_zpow_right₀ (by norm_num) (by omega)).trans power

theorem two_zpow_le (bits digits : ℤ) (h : bits * 30103 ≤ digits * 100000)
    (least : -100000 ≤ bits) : (2 : ℚ) ^ bits ≤ 2 * 10 ^ digits := by
  have := ten_zpow_le (-bits) (-digits) (by omega) (by omega)
  rwa [zpow_neg, zpow_neg, inv_le_comm₀ (by positivity) (by positivity), mul_inv, inv_inv,
    inv_mul_le_iff₀ two_pos] at this

theorem two_zpow_three_mul_le {n : ℤ} (h : 0 ≤ n) : (2 : ℚ) ^ (3 * n) ≤ 10 ^ n := by
  rw [zpow_mul]
  exact zpow_le_zpow_left₀ h (by positivity) (by norm_num)

/-- The digits of a decimal, counted from their binary logarithm. -/
theorem digits_bounds {digits : ℕ} (hd : digits ≠ 0) (small : digits < 2 ^ 128) :
    (10 : ℚ) ^ (digits.log2 * 30103 / 100000 : ℤ) ≤ 2 * digits ∧
      (digits : ℚ) ≤ 4 * 10 ^ (digits.log2 * 30103 / 100000 + 1 : ℤ) := by
  have bits : digits.log2 < 128 := (Nat.log2_lt hd).mpr small
  have low : (2 : ℚ) ^ (digits.log2 : ℤ) ≤ digits := by
    rw [zpow_natCast]
    exact_mod_cast Nat.log2_self_le hd
  have high : (digits : ℚ) ≤ 2 * 2 ^ (digits.log2 : ℤ) := by
    rw [zpow_natCast, mul_comm, ← pow_succ]
    exact_mod_cast Nat.lt_log2_self.le
  have atLeast := ten_zpow_le digits.log2
    (digits.log2 * 30103 / 100000) (by omega) (by omega)
  have atMost := two_zpow_le digits.log2
    (digits.log2 * 30103 / 100000 + 1) (by omega) (by omega)
  constructor <;> linarith

/-- A decimal that is cut short for its size is too large for the format. -/
theorem decimal_large {digits : ℕ} (hd : digits ≠ 0) (small : digits < 2 ^ 128) {exponent : ℤ}
    (h : 400 < (digits.log2 * 30103 / 100000 : ℤ) + exponent) :
    (2 : ℚ) ^ (1025 : ℤ) ≤ digits * 10 ^ exponent := by
  have limit : (2 : ℚ) ^ (1025 : ℤ) * 2 ≤ 10 ^ (401 : ℤ) := by
    rw [← zpow_add_one₀ two_ne_zero]
    exact (zpow_le_zpow_right₀ one_le_two (by norm_num)).trans
      (two_zpow_three_mul_le (by norm_num))
  refine le_of_mul_le_mul_right ?_ (two_pos (α := ℚ))
  calc (2 : ℚ) ^ (1025 : ℤ) * 2 ≤ 10 ^ (401 : ℤ) := limit
    _ ≤ 10 ^ ((digits.log2 * 30103 / 100000 : ℤ) + exponent) :=
      zpow_le_zpow_right₀ (by norm_num) (by omega)
    _ = 10 ^ (digits.log2 * 30103 / 100000 : ℤ) * 10 ^ exponent := zpow_add₀ (by norm_num) _ _
    _ ≤ 2 * digits * 10 ^ exponent :=
      mul_le_mul_of_nonneg_right (digits_bounds hd small).1 (by positivity)
    _ = digits * 10 ^ exponent * 2 := by ring

/-- A decimal that is cut short for its smallness rounds to zero. -/
theorem decimal_small {digits : ℕ} (hd : digits ≠ 0) (small : digits < 2 ^ 128) {exponent : ℤ}
    (h : (digits.log2 * 30103 / 100000 : ℤ) + exponent < -500) :
    digits * (10 : ℚ) ^ exponent < 2 ^ (-1075 : ℤ) := by
  calc digits * (10 : ℚ) ^ exponent
      ≤ 4 * 10 ^ (digits.log2 * 30103 / 100000 + 1 : ℤ) * 10 ^ exponent :=
        mul_le_mul_of_nonneg_right (digits_bounds hd small).2 (by positivity)
    _ = 2 ^ (2 : ℤ) * 10 ^ ((digits.log2 * 30103 / 100000 + 1 : ℤ) + exponent) := by
        rw [zpow_add₀ (by norm_num) _ exponent]
        norm_num [mul_assoc]
    _ ≤ 2 ^ (2 : ℤ) * 10 ^ (-500 : ℤ) :=
        mul_le_mul_of_nonneg_left (zpow_le_zpow_right₀ (by norm_num) (by omega)) (by positivity)
    _ ≤ 2 ^ (2 : ℤ) * 2 ^ (-(3 * 500) : ℤ) := by
        rw [zpow_neg, zpow_neg]
        exact mul_le_mul_of_nonneg_left
          (inv_anti₀ (by positivity) (two_zpow_three_mul_le (by norm_num))) (by positivity)
    _ = 2 ^ (2 + -(3 * 500) : ℤ) := (zpow_add₀ two_ne_zero _ _).symm
    _ < 2 ^ (-1075 : ℤ) := zpow_lt_zpow_right₀ one_lt_two (by norm_num)

/-- Cutting a decimal short makes no difference to what is read. -/
theorem ofDecimal_eq (negative : Bool) {digits : ℕ} (small : digits < 2 ^ 128) (exponent : ℤ) :
    ofDecimal negative digits exponent = ofRat negative (digits * 10 ^ exponent) := by
  by_cases hd : digits = 0
  · simp [ofDecimal, ofRat, hd]
  simp only [ofDecimal, if_neg hd]
  split_ifs with large tiny whole
  · exact (ofRat_large negative (decimal_large hd small large)).symm
  · exact (ofRat_small negative (by positivity) (decimal_small hd small tiny)).symm
  · obtain ⟨n, rfl⟩ := Int.eq_ofNat_of_zero_le whole
    rw [ofRatio_eq negative _ one_ne_zero]
    simp
  · obtain ⟨n, hn⟩ := Int.eq_ofNat_of_zero_le (show 0 ≤ -exponent by omega)
    obtain rfl : exponent = -n := by omega
    rw [ofRatio_eq negative _ (by positivity)]
    simp [div_eq_mul_inv]

/-- The integer part of a finite number is its magnitude cut down, with its sign. -/
theorem truncate?_finite (negative : Bool) {m : ℕ} {e : ℤ} (h : Canonical m e) :
    (finite negative m e h).truncate? =
      some (if negative then -⌊(m : ℚ) * 2 ^ e⌋ else ⌊(m : ℚ) * 2 ^ e⌋) := by
  have cut : ⌊(m : ℚ) * 2 ^ e⌋ =
      ((if 0 ≤ e then m * 2 ^ e.toNat else m / 2 ^ (-e).toNat : ℕ) : ℤ) := by
    split_ifs with he
    · obtain ⟨n, rfl⟩ := Int.eq_ofNat_of_zero_le he
      have whole : (m : ℚ) * 2 ^ (n : ℤ) = ((m * 2 ^ n : ℕ) : ℚ) := by simp
      rw [whole, Int.toNat_natCast, Int.floor_natCast]
    · obtain ⟨n, hn⟩ := Int.eq_ofNat_of_zero_le (show 0 ≤ -e by omega)
      obtain rfl : e = -n := by omega
      have part : (m : ℚ) * 2 ^ (-(n : ℤ)) = (m : ℚ) / ((2 ^ n : ℕ) : ℚ) := by
        simp [div_eq_mul_inv]
      rw [part, Rat.floor_natCast_div_natCast, neg_neg, Int.toNat_natCast]
      rfl
  rw [truncate?, cut]

end SourceLedger.Binary64
