import Mathlib.Data.Nat.Cast.Order.Field
import SourceLedger.Binary64.Shortest
import SourceLedger.Proofs.Binary64.Rounding

/-!
# Shortest decimals read back

A decimal of seventeen digits is within five parts in `10 ^ 17` of the number it was made for, so
that the search for a shorter one ends at the latest there. What it ends with reads back to the
number, and has no more than seventeen digits.
-/

namespace SourceLedger.Binary64

theorem ratio_eq (m : ℕ) (e : ℤ) :
    (ratio m e).2 ≠ 0 ∧ ((ratio m e).1 : ℚ) / (ratio m e).2 = m * 2 ^ e := by
  unfold ratio
  split_ifs with he
  · obtain ⟨n, rfl⟩ := Int.eq_ofNat_of_zero_le he
    simp
  · obtain ⟨n, hn⟩ := Int.eq_ofNat_of_zero_le (show 0 ≤ -e by omega)
    obtain rfl : e = -n := by omega
    simp [div_eq_mul_inv]

theorem ratio_log_lt {m : ℕ} {e : ℤ} (h : Canonical m e) (hm : m ≠ 0) :
    (ratio m e).1 ≠ 0 ∧ (ratio m e).1.log2 < 1024 ∧ (ratio m e).2.log2 ≤ 1074 := by
  obtain ⟨small, least, greatest, _⟩ := h
  unfold ratio
  split_ifs with he
  · refine ⟨mul_ne_zero hm (by positivity), ?_, Nat.zero_le _⟩
    rw [Nat.log2_lt (mul_ne_zero hm (by positivity))]
    calc m * 2 ^ e.toNat < 2 ^ 53 * 2 ^ e.toNat := Nat.mul_lt_mul_of_pos_right small (by positivity)
      _ = 2 ^ (53 + e.toNat) := (pow_add _ _ _).symm
      _ ≤ 2 ^ 1024 := Nat.pow_le_pow_right two_pos (by omega)
  · refine ⟨hm, ?_, ?_⟩
    · exact ((Nat.log2_lt hm).mpr small).trans (by norm_num)
    · rw [Nat.log2_two_pow]
      omega

theorem inUnits_eq (num : ℕ) {den : ℕ} (h : den ≠ 0) (unit : ℤ) :
    (inUnits num den unit).2 ≠ 0 ∧
      ((inUnits num den unit).1 : ℚ) / (inUnits num den unit).2 = num / den / 10 ^ unit := by
  unfold inUnits
  split_ifs with hu
  · obtain ⟨n, rfl⟩ := Int.eq_ofNat_of_zero_le hu
    simp [h, div_div]
  · obtain ⟨n, hn⟩ := Int.eq_ofNat_of_zero_le (show 0 ≤ -unit by omega)
    obtain rfl : unit = -n := by omega
    simp [h, div_eq_mul_inv, mul_right_comm]

theorem reaches_unit_iff (num : ℕ) {den : ℕ} (h : den ≠ 0) (unit : ℤ) :
    (inUnits num den unit).2 ≤ (inUnits num den unit).1 ↔ (10 : ℚ) ^ unit ≤ num / den := by
  obtain ⟨hd, hq⟩ := inUnits_eq num h unit
  have positive : (0 : ℚ) < (inUnits num den unit).2 := by exact_mod_cast Nat.pos_of_ne_zero hd
  have scale : (0 : ℚ) < 10 ^ unit := by positivity
  rw [← one_le_div₀ scale, ← hq, one_le_div₀ positive, Nat.cast_le]

/-- The decimal exponent is right for quotients that are not beyond all measure. -/
theorem decimalExponent_spec {num den : ℕ} (hn : num ≠ 0) (hd : den ≠ 0)
    (least : -100000 < (num.log2 - den.log2 : ℤ)) (most : (num.log2 - den.log2 : ℤ) < 100000) :
    (10 : ℚ) ^ decimalExponent num den ≤ num / den ∧
      (num : ℚ) / den < 10 ^ (decimalExponent num den + 1) := by
  obtain ⟨low, high⟩ := ratio_bounds hn hd
  generalize hb : (num.log2 - den.log2 - 1 : ℤ) = bits at *
  have estimateLow : (10 : ℚ) ^ (bits * 30103 / 100000 - 1) ≤ num / den := by
    have := ten_zpow_le bits (bits * 30103 / 100000) (by omega) (by omega)
    have positive : (0 : ℚ) < 2 ^ bits := by positivity
    rw [zpow_sub_one₀ (by norm_num), ← div_eq_mul_inv]
    linarith
  have estimateHigh : (num : ℚ) / den < 10 ^ (bits * 30103 / 100000 - 1 + 3) := by
    have := two_zpow_le bits (bits * 30103 / 100000 + 1) (by omega) (by omega)
    rw [show bits * 30103 / 100000 - 1 + 3 = bits * 30103 / 100000 + 1 + 1 by ring,
      zpow_add_one₀ (by norm_num)]
    have scale : (0 : ℚ) < 10 ^ (bits * 30103 / 100000 + 1) := by positivity
    have : (2 : ℚ) ^ (num.log2 - den.log2 + 1 : ℤ) = 2 ^ bits * 4 := by
      rw [show (num.log2 - den.log2 + 1 : ℤ) = bits + 2 by omega, zpow_add₀ two_ne_zero]
      norm_num
    linarith
  simp only [decimalExponent, decide_eq_true_eq, reaches_unit_iff num hd, hb]
  split_ifs with h3 h2 h1
  · exact absurd h3 (not_le.mpr estimateHigh)
  · exact ⟨h2, by rw [add_assoc]; exact estimateHigh⟩
  · exact ⟨h1, by rw [add_assoc]; exact not_le.mp h2⟩
  · exact ⟨estimateLow, not_le.mp h1⟩

theorem onGrid?_eq_some {x : Binary64} {num den : ℕ} {unit : ℤ} {d : Decimal}
    (h : onGrid? x num den unit = some d) :
    d.toBinary64 = x ∧ d.exponent = unit ∧
      d.digits ≤ (inUnits num den unit).1 / (inUnits num den unit).2 + 1 := by
  unfold onGrid? at h
  simp only at h
  split at h
  · next below above =>
    split at h <;> cases h
    · exact ⟨of_decide_eq_true below, rfl, Nat.le_succ _⟩
    · exact ⟨of_decide_eq_true above, rfl, le_rfl⟩
  · next below _ =>
    cases h
    exact ⟨of_decide_eq_true below, rfl, Nat.le_succ _⟩
  · next _ above =>
    cases h
    exact ⟨of_decide_eq_true above, rfl, le_rfl⟩
  · cases h

/-- The whole units of a quotient. -/
theorem floor_inUnits (num : ℕ) {den : ℕ} (hd : den ≠ 0) (unit : ℤ) :
    let k := (inUnits num den unit).1 / (inUnits num den unit).2
    (k : ℚ) * 10 ^ unit ≤ num / den ∧ (num : ℚ) / den < (k + 1) * 10 ^ unit := by
  intro k
  obtain ⟨hden, hq⟩ := inUnits_eq num hd unit
  have scale : (0 : ℚ) < 10 ^ unit := by positivity
  have positive : (0 : ℚ) < (inUnits num den unit).2 := by exact_mod_cast Nat.pos_of_ne_zero hden
  rw [← le_div_iff₀ scale, ← div_lt_iff₀ scale, ← hq]
  refine ⟨Nat.cast_div_le, ?_⟩
  rw [div_lt_iff₀ positive]
  exact_mod_cast Nat.lt_mul_of_div_lt (Nat.lt_succ_self k) (Nat.pos_of_ne_zero hden)

/-- A decimal reads as a number that is no more than half a unit away, if its unit is no more than
one part in `10 ^ 16` of that number. -/
theorem toBinary64_near {m : ℕ} {e : ℤ} (h : Canonical m e) (hm : m ≠ 0) {k : ℕ} {unit : ℤ}
    (small : k ≤ 10 ^ 17) (fine : 10 ^ 16 * 10 ^ unit ≤ (m : ℚ) * 2 ^ e)
    (near : |(k : ℚ) * 10 ^ unit - m * 2 ^ e| ≤ 10 ^ unit / 2) :
    Decimal.toBinary64 ⟨k, unit⟩ = .finite false m e h := by
  have bounded : k < 2 ^ 128 := small.trans_lt (by norm_num)
  rw [Decimal.toBinary64, ofDecimal_eq false bounded]
  refine ofRat_near false h hm (near.trans ?_)
  linarith

/-- One of the two neighbours on a grid is no more than half a unit away. -/
theorem onGrid?_isSome {m : ℕ} {e : ℤ} (h : Canonical m e) (hm : m ≠ 0) {num den : ℕ}
    (hd : den ≠ 0) (value : (num : ℚ) / den = m * 2 ^ e) {unit : ℤ}
    (fine : (10 : ℚ) ^ (unit + 16) ≤ m * 2 ^ e) (coarse : (m : ℚ) * 2 ^ e < 10 ^ (unit + 17)) :
    (onGrid? (.finite false m e h) num den unit).isSome := by
  obtain ⟨floor, ceiling⟩ := floor_inUnits num hd unit
  unfold onGrid?
  simp only
  generalize (inUnits num den unit).1 / (inUnits num den unit).2 = k at *
  rw [value] at floor ceiling
  have scale : (0 : ℚ) < 10 ^ unit := by positivity
  rw [zpow_add₀ (by norm_num), mul_comm (10 ^ unit : ℚ), zpow_ofNat] at fine coarse
  have whole : k + 1 ≤ 10 ^ 17 := by
    have : (k : ℚ) < 10 ^ 17 := lt_of_mul_lt_mul_right (floor.trans_lt coarse) scale.le
    exact_mod_cast this
  rcases le_or_gt (m * 2 ^ e - k * 10 ^ unit : ℚ) (10 ^ unit / 2) with near | far
  · have below := toBinary64_near h hm (Nat.le_of_succ_le whole) fine
      (abs_le.mpr ⟨by linarith, by linarith⟩)
    simp only [below]
    split <;> simp_all
  · have above := toBinary64_near h hm whole fine (by
      push_cast
      exact abs_le.mpr ⟨by linarith, by linarith⟩)
    simp only [above]
    split <;> simp_all

/-- A search that is successful on one of its grids ends with a decimal that reads back. -/
theorem shortestFrom_spec {x : Binary64} {num den : ℕ} (hd : den ≠ 0) {bound : ℤ}
    (coarse : (num : ℚ) / den < 10 ^ bound) :
    ∀ (grids : ℕ) (unit : ℤ),
      (∃ j < grids, (onGrid? x num den (unit - j)).isSome) → bound ≤ unit - grids + 18 →
      (shortestFrom x num den grids unit).toBinary64 = x ∧
        (shortestFrom x num den grids unit).digits ≤ 10 ^ 17 := by
  intro grids
  induction grids with
  | zero => rintro _ ⟨j, hj, _⟩; exact absurd hj (Nat.not_lt_zero j)
  | succ grids ih =>
    rintro unit ⟨j, hj, hit⟩ hb
    rw [shortestFrom]
    split
    · next d hd' =>
      obtain ⟨reads, _, small⟩ := onGrid?_eq_some hd'
      refine ⟨reads, small.trans ?_⟩
      obtain ⟨hden, hq⟩ := inUnits_eq num hd unit
      have : ((inUnits num den unit).1 : ℚ) / (inUnits num den unit).2 < 10 ^ 17 := by
        rw [hq, div_lt_iff₀ (by positivity), ← zpow_natCast, ← zpow_add₀ (by norm_num)]
        exact coarse.trans_le (zpow_le_zpow_right₀ (by norm_num) (by push_cast at hb ⊢; omega))
      have : (((inUnits num den unit).1 / (inUnits num den unit).2 : ℕ) : ℚ) < 10 ^ 17 :=
        Nat.cast_div_le.trans_lt this
      exact_mod_cast this
    · next miss =>
      refine ih (unit - 1) ?_ (by push_cast at hb; omega)
      cases j with
      | zero => simp [miss] at hit
      | succ j =>
        refine ⟨j, by omega, ?_⟩
        rwa [show unit - 1 - (j : ℤ) = unit - ((j + 1 : ℕ) : ℤ) by push_cast; ring]

theorem shortestFrom_exponent (x : Binary64) (num den : ℕ) :
    ∀ (grids : ℕ) (unit : ℤ), unit - grids ≤ (shortestFrom x num den grids unit).exponent ∧
      (shortestFrom x num den grids unit).exponent ≤ unit := by
  intro grids
  induction grids with
  | zero =>
    intro unit
    simp [shortestFrom]
  | succ grids ih =>
    intro unit
    rw [shortestFrom]
    split
    · next d hd =>
      obtain ⟨_, he, _⟩ := onGrid?_eq_some hd
      omega
    · have := ih (unit - 1)
      omega

/-- The shortest decimal of a magnitude reads back to it. -/
theorem shortest_reads {m : ℕ} {e : ℤ} (h : Canonical m e) :
    (shortest m e h).toBinary64 = .finite false m e h ∧ (shortest m e h).digits ≤ 10 ^ 17 := by
  by_cases hm : m = 0
  · subst hm
    obtain rfl : e = -1074 := h.2.2.2.resolve_left (by norm_num)
    simp only [shortest, if_pos]
    exact ⟨rfl, Nat.zero_le _⟩
  obtain ⟨hd, value⟩ := ratio_eq m e
  obtain ⟨hn, numLog, denLog⟩ := ratio_log_lt h hm
  rw [shortest, if_neg hm]
  generalize ratio m e = r at *
  obtain ⟨num, den⟩ := r
  simp only at hd value hn numLog denLog ⊢
  obtain ⟨low, high⟩ := decimalExponent_spec hn hd (by omega) (by omega)
  refine shortestFrom_spec hd high 17 _ ⟨16, by norm_num, ?_⟩ (by push_cast; omega)
  rw [value] at low high
  refine onGrid?_isSome h hm hd value ?_ ?_ <;> push_cast
  · rwa [sub_add_cancel]
  · rwa [show decimalExponent num den - 16 + 17 = decimalExponent num den + 1 by ring]

theorem shortest_exponent {m : ℕ} {e : ℤ} (h : Canonical m e) :
    -1000 < (shortest m e h).exponent ∧ (shortest m e h).exponent < 1000 := by
  unfold shortest
  split_ifs with hm
  · norm_num
  · obtain ⟨_, numLog, denLog⟩ := ratio_log_lt h hm
    have range := shortestFrom_exponent (.finite false m e h) (ratio m e).1 (ratio m e).2 17
      (decimalExponent (ratio m e).1 (ratio m e).2)
    have near : -400 < decimalExponent (ratio m e).1 (ratio m e).2 ∧
        decimalExponent (ratio m e).1 (ratio m e).2 < 400 := by
      unfold decimalExponent
      simp only
      split_ifs <;> omega
    constructor
    · refine lt_of_lt_of_le ?_ range.1
      omega
    · exact lt_of_le_of_lt range.2 (by omega)

end SourceLedger.Binary64
