import Mathlib.Data.Nat.Digits.Lemmas
import SourceLedger.Text.Digits
import SourceLedger.Binary64.Reading

/-!
# Numerals read back

The digits that a number is written with stand for that number, none of them is the base or more,
and the first is zero only for zero. What is read from digits is what they stand for, leading
zeros included.
-/

namespace SourceLedger.Numeral

theorem digitsFrom_eq {base : ℕ} (hb : 1 < base) :
    ∀ (fuel n : ℕ) (later : List ℕ), n ≠ 0 → n < 2 ^ fuel →
      digitsFrom base fuel n later = (Nat.digits base n).reverse ++ later := by
  intro fuel
  induction fuel with
  | zero =>
    intro n _ hn h
    exact absurd (Nat.lt_one_iff.mp h) hn
  | succ fuel ih =>
    intro n later hn h
    rw [digitsFrom]
    split_ifs with small
    · rw [Nat.digits_of_lt base n hn small]
      rfl
    · have positive : n / base ≠ 0 := (Nat.div_pos (not_lt.mp small) (by omega)).ne'
      have less : n / base < 2 ^ fuel := by
        have : n / base ≤ n / 2 := Nat.div_le_div_left hb two_pos
        omega
      rw [ih _ _ positive less, Nat.digits_eq_cons_digits_div hb hn]
      simp

/-- The digits are those of the library, the most significant first. -/
theorem digits_eq {base : ℕ} (hb : 1 < base) {n : ℕ} (hn : n ≠ 0) :
    digits base n = (Nat.digits base n).reverse := by
  rw [digits, digitsFrom_eq hb _ _ _ hn Nat.lt_log2_self, List.append_nil]

theorem digits_zero {base : ℕ} (hb : 1 < base) : digits base 0 = [0] := by
  simp [digits, digitsFrom, Nat.zero_lt_of_lt hb]

theorem value_eq (base : ℕ) (ds : List ℕ) : value base ds = Nat.ofDigits base ds.reverse := by
  rw [value, Nat.ofDigits_eq_foldr, List.foldr_reverse]
  congr 1
  funext n d
  simp only [Nat.cast_id]
  ring

theorem value_digits {base : ℕ} (hb : 1 < base) (n : ℕ) : value base (digits base n) = n := by
  by_cases hn : n = 0
  · subst hn
    rw [digits_zero hb]
    simp [value]
  · rw [value_eq, digits_eq hb hn, List.reverse_reverse, Nat.ofDigits_digits]

theorem value_append (base : ℕ) (ds es : List ℕ) :
    value base (ds ++ es) = value base ds * base ^ es.length + value base es := by
  simp only [value_eq, List.reverse_append, Nat.ofDigits_append, List.length_reverse]
  ring

theorem value_replicate_zero (base n : ℕ) : value base (List.replicate n 0) = 0 := by
  rw [value_eq, List.reverse_replicate, Nat.ofDigits_replicate_zero]

theorem value_lt {base : ℕ} (hb : 1 < base) {ds : List ℕ} (h : ∀ d ∈ ds, d < base) :
    value base ds < base ^ ds.length := by
  rw [value_eq, ← List.length_reverse]
  exact Nat.ofDigits_lt_base_pow_length hb fun d hd => h d (List.mem_reverse.mp hd)

theorem lt_of_mem_digits {base : ℕ} (hb : 1 < base) {n d : ℕ} (h : d ∈ digits base n) :
    d < base := by
  by_cases hn : n = 0
  · subst hn
    rw [digits_zero hb, List.mem_singleton] at h
    omega
  · rw [digits_eq hb hn, List.mem_reverse] at h
    exact Nat.digits_lt_base hb h

theorem digits_ne_nil {base : ℕ} (hb : 1 < base) (n : ℕ) : digits base n ≠ [] := by
  by_cases hn : n = 0
  · subst hn
    simp [digits_zero hb]
  · simpa [digits_eq hb hn] using Nat.digits_ne_nil_iff_ne_zero.mpr hn

theorem head?_digits (base : ℕ) (hb : 1 < base) {n : ℕ} (hn : n ≠ 0) :
    (digits base n).head? ≠ some 0 := by
  rw [digits_eq hb hn, List.head?_reverse,
    List.getLast?_eq_getLast_of_ne_nil (Nat.digits_ne_nil_iff_ne_zero.mpr hn)]
  simpa using Nat.getLast_digit_ne_zero base hn

theorem length_digits_le {base : ℕ} (hb : 1 < base) {n k : ℕ} (hk : k ≠ 0) (h : n < base ^ k) :
    (digits base n).length ≤ k := by
  by_cases hn : n = 0
  · subst hn
    simpa [digits_zero hb] using Nat.one_le_iff_ne_zero.mpr hk
  · rw [digits_eq hb hn, List.length_reverse]
    exact (Nat.digits_length_le_iff hb n).mpr h

theorem digitValue?_digitChar : ∀ d < 36, digitValue? (digitChar d) = some d := by decide

theorem isDigit_digitChar {d : ℕ} (h : d < 10) : isDigit 10 (digitChar d) := by
  simp [isDigit, digitValue?_digitChar d (by omega), h]

theorem foldlM_map {base : ℕ} (hb : base ≤ 36) {ds : List ℕ} (h : ∀ d ∈ ds, d < base) (n : ℕ) :
    (ds.map digitChar).foldlM (fun n c =>
      match digitValue? c with
      | some d => if d < base then some (n * base + d) else none
      | none => none) n = some (ds.foldl (fun n d => n * base + d) n) := by
  induction ds generalizing n with
  | nil => rfl
  | cons d ds ih =>
      have hd : d < base := h d List.mem_cons_self
      rw [List.map_cons, List.foldlM_cons, digitValue?_digitChar d (by omega)]
      simp only [if_pos hd, Option.bind_eq_bind, Option.bind_some, List.foldl_cons]
      exact ih (fun e he => h e (List.mem_cons_of_mem d he)) _

theorem ofChars?_map {base : ℕ} (hb : base ≤ 36) {ds : List ℕ} (hne : ds ≠ [])
    (h : ∀ d ∈ ds, d < base) : ofChars? base (ds.map digitChar) = some (value base ds) := by
  rw [ofChars?, if_neg (by simpa using hne)]
  exact foldlM_map hb h 0

/-- A number is read back from its digits. -/
theorem ofChars?_decimal (n : ℕ) : ofChars? 10 (decimal n) = some n := by
  rw [decimal, ofChars?_map (by norm_num) (digits_ne_nil (by norm_num) n)
    fun d => lt_of_mem_digits (by norm_num), value_digits (by norm_num)]

theorem padded_eq (width n : ℕ) :
    ∃ zeros, padded width n = (List.replicate zeros 0 ++ digits 10 n).map digitChar := by
  refine ⟨width - (decimal n).length, ?_⟩
  rw [padded, List.map_append, List.map_replicate]
  rfl

end SourceLedger.Numeral

namespace SourceLedger.Binary64.DecimalParts

open Numeral

theorem natOf_map {ds : List ℕ} (h : ∀ d ∈ ds, d < 10) :
    natOf (ds.map digitChar) = value 10 ds := by
  by_cases hne : ds = []
  · subst hne
    rfl
  · rw [natOf, ofChars?_map (by norm_num) hne h, Option.getD_some]

/-- Leading zeros of an exponent make no difference. -/
theorem exponentOf_map {ds : List ℕ} (h : ∀ d ∈ ds, d < 10) (small : value 10 ds < 10 ^ 20) :
    exponentOf (ds.map digitChar) = value 10 ds := by
  induction ds with
  | nil => rfl
  | cons d ds ih =>
    have rest : ∀ e ∈ ds, e < 10 := fun e he => h e (List.mem_cons_of_mem d he)
    by_cases hd : d = 0
    · subst hd
      have same : value 10 (0 :: ds) = value 10 ds := by simp [value]
      rw [same] at small ⊢
      rw [← ih rest small]
      simp [exponentOf, digitChar]
    · have first : digitChar d ≠ '0' := by
        intro hc
        have := digitValue?_digitChar d ((h d List.mem_cons_self).trans (by norm_num))
        rw [hc] at this
        exact hd (Option.some.inj this).symm
      have short : (d :: ds).length ≤ 20 := by
        by_contra long
        have : value 10 (d :: ds) = d * 10 ^ ds.length + value 10 ds := by
          simpa [value] using value_append 10 [d] ds
        have : 10 ^ 20 ≤ 10 ^ ds.length :=
          Nat.pow_le_pow_right (by norm_num) (by simp at long; omega)
        have : 1 * 10 ^ ds.length ≤ d * 10 ^ ds.length :=
          Nat.mul_le_mul_right _ (Nat.one_le_iff_ne_zero.mpr hd)
        omega
      rw [exponentOf, List.map_cons, List.dropWhile_cons_of_neg (by simpa using first),
        ← List.map_cons, if_neg (by simpa using short), natOf_map h]

end SourceLedger.Binary64.DecimalParts
