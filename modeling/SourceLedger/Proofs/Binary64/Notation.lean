import SourceLedger.Proofs.Binary64.Shortest
import SourceLedger.Proofs.Text.Numeral

/-!
# The notation of numbers

However a decimal is laid out, its text consists of digits with a point or an exponent or both
among them. A `Lexeme` has these parts as digits; the text of a decimal is that of a lexeme that
stands for the same number, and what is split off the text again are the parts of the lexeme.
-/

namespace SourceLedger.Binary64

open Numeral

/-- The parts of an unsigned decimal, digit by digit. -/
structure Lexeme where
  whole : List ℕ
  fraction : List ℕ
  /-- Whether the exponent is negative, and its digits. -/
  exponent : Option (Bool × List ℕ)

namespace Lexeme

def fractionChars (l : Lexeme) : List Char :=
  if l.fraction = [] then [] else '.' :: l.fraction.map digitChar

def exponentChars (l : Lexeme) : List Char :=
  match l.exponent with
  | none => []
  | some (negative, ds) => 'e' :: (if negative then '-' else '+') :: ds.map digitChar

def chars (l : Lexeme) : List Char :=
  l.whole.map digitChar ++ l.fractionChars ++ l.exponentChars

def exponentValue (l : Lexeme) : ℤ :=
  match l.exponent with
  | none => 0
  | some (negative, ds) => if negative then -(value 10 ds : ℤ) else value 10 ds

/-- The digits on both sides of the point as one number. -/
def digits (l : Lexeme) : ℕ := value 10 (l.whole ++ l.fraction)

/-- The power of ten that the digits are multiplied by. -/
def scale (l : Lexeme) : ℤ := l.exponentValue - l.fraction.length

/-- What the writer of numbers keeps to. -/
structure Valid (l : Lexeme) : Prop where
  whole_lt : ∀ d ∈ l.whole, d < 10
  whole_ne_nil : l.whole ≠ []
  leading : l.whole = [0] ∨ l.whole.head? ≠ some 0
  fraction_lt : ∀ d ∈ l.fraction, d < 10
  exponent_lt : ∀ negative ds, l.exponent = some (negative, ds) →
    ds ≠ [] ∧ (∀ d ∈ ds, d < 10) ∧ value 10 ds < 10 ^ 20
  /-- An integer would have neither. -/
  marked : l.fraction ≠ [] ∨ l.exponent ≠ none

end Lexeme

theorem span_digits {ds : List ℕ} (h : ∀ d ∈ ds, d < 10) (rest : List Char)
    (hr : ∀ c ∈ rest.head?, isDigit 10 c = false) :
    (ds.map digitChar ++ rest).takeWhile (isDigit 10) = ds.map digitChar ∧
      (ds.map digitChar ++ rest).dropWhile (isDigit 10) = rest := by
  have digits : ∀ c ∈ ds.map digitChar, isDigit 10 c = true := by
    simp only [List.mem_map]
    rintro _ ⟨d, hd, rfl⟩
    exact isDigit_digitChar (h d hd)
  have none : rest.takeWhile (isDigit 10) = [] ∧ rest.dropWhile (isDigit 10) = rest := by
    cases rest with
    | nil => exact ⟨rfl, rfl⟩
    | cons c rest =>
      have := hr c rfl
      exact ⟨List.takeWhile_cons_of_neg (by simp [this]),
        List.dropWhile_cons_of_neg (by simp [this])⟩
  rw [List.takeWhile_append_of_pos digits, List.dropWhile_append_of_pos digits, none.1, none.2,
    List.append_nil]
  exact ⟨rfl, rfl⟩

namespace Lexeme

/-- What ends a number: neither a digit nor a part of a number follows. -/
def Ends (rest : List Char) : Prop :=
  ∀ c ∈ rest.head?, isDigit 10 c = false ∧ c ≠ '.' ∧ c ≠ 'e' ∧ c ≠ 'E'

variable {l : Lexeme} {rest : List Char}

theorem exponentChars_head (hr : ∀ c ∈ rest.head?, isDigit 10 c = false) :
    ∀ c ∈ (l.exponentChars ++ rest).head?, isDigit 10 c = false := by
  unfold exponentChars
  split
  · exact hr
  · rintro _ ⟨rfl⟩
    decide

theorem fractionChars_head (hr : ∀ c ∈ rest.head?, isDigit 10 c = false) :
    ∀ c ∈ (l.fractionChars ++ (l.exponentChars ++ rest)).head?, isDigit 10 c = false := by
  unfold fractionChars
  split_ifs
  · exact exponentChars_head hr
  · rintro _ ⟨rfl⟩
    decide

theorem nil_head : ∀ c ∈ ([] : List Char).head?, isDigit 10 c = false := by
  rintro _ ⟨⟩

/-- What is left behind the point and the fraction is the exponent. -/
theorem split?_exponent (h : l.Valid) :
    (match l.exponentChars with
      | [] => some (⟨l.whole.map digitChar, l.fraction.map digitChar, 0⟩ : DecimalParts)
      | e :: after =>
        if e = 'e' ∨ e = 'E' then
          let (negative, digits) :=
            match after with
            | '-' :: ds => (true, ds)
            | '+' :: ds => (false, ds)
            | ds => (false, ds)
          if digits.isEmpty || !digits.all DecimalParts.isDigit then none
          else
            let value : Int := DecimalParts.exponentOf digits
            some ⟨l.whole.map digitChar, l.fraction.map digitChar,
              if negative then -value else value⟩
        else none) =
      some ⟨l.whole.map digitChar, l.fraction.map digitChar, l.exponentValue⟩ := by
  obtain ⟨whole, fraction, exponent⟩ := l
  rcases exponent with _ | ⟨negative, ds⟩
  · rfl
  · obtain ⟨hne, hlt, small⟩ := h.exponent_lt negative ds rfl
    have digits : (ds.map digitChar).all DecimalParts.isDigit = true := by
      simp only [List.all_map, List.all_eq_true]
      exact fun d hd => isDigit_digitChar (hlt d hd)
    cases negative <;>
      simp [exponentChars, exponentValue, digits, DecimalParts.exponentOf_map hlt small, hne]

/-- Splitting the text of a lexeme gives its parts. -/
theorem split?_chars (h : l.Valid) :
    DecimalParts.split? l.chars =
      some ⟨l.whole.map digitChar, l.fraction.map digitChar, l.exponentValue⟩ := by
  have hdigit : DecimalParts.isDigit = isDigit 10 := rfl
  have wholeParts := span_digits h.whole_lt (l.fractionChars ++ (l.exponentChars ++ []))
    (fractionChars_head nil_head)
  have fractionParts := span_digits h.fraction_lt (l.exponentChars ++ [])
    (exponentChars_head nil_head)
  rw [List.append_nil] at wholeParts fractionParts
  rw [← split?_exponent h, DecimalParts.split?, hdigit, chars, List.append_assoc, wholeParts.1,
    wholeParts.2]
  have start : (l.whole.map digitChar).isEmpty = false := by
    simpa using h.whole_ne_nil
  by_cases hf : l.fraction = []
  · have first : l.exponentChars = [] ∨ ∃ after, l.exponentChars = 'e' :: after := by
      unfold exponentChars
      split
      · exact Or.inl rfl
      · exact Or.inr ⟨_, rfl⟩
    rw [fractionChars, if_pos hf, List.nil_append]
    rcases first with first | ⟨after, first⟩ <;>
    · simp only [hf, start, first]
      rfl
  · rw [fractionChars, if_neg hf, List.cons_append]
    simp only [fractionParts, start, Bool.false_and]
    rfl

theorem toBinary64_split (negative : Bool) (h : l.Valid) :
    (DecimalParts.split? l.chars).map (DecimalParts.toBinary64 negative) =
      some (ofDecimal negative l.digits l.scale) := by
  have digits : ∀ d ∈ l.whole ++ l.fraction, d < 10 := by
    intro d hd
    rcases List.mem_append.mp hd with hd | hd
    · exact h.whole_lt d hd
    · exact h.fraction_lt d hd
  rw [split?_chars h, Option.map_some, DecimalParts.toBinary64, ← List.map_append,
    DecimalParts.natOf_map digits, List.length_map]
  rfl

end Lexeme

/-- Trailing zeros are moved from the digits to the exponent. -/
theorem trim_eq : ∀ (fuel digits : ℕ) (exponent : ℤ),
    ((trim fuel digits exponent).1 : ℚ) * 10 ^ (trim fuel digits exponent).2 =
      digits * 10 ^ exponent := by
  intro fuel
  induction fuel with
  | zero =>
    intro digits exponent
    rfl
  | succ fuel ih =>
    intro digits exponent
    rw [trim]
    split_ifs with h
    · obtain ⟨k, rfl⟩ := Nat.dvd_of_mod_eq_zero h.2
      rw [ih, Nat.mul_div_cancel_left k (by norm_num), zpow_add_one₀ (by norm_num)]
      push_cast
      ring
    · rfl

theorem trim_bounds : ∀ (fuel digits : ℕ) (exponent : ℤ),
    (trim fuel digits exponent).1 ≤ digits ∧ exponent ≤ (trim fuel digits exponent).2 ∧
      (trim fuel digits exponent).2 ≤ exponent + fuel := by
  intro fuel
  induction fuel with
  | zero =>
    intro digits exponent
    simp [trim]
  | succ fuel ih =>
    intro digits exponent
    rw [trim]
    split_ifs with h
    · obtain ⟨h1, h2, h3⟩ := ih (digits / 10) (exponent + 1)
      refine ⟨h1.trans (Nat.div_le_self _ _), by omega, by push_cast; omega⟩
    · simp only [le_refl, true_and]
      omega

namespace Lexeme

/-- A lexeme is right for digits and a unit when it stands for the same number. -/
structure Writes (l : Lexeme) (n : ℕ) (unit : ℤ) : Prop where
  valid : l.Valid
  value_eq : (l.digits : ℚ) * 10 ^ l.scale = n * 10 ^ unit
  digits_lt : l.digits < 2 ^ 128

theorem writes_zero (unit : ℤ) : (⟨[0], [0], none⟩ : Lexeme).Writes 0 unit where
  valid :=
    { whole_lt := by simp
      whole_ne_nil := by simp
      leading := Or.inl rfl
      fraction_lt := by simp
      exponent_lt := by simp
      marked := Or.inl (by simp) }
  value_eq := by simp [digits, value]
  digits_lt := by simp [digits, value]

variable {n : ℕ} {unit : ℤ}

theorem lt_ten {d : ℕ} (h : d ∈ Numeral.digits 10 n) : d < 10 := lt_of_mem_digits (by norm_num) h

/-- One digit before the point, and an exponent. -/
theorem writes_scientific (hn : n ≠ 0) (small : n ≤ 10 ^ 17) {c : ℕ} {rest : List ℕ}
    (hds : Numeral.digits 10 n = c :: rest) (bound : (unit + rest.length).natAbs < 10 ^ 20)
    (zeros : ℕ) :
    (⟨[c], rest, some (decide (unit + rest.length < 0),
      List.replicate zeros 0 ++ Numeral.digits 10 (unit + rest.length).natAbs)⟩ : Lexeme).Writes
      n unit := by
  have lt : ∀ d ∈ c :: rest, d < 10 := fun d hd => lt_ten (hds ▸ hd)
  have total : value 10 (c :: rest) = n := by rw [← hds, value_digits (by norm_num)]
  have exponent :
      value 10 (List.replicate zeros 0 ++ Numeral.digits 10 (unit + rest.length).natAbs) =
        (unit + rest.length).natAbs := by
    rw [value_append, value_replicate_zero, value_digits (by norm_num)]
    simp
  refine ⟨⟨?_, by simp, Or.inr ?_, ?_, ?_, Or.inr (by simp)⟩, ?_, ?_⟩
  · exact fun d hd => lt d (by simp_all)
  · simpa [hds] using head?_digits 10 (by norm_num) hn
  · exact fun d hd => lt d (List.mem_cons_of_mem c hd)
  · rintro negative ds ⟨rfl, rfl⟩
    refine ⟨by simp [digits_ne_nil], ?_, by rwa [exponent]⟩
    intro d hd
    rcases List.mem_append.mp hd with hd | hd
    · rw [List.eq_of_mem_replicate hd]
      norm_num
    · exact lt_ten hd
  · have : (⟨[c], rest, some (decide (unit + rest.length < 0),
        List.replicate zeros 0 ++ Numeral.digits 10 (unit + rest.length).natAbs)⟩ : Lexeme).scale =
        unit := by
      simp only [scale, exponentValue, exponent, decide_eq_true_eq]
      split_ifs <;> omega
    rw [this]
    simp only [digits, List.singleton_append, total]
  · simp only [digits, List.singleton_append, total]
    omega

/-- A number with a point and no exponent. -/
theorem writes_pointed {whole fraction : List ℕ} (lt : ∀ d ∈ whole ++ fraction, d < 10)
    (start : whole ≠ []) (leading : whole = [0] ∨ whole.head? ≠ some 0) (point : fraction ≠ [])
    (value_eq : (value 10 (whole ++ fraction) : ℚ) * 10 ^ (-fraction.length : ℤ) = n * 10 ^ unit)
    (digits_lt : value 10 (whole ++ fraction) < 2 ^ 128) :
    (⟨whole, fraction, none⟩ : Lexeme).Writes n unit where
  valid :=
    { whole_lt := fun d hd => lt d (List.mem_append_left _ hd)
      whole_ne_nil := start
      leading := leading
      fraction_lt := fun d hd => lt d (List.mem_append_right _ hd)
      exponent_lt := by simp
      marked := Or.inl point }
  value_eq := by simpa [digits, scale, exponentValue] using value_eq
  digits_lt := digits_lt

/-- A zero before the point. -/
theorem writes_small (small : n ≤ 10 ^ 17) (h : unit + (Numeral.digits 10 n).length - 1 < 0) :
    (⟨[0], List.replicate ((-(unit + (Numeral.digits 10 n).length - 1)).toNat - 1) 0 ++
      Numeral.digits 10 n, none⟩ : Lexeme).Writes n unit := by
  set zeros := (-(unit + (Numeral.digits 10 n).length - 1)).toNat - 1 with hz
  have total : value 10 ([0] ++ (List.replicate zeros 0 ++ Numeral.digits 10 n)) = n := by
    rw [value_append, value_append, value_replicate_zero, value_digits (by norm_num)]
    simp [value]
  refine writes_pointed ?_ (by simp) (Or.inl rfl) (by simp [digits_ne_nil]) ?_ ?_
  · intro d hd
    simp only [List.mem_append, List.mem_singleton, List.mem_replicate] at hd
    rcases hd with rfl | ⟨_, rfl⟩ | hd
    · norm_num
    · norm_num
    · exact lt_ten hd
  · rw [total]
    congr 2
    simp only [List.length_append, List.length_replicate]
    omega
  · rw [total]
    omega

/-- Zeros between the digits and the point. -/
theorem writes_whole (hn : n ≠ 0) (hu : 0 ≤ unit)
    (h : unit + (Numeral.digits 10 n).length - 1 < 16) :
    (⟨Numeral.digits 10 n ++ List.replicate unit.toNat 0, [0], none⟩ : Lexeme).Writes n unit := by
  obtain ⟨zeros, rfl⟩ := Int.eq_ofNat_of_zero_le hu
  rw [Int.toNat_natCast]
  have total : value 10 (Numeral.digits 10 n ++ List.replicate zeros 0 ++ [0]) =
      n * 10 ^ zeros * 10 := by
    rw [value_append, value_append, value_replicate_zero, value_digits (by norm_num)]
    simp [value]
  have lt : ∀ d ∈ Numeral.digits 10 n ++ List.replicate zeros 0 ++ [0], d < 10 := by
    intro d hd
    simp only [List.mem_append, List.mem_singleton, List.mem_replicate] at hd
    rcases hd with (hd | ⟨_, rfl⟩) | rfl
    · exact lt_ten hd
    · norm_num
    · norm_num
  refine writes_pointed lt (by simp [digits_ne_nil]) (Or.inr ?_) (by simp) ?_ ?_
  · rw [List.head?_append_of_ne_nil _ (digits_ne_nil (by norm_num) n)]
    exact head?_digits 10 (by norm_num) hn
  · rw [total]
    push_cast
    simp [mul_assoc]
  · refine (value_lt (by norm_num) lt).trans_le ?_
    calc 10 ^ (Numeral.digits 10 n ++ List.replicate zeros 0 ++ [0]).length ≤ 10 ^ 18 :=
          Nat.pow_le_pow_right (by norm_num) (by simp; omega)
      _ ≤ 2 ^ 128 := by norm_num

/-- The point among the digits. -/
theorem writes_mixed (hn : n ≠ 0) (small : n ≤ 10 ^ 17) (hu : unit < 0)
    (h : 0 ≤ unit + (Numeral.digits 10 n).length - 1) :
    (⟨(Numeral.digits 10 n).take ((unit + (Numeral.digits 10 n).length - 1).toNat + 1),
      (Numeral.digits 10 n).drop ((unit + (Numeral.digits 10 n).length - 1).toNat + 1),
      none⟩ : Lexeme).Writes n unit := by
  have total : value 10 (Numeral.digits 10 n) = n := value_digits (by norm_num) n
  have start := head?_digits 10 (by norm_num) hn
  refine writes_pointed ?_ ?_ (Or.inr ?_) ?_ ?_ ?_
  · rw [List.take_append_drop]
    exact fun d => lt_ten
  · simp [digits_ne_nil]
  · rwa [List.head?_take, if_neg (Nat.succ_ne_zero _)]
  · simp only [ne_eq, List.drop_eq_nil_iff]
    omega
  · rw [List.take_append_drop, total]
    congr 2
    simp only [List.length_drop]
    omega
  · rw [List.take_append_drop, total]
    omega

end Lexeme

/-- A decimal of reasonable size is written as a lexeme. -/
theorem place_literal (d : Decimal) (small : d.digits ≤ 10 ^ 17) (least : -1000 < d.exponent)
    (most : d.exponent < 1000) :
    ∃ l : Lexeme, place .literal d = l.chars ∧ l.Writes d.digits d.exponent := by
  have same := trim_eq 20 d.digits d.exponent
  obtain ⟨less, expLow, expHigh⟩ := trim_bounds 20 d.digits d.exponent
  suffices h : ∃ l : Lexeme, place .literal d = l.chars ∧
      l.Writes (trim 20 d.digits d.exponent).1 (trim 20 d.digits d.exponent).2 by
    obtain ⟨l, text, writes⟩ := h
    exact ⟨l, text, writes.valid, writes.value_eq.trans same, writes.digits_lt⟩
  rw [place]
  generalize trim 20 d.digits d.exponent = t at *
  obtain ⟨n, unit⟩ := t
  simp only [Layout.literal] at *
  have tiny : n ≤ 10 ^ 17 := less.trans small
  have short : (Numeral.digits 10 n).length ≤ 18 :=
    length_digits_le (by norm_num) (by norm_num) (by omega)
  have length : (decimal n).length = (Numeral.digits 10 n).length := List.length_map _
  split_ifs with hn hs he hu
  · exact ⟨⟨[0], [0], none⟩, rfl, hn ▸ Lexeme.writes_zero unit⟩
  · cases hds : Numeral.digits 10 n with
    | nil => exact absurd hds (digits_ne_nil (by norm_num) n)
    | cons c rest =>
      obtain ⟨zeros, hpad⟩ := padded_eq 2 (unit + rest.length).natAbs
      refine ⟨_, ?_, Lexeme.writes_scientific hn tiny hds ?_ zeros⟩
      · simp only [decimal, hds] at hs ⊢
        rw [List.length_map, List.length_cons] at *
        have exponent : unit + ((rest.length + 1 : ℕ) : ℤ) - 1 = unit + rest.length := by
          push_cast
          ring
        rw [exponent, exponentText, hpad]
        cases rest <;> simp [Lexeme.chars, Lexeme.fractionChars, Lexeme.exponentChars]
      · rw [hds] at short
        simp only [List.length_cons] at short
        omega
  · refine ⟨_, ?_, Lexeme.writes_small tiny (by omega)⟩
    simp [Lexeme.chars, Lexeme.fractionChars, Lexeme.exponentChars, digits_ne_nil, decimal,
      digitChar]
  · refine ⟨_, ?_, Lexeme.writes_whole hn hu (by omega)⟩
    simp [Lexeme.chars, Lexeme.fractionChars, Lexeme.exponentChars, decimal, digitChar]
  · refine ⟨_, ?_, Lexeme.writes_mixed hn tiny (by omega) (by omega)⟩
    have behind : (Numeral.digits 10 n).drop
        ((unit + (Numeral.digits 10 n).length - 1).toNat + 1) ≠ [] := by
      simp only [ne_eq, List.drop_eq_nil_iff]
      omega
    rw [Lexeme.chars, Lexeme.fractionChars, if_neg behind]
    simp [Lexeme.exponentChars, decimal]

theorem make_sign {m m' : ℕ} {e e' : ℤ} {h : Canonical m e} (negative : Bool)
    (hm : make false m' e' = .finite false m e h) :
    make negative m' e' = .finite negative m e h := by
  unfold make at *
  split_ifs at hm ⊢ with hc
  cases hm
  rfl

theorem ofRat_sign {q : ℚ} {m : ℕ} {e : ℤ} {h : Canonical m e} (negative : Bool)
    (hq : ofRat false q = .finite false m e h) : ofRat negative q = .finite negative m e h := by
  simp only [ofRat, zero] at *
  split_ifs at hq ⊢ <;> exact make_sign negative hq

/-- The text of a finite number is a lexeme, which reads back to the number with either sign. -/
theorem toText_finite (negative : Bool) {m : ℕ} {e : ℤ} (h : Canonical m e) :
    ∃ l : Lexeme, l.Valid ∧
      toText (.finite negative m e h) =
        Text.ofChars ((if negative then ['-'] else []) ++ l.chars) ∧
      (DecimalParts.split? l.chars).map (DecimalParts.toBinary64 negative) =
        some (.finite negative m e h) := by
  obtain ⟨reads, small⟩ := shortest_reads h
  obtain ⟨least, most⟩ := shortest_exponent h
  obtain ⟨l, text, writes⟩ := place_literal (shortest m e h) small least most
  refine ⟨l, writes.valid, ?_, ?_⟩
  · rw [toText, render, text]
    cases negative <;> rfl
  · rw [Lexeme.toBinary64_split negative writes.valid, ofDecimal_eq negative writes.digits_lt,
      writes.value_eq]
    rw [Decimal.toBinary64, ofDecimal_eq false (by omega)] at reads
    rw [ofRat_sign negative reads]

end SourceLedger.Binary64
