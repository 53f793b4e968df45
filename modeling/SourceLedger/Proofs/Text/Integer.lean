import Mathlib.Data.List.TakeWhile
import SourceLedger.Proofs.Text.Numeral
import SourceLedger.Text.Integer

/-!
# The texts of integers

A user writes an integer with decimal digits of any script. Single underscores may stand between
digits, a sign before them and blanks around all of it. `Denotes` is this grammar with the integer
that comes of it, and `ofText?` decides it.
-/

namespace SourceLedger

namespace CodePoint

variable {c : CodePoint} {d : ℕ}

theorem decimalValue?_congr {c' : CodePoint} (same : c.toNat = c'.toNat) :
    c.decimalValue? = c'.decimalValue? := by
  rw [decimalValue?, decimalValue?, same]

/-- The numbers of the blanks. -/
def blankNumbers : List ℕ :=
  [9, 10, 11, 12, 13, 32, 0x85, 0xA0, 0x1680, 0x2000, 0x2001, 0x2002, 0x2003, 0x2004, 0x2005,
    0x2006, 0x2007, 0x2008, 0x2009, 0x200A, 0x2028, 0x2029, 0x202F, 0x205F, 0x3000]

theorem mem_blankNumbers (h : c.isBlank = true) : c.toNat ∈ blankNumbers := by
  simp only [isBlank, Bool.or_eq_true, Bool.and_eq_true, decide_eq_true_eq, beq_iff_eq] at h
  simp only [blankNumbers, List.mem_cons, List.not_mem_nil, or_false]
  omega

/-- No blank is a digit. -/
theorem isBlank_of_decimalValue? (h : c.decimalValue? = some d) : c.isBlank = false := by
  have none : ∀ n ∈ blankNumbers, (CodePoint.scalar (Char.ofNat n)).toNat = n ∧
      (CodePoint.scalar (Char.ofNat n)).decimalValue? = none := by decide +kernel
  rw [Bool.eq_false_iff]
  intro blank
  obtain ⟨same, none⟩ := none _ (mem_blankNumbers blank)
  rw [decimalValue?_congr same, h] at none
  cases none

/-- A digit is none of the other characters that may stand in the text of an integer. -/
theorem ne_of_decimalValue? (h : c.decimalValue? = some d) :
    c ≠ .scalar '_' ∧ c ≠ .scalar '-' ∧ c ≠ .scalar '+' ∧ c ≠ .scalar '.' := by
  refine ⟨?_, ?_, ?_, ?_⟩ <;>
  · rintro rfl
    cases h

end CodePoint

namespace Numeral

open CodePoint (decimalValue? isBlank)

variable {t : Text} {n : ℤ} {ds : List ℕ}

/-- Digits with their values. A single underscore may stand between two of them. -/
inductive Grouped : Text → List ℕ → Prop
  | last {c : CodePoint} {d : ℕ} (digit : c.decimalValue? = some d) : Grouped [c] [d]
  | next {c : CodePoint} {d : ℕ} {t : Text} {ds : List ℕ} (digit : c.decimalValue? = some d)
      (rest : Grouped t ds) : Grouped (c :: t) (d :: ds)
  | group {c : CodePoint} {d : ℕ} {t : Text} {ds : List ℕ} (digit : c.decimalValue? = some d)
      (rest : Grouped t ds) : Grouped (c :: .scalar '_' :: t) (d :: ds)

/-- A sign that may stand before digits, and whether it is a minus. -/
inductive Sign : Text → Bool → Prop
  | none : Sign [] false
  | plus : Sign [.scalar '+'] false
  | minus : Sign [.scalar '-'] true

/-- The integer with a sign and digits. -/
def signed (negative : Bool) (ds : List ℕ) : ℤ :=
  if negative then -(value 10 ds : ℤ) else value 10 ds

/-- A text denotes an integer: blanks, a sign, digits, but not too many, and blanks. -/
inductive Denotes : Text → ℤ → Prop
  | intro {before sign core after : Text} {negative : Bool} {ds : List ℕ}
      (blankBefore : ∀ c ∈ before, c.isBlank = true) (signs : Sign sign negative)
      (digits : Grouped core ds) (few : ds.length ≤ maxDigits)
      (blankAfter : ∀ c ∈ after, c.isBlank = true) :
      Denotes (before ++ (sign ++ core) ++ after) (signed negative ds)

section Digits

theorem Grouped.head (h : Grouped t ds) :
    ∃ c rest d, t = c :: rest ∧ c.decimalValue? = some d := by
  cases h with
  | last digit => exact ⟨_, _, _, rfl, digit⟩
  | next digit => exact ⟨_, _, _, rfl, digit⟩
  | group digit => exact ⟨_, _, _, rfl, digit⟩

theorem Grouped.last_digit (h : Grouped t ds) :
    ∃ front c d, t = front ++ [c] ∧ c.decimalValue? = some d := by
  induction h with
  | last digit => exact ⟨[], _, _, rfl, digit⟩
  | next _ _ ih =>
      obtain ⟨front, c, d, rfl, digit⟩ := ih
      exact ⟨_ :: front, c, d, rfl, digit⟩
  | group _ _ ih =>
      obtain ⟨front, c, d, rfl, digit⟩ := ih
      exact ⟨_ :: _ :: front, c, d, rfl, digit⟩

/-- There are as many digits as there are characters other than underscores. -/
theorem Grouped.length_filter (h : Grouped t ds) :
    (t.filter (· ≠ .scalar '_')).length = ds.length := by
  induction h with
  | last digit => simp [(CodePoint.ne_of_decimalValue? digit).1]
  | next digit _ ih => simpa [(CodePoint.ne_of_decimalValue? digit).1] using ih
  | group digit _ ih => simpa [(CodePoint.ne_of_decimalValue? digit).1] using ih

/-- What digits add to the number that was read before them. -/
def valueFrom (n : ℕ) (ds : List ℕ) : ℕ := ds.foldl (fun n d => n * 10 + d) n

theorem groupedDigits?_of_grouped (h : Grouped t ds) (afterDigit : Bool) (n : ℕ) :
    groupedDigits? t afterDigit n = some (valueFrom n ds) := by
  induction h generalizing afterDigit n with
  | last digit =>
      simp [groupedDigits?, (CodePoint.ne_of_decimalValue? digit).1, digit, valueFrom]
  | next digit _ ih =>
      rw [groupedDigits?, if_neg (CodePoint.ne_of_decimalValue? digit).1, digit]
      exact ih true _
  | group digit _ ih =>
      rw [groupedDigits?, if_neg (CodePoint.ne_of_decimalValue? digit).1, digit]
      exact ih false _

/-- Behind a digit the text may end, or an underscore may come before the next digit. -/
theorem grouped_of_groupedDigits? {afterDigit : Bool} {n m : ℕ}
    (h : groupedDigits? t afterDigit n = some m) :
    (afterDigit = true ∧ t = [] ∧ m = n) ∨
      ∃ ds, m = valueFrom n ds ∧
        (Grouped t ds ∨ afterDigit = true ∧ ∃ rest, t = .scalar '_' :: rest ∧ Grouped rest ds) := by
  induction t generalizing afterDigit n with
  | nil =>
      rw [groupedDigits?] at h
      split_ifs at h with after
      cases h
      exact Or.inl ⟨after, rfl, rfl⟩
  | cons c rest ih =>
      rw [groupedDigits?] at h
      split_ifs at h with underscore after
      · subst underscore
        rcases ih h with ⟨impossible, _⟩ | ⟨ds, rfl, grouped | ⟨impossible, _⟩⟩
        · cases impossible
        · exact Or.inr ⟨ds, rfl, Or.inr ⟨after, rest, rfl, grouped⟩⟩
        · cases impossible
      · split at h
        · next d digit =>
          refine Or.inr ?_
          rcases ih h with ⟨_, rfl, rfl⟩ | ⟨ds, rfl, grouped | ⟨_, behind, rfl, grouped⟩⟩
          · exact ⟨[d], rfl, Or.inl (.last digit)⟩
          · exact ⟨d :: ds, rfl, Or.inl (.next digit grouped)⟩
          · exact ⟨d :: ds, rfl, Or.inl (.group digit grouped)⟩
        · cases h

theorem groupedDigits?_eq_some_iff {m : ℕ} :
    groupedDigits? t false 0 = some m ↔ ∃ ds, Grouped t ds ∧ m = value 10 ds := by
  constructor
  · intro h
    rcases grouped_of_groupedDigits? h with ⟨impossible, _⟩ | ⟨ds, rfl, grouped | ⟨impossible, _⟩⟩
    · cases impossible
    · exact ⟨ds, grouped, rfl⟩
    · cases impossible
  · rintro ⟨ds, grouped, rfl⟩
    exact groupedDigits?_of_grouped grouped false 0

end Digits

section Blanks

/-- A text without the blanks around it. -/
def trimmed (t : Text) : Text :=
  ((t.dropWhile isBlank).reverse.dropWhile isBlank).reverse

theorem exists_trimmed (t : Text) : ∃ before after, t = before ++ trimmed t ++ after ∧
    (∀ c ∈ before, c.isBlank = true) ∧ ∀ c ∈ after, c.isBlank = true := by
  have blank (s : Text) : ∀ c ∈ s.takeWhile isBlank, c.isBlank = true :=
    fun c mem => List.mem_takeWhile_imp mem
  let behind := t.dropWhile isBlank
  have back : behind = trimmed t ++ (behind.reverse.takeWhile isBlank).reverse := by
    rw [trimmed, ← List.reverse_append, List.takeWhile_append_dropWhile, List.reverse_reverse]
  refine ⟨t.takeWhile isBlank, (behind.reverse.takeWhile isBlank).reverse, ?_, blank t, ?_⟩
  · rw [List.append_assoc, ← back, List.takeWhile_append_dropWhile]
  · intro c mem
    exact blank _ c (List.mem_reverse.mp mem)

/-- Blanks around a text that neither starts nor ends with one are taken away. -/
theorem trimmed_of_blanks {before core after : Text} (blankBefore : ∀ c ∈ before, c.isBlank = true)
    (first : ∀ c ∈ core.head?, c.isBlank = false) (last : ∀ c ∈ core.getLast?, c.isBlank = false)
    (ne : core ≠ []) (blankAfter : ∀ c ∈ after, c.isBlank = true) :
    trimmed (before ++ core ++ after) = core := by
  have stops {s : Text} (rest : Text) (starts : ∀ c ∈ s.head?, c.isBlank = false) (ne : s ≠ []) :
      (s ++ rest).dropWhile isBlank = s ++ rest := by
    cases s with
    | nil => exact absurd rfl ne
    | cons c s =>
        rw [List.cons_append, List.dropWhile_cons_of_neg]
        simp [starts c rfl]
  have back : (after.reverse ++ core.reverse).dropWhile isBlank = core.reverse := by
    rw [List.dropWhile_append_of_pos fun c mem => blankAfter c (List.mem_reverse.mp mem)]
    have whole := stops [] (by rwa [List.head?_reverse]) (List.reverse_eq_nil_iff.not.mpr ne)
    rwa [List.append_nil] at whole
  rw [trimmed, List.append_assoc, List.dropWhile_append_of_pos blankBefore, stops after first ne,
    List.reverse_append, back, List.reverse_reverse]

end Blanks

section Signs

/-- Whether a text starts with a minus, and what is behind its sign. -/
def splitSign : Text → Bool × Text
  | .scalar '-' :: rest => (true, rest)
  | .scalar '+' :: rest => (false, rest)
  | t => (false, t)

theorem exists_sign (t : Text) :
    ∃ sign, Sign sign (splitSign t).1 ∧ t = sign ++ (splitSign t).2 := by
  unfold splitSign
  split
  · exact ⟨_, .minus, rfl⟩
  · exact ⟨_, .plus, rfl⟩
  · exact ⟨_, .none, rfl⟩

theorem splitSign_of_grouped {sign core : Text} {negative : Bool} (signs : Sign sign negative)
    (digits : Grouped core ds) : splitSign (sign ++ core) = (negative, core) := by
  cases signs with
  | none =>
      obtain ⟨c, rest, d, rfl, digit⟩ := digits.head
      obtain ⟨_, minus, plus, _⟩ := CodePoint.ne_of_decimalValue? digit
      rw [List.nil_append, splitSign]
      · rintro _ same
        exact minus (List.cons.inj same).1
      · rintro _ same
        exact plus (List.cons.inj same).1
  | plus => rfl
  | minus => rfl

end Signs

/-- Blanks are taken away, then the sign, and the rest has to be digits. -/
theorem ofText?_eq (t : Text) :
    ofText? t =
      if maxDigits < ((splitSign (trimmed t)).2.filter (· ≠ .scalar '_')).length then none
      else (groupedDigits? (splitSign (trimmed t)).2 false 0).map fun (m : ℕ) =>
        if (splitSign (trimmed t)).1 then -(m : ℤ) else (m : ℤ) := by
  have lift (r : Option ℕ) (f : ℤ → ℤ) : Option.map f (do return (← r : ℕ)) =
      r.map fun (m : ℕ) => f m := by
    cases r <;> rfl
  unfold ofText? splitSign trimmed
  dsimp only
  generalize ((t.dropWhile isBlank).reverse.dropWhile isBlank).reverse = s
  split <;> simp only [lift]

/-- A sign with digits starts and ends with something other than a blank. -/
theorem trimmed_of_grouped {before sign core after : Text} {negative : Bool}
    (blankBefore : ∀ c ∈ before, c.isBlank = true) (signs : Sign sign negative)
    (digits : Grouped core ds) (blankAfter : ∀ c ∈ after, c.isBlank = true) :
    trimmed (before ++ (sign ++ core) ++ after) = sign ++ core := by
  obtain ⟨c, rest, d, first, digit⟩ := digits.head
  obtain ⟨front, c', d', last, digit'⟩ := digits.last_digit
  have notBlank := CodePoint.isBlank_of_decimalValue? digit
  have notBlank' := CodePoint.isBlank_of_decimalValue? digit'
  refine trimmed_of_blanks blankBefore ?_ ?_ ?_ blankAfter
  · intro b mem
    cases signs with
    | none =>
        rw [List.nil_append, first] at mem
        cases mem
        exact notBlank
    | plus => cases mem; rfl
    | minus => cases mem; rfl
  · intro b mem
    rw [last, ← List.append_assoc, List.getLast?_concat] at mem
    cases mem
    exact notBlank'
  · rw [first]
    exact List.append_ne_nil_of_right_ne_nil _ (List.cons_ne_nil _ _)

/-- An integer is read of a text exactly if the text denotes it. -/
theorem ofText?_eq_some_iff : ofText? t = some n ↔ Denotes t n := by
  rw [ofText?_eq]
  constructor
  · intro h
    obtain ⟨before, after, whole, blankBefore, blankAfter⟩ := exists_trimmed t
    obtain ⟨sign, signs, split⟩ := exists_sign (trimmed t)
    generalize splitSign (trimmed t) = parts at signs split h
    obtain ⟨negative, core⟩ := parts
    dsimp only at signs split h
    by_cases many : maxDigits < (core.filter (· ≠ .scalar '_')).length
    · rw [if_pos many] at h
      cases h
    rw [if_neg many] at h
    obtain ⟨m, read, rfl⟩ := Option.map_eq_some_iff.mp h
    obtain ⟨ds, digits, rfl⟩ := groupedDigits?_eq_some_iff.mp read
    rw [digits.length_filter, not_lt] at many
    rw [whole, split]
    exact .intro blankBefore signs digits many blankAfter
  · rintro ⟨blankBefore, signs, digits, few, blankAfter⟩
    rw [trimmed_of_grouped blankBefore signs digits blankAfter, splitSign_of_grouped signs digits]
    rw [if_neg (not_lt.mpr (digits.length_filter.trans_le few)),
      groupedDigits?_of_grouped digits false 0]
    rfl

section Points

theorem Grouped.notMem_point (h : Grouped t ds) : .scalar '.' ∉ t := by
  induction h with
  | last digit => simp [(CodePoint.ne_of_decimalValue? digit).2.2.2.symm]
  | next digit _ ih => simp [(CodePoint.ne_of_decimalValue? digit).2.2.2.symm, ih]
  | group digit _ ih => simp [(CodePoint.ne_of_decimalValue? digit).2.2.2.symm, ih]

theorem Sign.notMem_point {sign : Text} {negative : Bool} (h : Sign sign negative) :
    .scalar '.' ∉ sign := by
  cases h <;> decide

/-- There is no point in the text of an integer. -/
theorem Denotes.notMem_point (h : Denotes t n) : .scalar '.' ∉ t := by
  obtain ⟨blankBefore, signs, digits, _, blankAfter⟩ := h
  have notBlank : isBlank (.scalar '.') ≠ true := by decide
  simp only [List.mem_append, not_or]
  exact ⟨⟨fun mem => notBlank (blankBefore _ mem), signs.notMem_point, digits.notMem_point⟩,
    fun mem => notBlank (blankAfter _ mem)⟩

end Points

section Plain

theorem decimalValue?_digitChar : ∀ d < 10, decimalValue? (.scalar (digitChar d)) = some d := by
  decide

/-- Digits as the program writes them are digits. -/
theorem grouped_ofChars (some : ds ≠ []) (lt : ∀ d ∈ ds, d < 10) :
    Grouped (Text.ofChars (ds.map digitChar)) ds := by
  induction ds with
  | nil => exact absurd rfl some
  | cons d ds ih =>
      rw [List.forall_mem_cons] at lt
      have digit := decimalValue?_digitChar d lt.1
      cases ds with
      | nil => exact .last digit
      | cons next later => exact .next digit (ih (List.cons_ne_nil _ _) lt.2)

/-- Digits alone denote the integer that they are the digits of. -/
theorem denotes_digits (some : ds ≠ []) (lt : ∀ d ∈ ds, d < 10) (few : ds.length ≤ maxDigits) :
    Denotes (Text.ofChars (ds.map digitChar)) (value 10 ds) := by
  have alone : Denotes ([] ++ ([] ++ Text.ofChars (ds.map digitChar)) ++ []) (signed false ds) :=
    .intro nofun .none (grouped_ofChars some lt) few nofun
  rwa [List.nil_append, List.nil_append, List.append_nil] at alone

end Plain

end Numeral

end SourceLedger
