import SourceLedger.Json.Reading
import SourceLedger.Json.Writing
import SourceLedger.Proofs.Binary64.Notation

/-!
# Numbers in documents

An integer or a real number, written down with a line break or a comma behind it, is read back as
what it was: the reader takes exactly the digits, the point and the exponent that the writer put
down. Numbers that are not finite go by their names.
-/

namespace SourceLedger.Json

open Numeral Binary64

/-- What may stand behind a value: nothing, a comma or a line break. -/
def Delimited (rest : List Char) : Prop := ∀ c ∈ rest.head?, c = ',' ∨ c = '\n'

namespace Delimited

variable {rest : List Char}

theorem not_digit (h : Delimited rest) : ∀ c ∈ rest.head?, isDigit 10 c = false := by
  intro c hc
  rcases h c hc with rfl | rfl <;> decide

theorem fractionLength_eq (h : Delimited rest) : Read.fractionLength rest = 0 := by
  cases rest with
  | nil => rfl
  | cons c rest =>
    rcases h c rfl with rfl | rfl <;> rfl

theorem exponentLength_eq (h : Delimited rest) : Read.exponentLength rest = 0 := by
  cases rest with
  | nil => rfl
  | cons c rest =>
    rcases h c rfl with rfl | rfl <;> rfl

end Delimited

namespace Read

theorem wholeLength_eq {ds : List ℕ} (lt : ∀ d ∈ ds, d < 10)
    (leading : ds = [0] ∨ ds.head? ≠ some 0) {rest : List Char}
    (hr : ∀ c ∈ rest.head?, Numeral.isDigit 10 c = false) :
    wholeLength (ds.map digitChar ++ rest) = ds.length := by
  rcases leading with rfl | leading
  · rfl
  · have parts := (span_digits lt _ hr).1
    have general : wholeLength (ds.map digitChar ++ rest) =
        ((ds.map digitChar ++ rest).takeWhile (Numeral.isDigit 10)).length := by
      unfold wholeLength
      split
      · next tail heq =>
        cases ds with
        | nil =>
          have zero := hr '0' (by simpa using congrArg List.head? heq)
          exact absurd zero (by decide)
        | cons d ds =>
          have hc : digitChar d = '0' := by simpa using congrArg List.head? heq
          have := digitValue?_digitChar d ((lt d List.mem_cons_self).trans (by norm_num))
          rw [hc] at this
          exact absurd (congrArg some (Option.some.inj this).symm) leading
      · rfl
    rw [general, parts, List.length_map]

theorem takeWhile_digits {ds : List ℕ} (lt : ∀ d ∈ ds, d < 10) (rest : List Char)
    (hr : ∀ c ∈ rest.head?, Numeral.isDigit 10 c = false) :
    (ds.map digitChar ++ rest).takeWhile isDigit = ds.map digitChar :=
  (span_digits lt _ hr).1

theorem fractionLength_eq {l : Lexeme} (h : l.Valid) {rest : List Char} (hr : Delimited rest) :
    fractionLength (l.fractionChars ++ (l.exponentChars ++ rest)) = l.fractionChars.length := by
  unfold Lexeme.fractionChars
  split_ifs with hf
  · rw [List.nil_append, List.length_nil]
    unfold Lexeme.exponentChars
    split
    · exact hr.fractionLength_eq
    · rfl
  · have parts := takeWhile_digits h.fraction_lt (l.exponentChars ++ rest)
      (Lexeme.exponentChars_head hr.not_digit)
    simp [fractionLength, parts, hf]

theorem exponentLength_eq {l : Lexeme} (h : l.Valid) {rest : List Char} (hr : Delimited rest) :
    exponentLength (l.exponentChars ++ rest) = l.exponentChars.length := by
  unfold Lexeme.exponentChars
  split
  · exact hr.exponentLength_eq
  · next negative ds he =>
    obtain ⟨hne, lt, _⟩ := h.exponent_lt negative ds he
    have parts := takeWhile_digits lt _ hr.not_digit
    cases negative <;> simp [exponentLength, parts, hne]

/-- A lexeme is read as the number that is split off it. -/
theorem unsigned_lexeme {l : Lexeme} (h : l.Valid) (negative : Bool) (start : List Char)
    {rest : List Char} (hr : Delimited rest) :
    unsigned negative start (l.chars ++ rest) = .ok (real negative l.chars, rest) := by
  have whole : wholeLength (l.chars ++ rest) = (l.whole.map digitChar).length := by
    rw [Lexeme.chars, List.append_assoc, List.append_assoc, wholeLength_eq h.whole_lt h.leading
      (Lexeme.fractionChars_head hr.not_digit), List.length_map]
  have behindWhole : (l.chars ++ rest).drop (l.whole.map digitChar).length =
      l.fractionChars ++ (l.exponentChars ++ rest) := by
    rw [Lexeme.chars, List.append_assoc, List.append_assoc, List.drop_left]
  have behindFraction :
      (l.chars ++ rest).drop ((l.whole.map digitChar).length + l.fractionChars.length) =
        l.exponentChars ++ rest := by
    rw [← List.drop_drop, behindWhole, List.drop_left]
  have total : (l.whole.map digitChar).length + l.fractionChars.length + l.exponentChars.length =
      l.chars.length := by
    simp [Lexeme.chars, Nat.add_assoc]
  have start : (l.whole.map digitChar).length ≠ 0 := by
    simpa using h.whole_ne_nil
  have marked : l.fractionChars.length + l.exponentChars.length ≠ 0 := by
    rcases h.marked with hf | he
    · simp [Lexeme.fractionChars, hf]
    · obtain ⟨⟨negative, ds⟩, he⟩ := Option.ne_none_iff_exists'.mp he
      simp [Lexeme.exponentChars, he]
  simp only [unsigned, whole, behindWhole, fractionLength_eq h hr, behindFraction,
    exponentLength_eq h hr, total, if_neg start, if_neg marked, List.take_left, List.drop_left]
  rfl

/-- The digits of an integer are read as an integer, if there are not too many of them. -/
theorem unsigned_decimal {n : ℕ} (small : n < Write.integerLimit) (negative : Bool)
    (start : List Char) {rest : List Char} (hr : Delimited rest) :
    unsigned negative start (decimal n ++ rest) =
      .ok (.int (if negative then -(n : ℤ) else n), rest) := by
  have lt : ∀ d ∈ Numeral.digits 10 n, d < 10 := fun d => lt_of_mem_digits (by norm_num)
  have leading : Numeral.digits 10 n = [0] ∨ (Numeral.digits 10 n).head? ≠ some 0 := by
    rcases eq_or_ne n 0 with rfl | hn
    · exact Or.inl (digits_zero (by norm_num))
    · exact Or.inr (head?_digits 10 (by norm_num) hn)
  have whole : wholeLength (decimal n ++ rest) = (decimal n).length := by
    rw [decimal, wholeLength_eq lt leading hr.not_digit, List.length_map]
  have start : (decimal n).length ≠ 0 := by
    simp [decimal, digits_ne_nil]
  have short : ¬maxDigits < (decimal n).length := by
    rw [decimal, List.length_map, not_lt, maxDigits]
    rw [Write.integerLimit] at small
    -- A power with a literal exponent of this size would be computed.
    generalize hk : 4300 = k at small ⊢
    exact length_digits_le (by norm_num) (by omega) small
  simp only [unsigned, whole, List.drop_left, hr.fractionLength_eq, Nat.add_zero,
    hr.exponentLength_eq, if_neg start, if_true, List.take_left, integer, if_neg short,
    ofChars?_decimal, Option.getD_some]
  rfl

theorem value_eq_atom (depth : ℕ) {s : List Char} (h : ∀ c ∈ s.head?, c ≠ '[' ∧ c ≠ '\x7b') :
    value depth s = atom s := by
  unfold value
  split
  · exact absurd rfl (h _ rfl).1
  · exact absurd rfl (h _ rfl).2
  · exact absurd rfl (h _ rfl).1
  · exact absurd rfl (h _ rfl).2
  · rfl

/-- What a character tells about the value that starts with it. -/
structure Starts (c : Char) : Prop where
  not_blank : isBlank c = false
  not_bracket : c ≠ ']'
  not_brace : c ≠ '\x7d'

/-- A text that a reader takes for an item, whatever may stand behind it. -/
structure Spells {α : Type} (item : Reader α) (s : List Char) (a : α) : Prop where
  start : ∃ c t, s = c :: t ∧ Starts c
  unbroken : '\r' ∉ s
  reads : ∀ rest, Delimited rest → item (s ++ rest) = .ok (a, rest)

theorem starts_digit : ∀ d < 10, Starts (digitChar d) ∧ digitChar d ≠ '\r' := by
  have h : ∀ d < 10, isBlank (digitChar d) = false ∧ digitChar d ≠ ']' ∧ digitChar d ≠ '\x7d' ∧
      digitChar d ≠ '\r' := by decide
  intro d hd
  obtain ⟨h1, h2, h3, h4⟩ := h d hd
  exact ⟨⟨h1, h2, h3⟩, h4⟩

theorem find?_constants {s : List Char} (h : ∀ e ∈ constants, e.1.isPrefixOf s = false) :
    constants.find? (fun (name, _) => name.isPrefixOf s) = none :=
  List.find?_eq_none.mpr fun e he => by simp [h e he]

theorem atom_digit (d : ℕ) (hd : d < 10) (s : List Char) :
    atom (digitChar d :: s) = unsigned false (digitChar d :: s) (digitChar d :: s) := by
  have h : ∀ d < 10, digitChar d ≠ '"' ∧ digitChar d ≠ 'n' ∧ digitChar d ≠ 't' ∧
      digitChar d ≠ 'f' ∧ digitChar d ≠ 'N' ∧ digitChar d ≠ 'I' ∧ digitChar d ≠ '-' := by decide
  obtain ⟨quote, n, t, f, bigN, bigI, minus⟩ := h d hd
  have names := find?_constants (s := digitChar d :: s) (by
    simp [constants, List.isPrefixOf, n.symm, t.symm, f.symm, bigN.symm, bigI.symm, minus.symm])
  unfold atom
  split
  · next heq => exact absurd (List.cons.inj heq).1 quote
  · simp only [names, number]
    split
    · next heq => exact absurd (List.cons.inj heq).1 minus
    · rfl

theorem atom_minus (d : ℕ) (hd : d < 10) (s : List Char) :
    atom ('-' :: digitChar d :: s) =
      unsigned true ('-' :: digitChar d :: s) (digitChar d :: s) := by
  have h : ∀ d < 10, digitChar d ≠ 'I' := by decide
  have names := find?_constants (s := '-' :: digitChar d :: s) (by
    simp [constants, List.isPrefixOf, (h d hd).symm])
  simp only [atom, names]
  rfl

/-- What can be read without its sign can be read with it. -/
theorem spells_signed {digits : List ℕ} (lt : ∀ d ∈ digits, d < 10) (hne : digits ≠ [])
    {more : List Char} (unbroken : '\r' ∉ more) {v : Value} (negative : Bool)
    (reads : ∀ start rest, Delimited rest →
      unsigned negative start (digits.map digitChar ++ more ++ rest) = .ok (v, rest)) :
    Spells atom ((if negative then ['-'] else []) ++ (digits.map digitChar ++ more)) v := by
  obtain ⟨d, ds, rfl⟩ := List.exists_cons_of_ne_nil hne
  have hd : d < 10 := lt d List.mem_cons_self
  have plain : '\r' ∉ (d :: ds).map digitChar ++ more := by
    intro h
    rcases List.mem_append.mp h with h | h
    · obtain ⟨e, he, hc⟩ := List.mem_map.mp h
      exact (starts_digit e (lt e he)).2 hc
    · exact unbroken h
  cases negative with
  | false =>
    refine ⟨⟨digitChar d, _, rfl, (starts_digit d hd).1⟩, plain, fun rest hr => ?_⟩
    exact (atom_digit d hd _).trans (reads _ rest hr)
  | true =>
    refine ⟨⟨'-', _, rfl, by decide, by decide, by decide⟩, ?_, fun rest hr => ?_⟩
    · intro h
      rcases List.mem_cons.mp h with h | h
      · exact absurd h (by decide)
      · exact plain h
    · exact (atom_minus d hd _).trans (reads _ rest hr)

theorem spells_integer {n : ℤ} (small : n.natAbs < Write.integerLimit) :
    Spells atom (decimalInt n) (.int n) := by
  have text : decimalInt n =
      (if decide (n < 0) then ['-'] else []) ++ (decimal n.natAbs ++ []) := by
    unfold decimalInt
    by_cases h : n < 0 <;> simp [h]
  rw [text]
  refine spells_signed (fun d => lt_of_mem_digits (by norm_num)) (digits_ne_nil (by norm_num) _)
    (by simp) _ fun start rest hr => ?_
  rw [List.append_nil]
  have signed : (if decide (n < 0) = true then -(n.natAbs : ℤ) else n.natAbs) = n := by
    simp only [decide_eq_true_eq]
    split_ifs <;> omega
  refine (unsigned_decimal small _ start hr).trans ?_
  rw [signed]

theorem unbroken_lexeme {l : Lexeme} (h : l.Valid) : '\r' ∉ l.fractionChars ++ l.exponentChars := by
  have digits {ds : List ℕ} (lt : ∀ d ∈ ds, d < 10) : '\r' ∉ ds.map digitChar := by
    intro h
    obtain ⟨e, he, hc⟩ := List.mem_map.mp h
    exact (starts_digit e (lt e he)).2 hc
  intro hmem
  rcases List.mem_append.mp hmem with hmem | hmem
  · unfold Lexeme.fractionChars at hmem
    split_ifs at hmem
    · exact absurd hmem List.not_mem_nil
    · rcases List.mem_cons.mp hmem with hc | hmem
      · exact absurd hc (by decide)
      · exact digits h.fraction_lt hmem
  · unfold Lexeme.exponentChars at hmem
    split at hmem
    · exact absurd hmem List.not_mem_nil
    · next negative ds he =>
      obtain ⟨_, lt, _⟩ := h.exponent_lt negative ds he
      rcases List.mem_cons.mp hmem with hc | hmem
      · exact absurd hc (by decide)
      rcases List.mem_cons.mp hmem with hc | hmem
      · cases negative <;> exact absurd hc (by decide)
      · exact digits lt hmem

theorem spells_real (x : Binary64) :
    ∃ s, Write.real x = Text.ofChars s ∧ Spells atom s (.real x) := by
  cases x with
  | nan => exact ⟨['N', 'a', 'N'], rfl, ⟨'N', _, rfl, by decide, by decide, by decide⟩, by decide,
      fun rest _ => rfl⟩
  | infinite negative =>
    cases negative with
    | false => exact ⟨_, rfl, ⟨'I', _, rfl, by decide, by decide, by decide⟩, by decide,
        fun rest _ => rfl⟩
    | true => exact ⟨_, rfl, ⟨'-', _, rfl, by decide, by decide, by decide⟩, by decide,
        fun rest _ => rfl⟩
  | finite negative m e h =>
    obtain ⟨l, valid, text, back⟩ := toText_finite negative h
    refine ⟨_, text, ?_⟩
    rw [Lexeme.chars, List.append_assoc]
    refine spells_signed valid.whole_lt valid.whole_ne_nil (unbroken_lexeme valid) negative ?_
    intro start rest hr
    rw [← List.append_assoc (l.whole.map digitChar)]
    refine (unsigned_lexeme valid negative start hr).trans ?_
    rw [real, back, Option.getD_some]

end Read

end SourceLedger.Json
