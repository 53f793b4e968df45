import SourceLedger.Proofs.Json.Number
import SourceLedger.Proofs.Text.Utf8

/-!
# Texts in documents

A text between quotes is read back character by character: quotes, backslashes and control
characters come as escapes, and every other character stands for itself. A text with a surrogate
is not written at all, so that no pair of escapes can be taken for one character.
-/

namespace SourceLedger.Json

namespace Write

/-- The characters that a character is written as. -/
def escapeChars (c : Char) : List Char :=
  let n := c.toNat
  if n = 34 then ['\\', '"']
  else if n = 92 then ['\\', '\\']
  else if n = 8 then ['\\', 'b']
  else if n = 12 then ['\\', 'f']
  else if n = 10 then ['\\', 'n']
  else if n = 13 then ['\\', 'r']
  else if n = 9 then ['\\', 't']
  else if n < 0x20 then '\\' :: 'u' :: Numeral.hex 4 n
  else [c]

theorem escape_scalar (c : Char) : escape (.scalar c) = Text.ofChars (escapeChars c) := by
  unfold escape escapeChars
  rw [CodePoint.toNat_scalar]
  generalize c.toNat = n
  simp only
  split_ifs <;> rfl

theorem escape_surrogate (i : Fin 2048) : escape (.surrogate i) = [.surrogate i] := by
  have large : 0x20 ≤ (CodePoint.surrogate i).toNat := Nat.le_add_right_of_le (by norm_num)
  have plain : (CodePoint.surrogate i).toNat ≠ 34 ∧ (CodePoint.surrogate i).toNat ≠ 92 := by
    rw [CodePoint.toNat_surrogate]
    omega
  unfold escape
  generalize (CodePoint.surrogate i).toNat = n at large plain ⊢
  simp only
  split_ifs <;> first | rfl | omega

theorem unbroken_hex : ∀ n < 0x20, '\r' ∉ Numeral.hex 4 n := by decide

theorem unbroken_escapeChars (c : Char) : '\r' ∉ escapeChars c := by
  unfold escapeChars
  simp only
  split_ifs with _ _ _ _ _ hr _ control
  iterate 7 decide
  · simp [unbroken_hex c.toNat control]
  · simp only [List.mem_singleton]
    rintro rfl
    exact hr rfl

theorem quoted_ofChars (cs : List Char) :
    quoted (Text.ofChars cs) = Text.ofChars ('"' :: (cs.flatMap escapeChars ++ ['"'])) := by
  have text : (Text.ofChars cs).flatMap escape = Text.ofChars (cs.flatMap escapeChars) := by
    simp only [Text.ofChars, List.flatMap_map, List.map_flatMap]
    congr 1
    funext c
    exact escape_scalar c
  rw [quoted, text]
  simp [Text.ofChars]

/-- Only texts without surrogates can be written. -/
theorem quoted_eq_ofChars {t : Text} {s : List Char} (h : quoted t = Text.ofChars s) :
    ∃ cs, t = Text.ofChars cs ∧ s = '"' :: (cs.flatMap escapeChars ++ ['"']) := by
  have scalars : ∀ t : Text, (∀ c ∈ t.flatMap escape, ∀ i, c ≠ .surrogate i) →
      ∃ cs, t = Text.ofChars cs := by
    intro t
    induction t with
    | nil => exact fun _ => ⟨[], rfl⟩
    | cons c t ih =>
      intro h
      obtain ⟨cs, rfl⟩ := ih fun c hc => h c (by simp [hc])
      cases c with
      | scalar c => exact ⟨c :: cs, rfl⟩
      | surrogate i => exact absurd rfl (h (.surrogate i) (by simp [escape_surrogate]) i)
  obtain ⟨cs, rfl⟩ := scalars t fun c hc i hi => by
    have hmem : c ∈ quoted t := by simp [quoted, hc]
    rw [h, hi] at hmem
    simp [Text.ofChars] at hmem
  refine ⟨cs, rfl, ?_⟩
  rw [quoted_ofChars] at h
  have inj : Function.Injective CodePoint.scalar := fun a b hab => CodePoint.scalar.inj hab
  exact (List.map_injective_iff.mpr inj h).symm

end Write

namespace Read

/-- Control characters are the only ones that are escaped by number. -/
theorem codeUnit?_hex : ∀ n < 0x20, (Numeral.hex 4 n).length = 4 ∧
    codeUnit? (Numeral.hex 4 n) = some (.scalar (Char.ofNat n)) := by
  decide

theorem characters_escape {opening s after : List Char} {c : CodePoint}
    (h : escape opening s = .ok (c, after)) :
    characters opening ('\\' :: s) =
      (characters opening after).map fun (t, rest) => (c :: t, rest) := by
  rw [characters]
  split
  · next heq =>
    rw [h] at heq
    cases heq
  · next heq =>
    rw [h] at heq
    cases heq
    rfl

theorem characters_plain (opening : List Char) {c : Char} (rest : List Char) (quote : c ≠ '"')
    (backslash : c ≠ '\\') (control : ¬c.toNat < 0x20) :
    characters opening (c :: rest) =
      (characters opening rest).map fun (t, rest) => (.scalar c :: t, rest) := by
  rw [characters, if_neg control]
  · exact quote
  · exact backslash

theorem escape_number (opening : List Char) {n : ℕ} (h : n < 0x20) {rest : List Char}
    (hr : rest ≠ []) :
    escape opening ('u' :: (Numeral.hex 4 n ++ rest)) = .ok (.scalar (Char.ofNat n), rest) := by
  obtain ⟨length, unit⟩ := codeUnit?_hex n h
  have long : 4 < (Numeral.hex 4 n ++ rest).length := by
    have := List.length_pos_iff.mpr hr
    rw [List.length_append, length]
    omega
  simp only [escape, if_pos long, List.take_left' length, List.drop_left' length, unit]

theorem characters_escapeChars (opening : List Char) (c : Char) {rest : List Char}
    (hr : rest ≠ []) :
    characters opening (Write.escapeChars c ++ rest) =
      (characters opening rest).map fun (t, rest) => (.scalar c :: t, rest) := by
  have eq {n : ℕ} (h : c.toNat = n) : c = Char.ofNat n := by rw [← h, Char.ofNat_toNat]
  unfold Write.escapeChars
  simp only
  split_ifs with h34 h92 h8 h12 h10 h13 h9 control
  iterate 7
    · rw [eq ‹_›]
      exact characters_escape rfl
  · refine (characters_escape (escape_number opening control hr)).trans ?_
    rw [Char.ofNat_toNat]
  · refine characters_plain opening rest ?_ ?_ control
    · rintro rfl
      exact h34 rfl
    · rintro rfl
      exact h92 rfl

theorem characters_flatMap (opening : List Char) (cs rest : List Char) :
    characters opening (cs.flatMap Write.escapeChars ++ '"' :: rest) =
      .ok (Text.ofChars cs, rest) := by
  induction cs with
  | nil => simp [characters, Text.ofChars]
  | cons c cs ih =>
    rw [List.flatMap_cons, List.append_assoc, characters_escapeChars opening c (by simp), ih]
    rfl

theorem joinPairs_ofChars (cs : List Char) :
    Text.joinPairs (Text.ofChars cs) = Text.ofChars cs := by
  induction cs with
  | nil => rfl
  | cons c cs ih => simp_all [Text.ofChars, Text.joinPairs]

/-- A text is read from its quoted form, and whatever follows is left. -/
theorem text_quoted (cs rest : List Char) :
    text (cs.flatMap Write.escapeChars ++ '"' :: rest) = .ok (Text.ofChars cs, rest) := by
  rw [text, characters_flatMap]
  simp [Except.map, joinPairs_ofChars]

theorem spells_text (cs : List Char) :
    Spells atom ('"' :: (cs.flatMap Write.escapeChars ++ ['"'])) (.text (Text.ofChars cs)) := by
  refine ⟨⟨'"', _, rfl, by decide, by decide, by decide⟩, ?_, fun rest _ => ?_⟩
  · simp [Write.unbroken_escapeChars]
  · have : '"' :: (cs.flatMap Write.escapeChars ++ ['"']) ++ rest =
        '"' :: (cs.flatMap Write.escapeChars ++ '"' :: rest) := by simp
    rw [this, atom, text_quoted]
    rfl

end Read

end SourceLedger.Json
