import SourceLedger.Proofs.Results
import SourceLedger.Text.Utf8

/-!
# Decoding what was encoded

A text that can be encoded is a list of scalar values, and decoding its bytes gives these scalar
values back. Bytes that can be decoded are those that their text is encoded with.

In between stands `Form`. A character is decoded where its bytes have a form, and it is encoded in
one. None is longer than it has to be, and none is that of a surrogate or of a number that is too
large, so a character has no other.
-/

namespace SourceLedger.Utf8

private theorem byte_toNat {n : Nat} (h : n < 256) : (UInt8.ofNat n).toNat = n :=
  UInt8.toNat_ofNat_of_lt h

private theorem isContinuation_iff {b : UInt8} :
    isContinuation b = true ↔ 0x80 ≤ b.toNat ∧ b.toNat < 0xC0 := by
  simp [isContinuation, UInt8.le_iff_toNat_le, UInt8.lt_iff_toNat_lt]

/-- What the second byte of a character of three or four bytes can be. -/
private theorem mayFollow_iff {lead b : UInt8} : mayFollow lead b = true ↔
    (0x80 ≤ b.toNat ∧ b.toNat < 0xC0) ∧ (lead.toNat = 0xE0 → 0xA0 ≤ b.toNat) ∧
      (lead.toNat = 0xED → b.toNat < 0xA0) ∧ (lead.toNat = 0xF0 → 0x90 ≤ b.toNat) ∧
      (lead.toNat = 0xF4 → b.toNat < 0x90) := by
  simp only [mayFollow, Bool.and_eq_true, isContinuation_iff, ← UInt8.toNat_inj,
    UInt8.le_iff_toNat_le, UInt8.lt_iff_toNat_lt, UInt8.reduceToNat]
  refine and_congr_right fun _ => ?_
  repeat' split
  all_goals
    simp only [decide_eq_true_eq, true_iff]
    omega

/-- A byte made from six bits is a continuation byte. -/
private theorem isContinuation_byte (n : Nat) :
    isContinuation (UInt8.ofNat (0x80 + n % 0x40)) = true := by
  rw [isContinuation_iff, byte_toNat (by omega)]
  omega

private theorem byte_mod (n : Nat) : (UInt8.ofNat (0x80 + n % 0x40)).toNat % 0x40 = n % 0x40 := by
  rw [byte_toNat (by omega)]
  omega

/-- Scalar values leave out the surrogates and stop at U+10FFFF. -/
private theorem scalar_bounds (c : Char) :
    c.toNat < 0xD800 ∨ 0xDFFF < c.toNat ∧ c.toNat < 0x110000 := by
  have h := c.valid
  simp only [UInt32.isValidChar, Nat.isValidChar] at h
  exact h

/-- What the bytes of a character can look like, and which character they stand for. The lead byte
tells how many follow. -/
inductive Form (c : Char) : UInt8 → Bytes → Prop
  | one {lead : UInt8} (below : lead.toNat < 0x80) (value : Char.ofNat lead.toNat = c) :
      Form c lead []
  | two {lead b₁ : UInt8} (above : 0xC2 ≤ lead.toNat) (below : lead.toNat < 0xE0)
      (first : isContinuation b₁ = true) (value : scalarOf lead 0x20 [b₁] = c) : Form c lead [b₁]
  | three {lead b₁ b₂ : UInt8} (above : 0xE0 ≤ lead.toNat) (below : lead.toNat < 0xF0)
      (first : mayFollow lead b₁ = true) (second : isContinuation b₂ = true)
      (value : scalarOf lead 0x10 [b₁, b₂] = c) : Form c lead [b₁, b₂]
  | four {lead b₁ b₂ b₃ : UInt8} (above : 0xF0 ≤ lead.toNat) (below : lead.toNat < 0xF5)
      (first : mayFollow lead b₁ = true) (second : isContinuation b₂ = true)
      (third : isContinuation b₃ = true) (value : scalarOf lead 0x08 [b₁, b₂, b₃] = c) :
      Form c lead [b₁, b₂, b₃]

variable {c : Char} {lead : UInt8} {tail rest after : Bytes}

private theorem Form.decodeFirst (form : Form c lead tail) (rest : Bytes) :
    Utf8.decodeFirst lead (tail ++ rest) = .ok (c, rest) := by
  unfold Utf8.decodeFirst
  simp only [UInt8.lt_iff_toNat_lt, UInt8.reduceToNat]
  cases form with
  | one below value => rw [if_pos below, value, List.nil_append]
  | two above below first value =>
      rw [if_neg (by omega), if_neg (by omega), if_pos below]
      simp [first, value]
  | three above below first second value =>
      rw [if_neg (by omega), if_neg (by omega), if_neg (by omega), if_pos below]
      simp [first, second, value]
  | four above below first second third value =>
      rw [if_neg (by omega), if_neg (by omega), if_neg (by omega), if_neg (by omega), if_pos below]
      simp [first, second, third, value]

private theorem form_of_decodeFirst (h : decodeFirst lead rest = .ok (c, after)) :
    ∃ tail, rest = tail ++ after ∧ Form c lead tail := by
  revert h
  fun_cases decodeFirst lead rest <;> rintro ⟨⟩
  case case1 below => exact ⟨[], rfl, .one below rfl⟩
  case case4 _ above below b₁ first =>
    exact ⟨[b₁], rfl, .two (UInt8.not_lt.mp above) below first rfl⟩
  case case9 _ _ above below b₁ first b₂ second =>
    exact ⟨[b₁, b₂], rfl, .three (UInt8.not_lt.mp above) below (by simpa using first) second rfl⟩
  case case16 _ _ _ above below b₁ first b₂ second b₃ third =>
    exact ⟨[b₁, b₂, b₃], rfl, .four (UInt8.not_lt.mp above) below (by simpa using first)
      (by simpa using second) third rfl⟩

private theorem form_one (h : c.toNat < 0x80) : Form c (UInt8.ofNat c.toNat) [] := by
  have hb : c.toNat < 256 := by omega
  have lead := byte_toNat hb
  refine .one (by omega) ?_
  rw [lead, Char.ofNat_toNat]

private theorem form_two (above : 0x80 ≤ c.toNat) (below : c.toNat < 0x800) :
    Form c (UInt8.ofNat (0xC0 + c.toNat / 0x40)) [UInt8.ofNat (0x80 + c.toNat % 0x40)] := by
  have hb : 0xC0 + c.toNat / 0x40 < 256 := by omega
  have lead := byte_toNat hb
  refine .two (by omega) (by omega) (isContinuation_byte _) ?_
  simp only [scalarOf, List.foldl_cons, List.foldl_nil, byte_mod, lead]
  rw [show (0xC0 + c.toNat / 0x40) % 0x20 * 0x40 + c.toNat % 0x40 = c.toNat by omega,
    Char.ofNat_toNat]

private theorem form_three (above : 0x800 ≤ c.toNat) (below : c.toNat < 0x10000) :
    Form c (UInt8.ofNat (0xE0 + c.toNat / 0x1000))
      [UInt8.ofNat (0x80 + c.toNat / 0x40 % 0x40), UInt8.ofNat (0x80 + c.toNat % 0x40)] := by
  have bounds := scalar_bounds c
  have hb : 0xE0 + c.toNat / 0x1000 < 256 := by omega
  have lead := byte_toNat hb
  refine .three (by omega) (by omega) (mayFollow_iff.mpr ?_) (isContinuation_byte _) ?_
  · rw [lead, byte_toNat (by omega)]
    omega
  · simp only [scalarOf, List.foldl_cons, List.foldl_nil, byte_mod, lead]
    rw [show ((0xE0 + c.toNat / 0x1000) % 0x10 * 0x40 + c.toNat / 0x40 % 0x40) * 0x40 +
      c.toNat % 0x40 = c.toNat by omega, Char.ofNat_toNat]

private theorem form_four (above : 0x10000 ≤ c.toNat) :
    Form c (UInt8.ofNat (0xF0 + c.toNat / 0x40000))
      [UInt8.ofNat (0x80 + c.toNat / 0x1000 % 0x40), UInt8.ofNat (0x80 + c.toNat / 0x40 % 0x40),
        UInt8.ofNat (0x80 + c.toNat % 0x40)] := by
  have bounds := scalar_bounds c
  have hb : 0xF0 + c.toNat / 0x40000 < 256 := by omega
  have lead := byte_toNat hb
  refine .four (by omega) (by omega) (mayFollow_iff.mpr ?_) (isContinuation_byte _)
    (isContinuation_byte _) ?_
  · rw [lead, byte_toNat (by omega)]
    omega
  · simp only [scalarOf, List.foldl_cons, List.foldl_nil, byte_mod, lead]
    rw [show (((0xF0 + c.toNat / 0x40000) % 0x08 * 0x40 + c.toNat / 0x1000 % 0x40) * 0x40 +
      c.toNat / 0x40 % 0x40) * 0x40 + c.toNat % 0x40 = c.toNat by omega, Char.ofNat_toNat]

private theorem form_encodeChar (c : Char) :
    ∃ lead tail, encodeChar c = lead :: tail ∧ Form c lead tail := by
  unfold encodeChar
  simp only
  split
  · next h => exact ⟨_, _, rfl, form_one h⟩
  split
  · next h₁ h₂ => exact ⟨_, _, rfl, form_two (by omega) h₂⟩
  split
  · next h₁ h₂ h₃ => exact ⟨_, _, rfl, form_three (by omega) h₃⟩
  · next h₁ h₂ h₃ => exact ⟨_, _, rfl, form_four (by omega)⟩

private theorem toNat_scalar {n : Nat} (h : n < 0xD800 ∨ 0xDFFF < n ∧ n < 0x110000) :
    (Char.ofNat n).toNat = n := by
  have valid : n.isValidChar := h
  rw [Char.ofNat, dif_pos valid]
  rfl

/-- A form is the one that its character is written in. -/
private theorem Form.encodeChar_eq (form : Form c lead tail) : encodeChar c = lead :: tail := by
  cases form with
  | one below value =>
      have number : c.toNat = lead.toNat := by rw [← value, toNat_scalar (by omega)]
      simp only [encodeChar, number]
      rw [if_pos below, UInt8.ofNat_toNat]
  | @two b₁ above below first value =>
      have h₁ := isContinuation_iff.mp first
      have number : c.toNat = lead.toNat % 0x20 * 0x40 + b₁.toNat % 0x40 := by
        simp only [← value, scalarOf, List.foldl_cons, List.foldl_nil]
        exact toNat_scalar (by omega)
      simp only [encodeChar]
      rw [if_neg (by omega), if_pos (by omega)]
      rw [show 0xC0 + c.toNat / 0x40 = lead.toNat by omega,
        show 0x80 + c.toNat % 0x40 = b₁.toNat by omega]
      simp only [UInt8.ofNat_toNat]
  | @three b₁ b₂ above below first second value =>
      have h₁ := mayFollow_iff.mp first
      have h₂ := isContinuation_iff.mp second
      have number : c.toNat =
          (lead.toNat % 0x10 * 0x40 + b₁.toNat % 0x40) * 0x40 + b₂.toNat % 0x40 := by
        simp only [← value, scalarOf, List.foldl_cons, List.foldl_nil]
        exact toNat_scalar (by omega)
      simp only [encodeChar]
      rw [if_neg (by omega), if_neg (by omega), if_pos (by omega)]
      rw [show 0xE0 + c.toNat / 0x1000 = lead.toNat by omega,
        show 0x80 + c.toNat / 0x40 % 0x40 = b₁.toNat by omega,
        show 0x80 + c.toNat % 0x40 = b₂.toNat by omega]
      simp only [UInt8.ofNat_toNat]
  | @four b₁ b₂ b₃ above below first second third value =>
      have h₁ := mayFollow_iff.mp first
      have h₂ := isContinuation_iff.mp second
      have h₃ := isContinuation_iff.mp third
      have number : c.toNat =
          ((lead.toNat % 0x08 * 0x40 + b₁.toNat % 0x40) * 0x40 + b₂.toNat % 0x40) * 0x40 +
            b₃.toNat % 0x40 := by
        simp only [← value, scalarOf, List.foldl_cons, List.foldl_nil]
        exact toNat_scalar (by omega)
      simp only [encodeChar]
      rw [if_neg (by omega), if_neg (by omega), if_neg (by omega)]
      rw [show 0xF0 + c.toNat / 0x40000 = lead.toNat by omega,
        show 0x80 + c.toNat / 0x1000 % 0x40 = b₁.toNat by omega,
        show 0x80 + c.toNat / 0x40 % 0x40 = b₂.toNat by omega,
        show 0x80 + c.toNat % 0x40 = b₃.toNat by omega]
      simp only [UInt8.ofNat_toNat]

/-- A character is read where the bytes begin with those that it is written with. -/
theorem decodeFirst_eq_ok_iff :
    decodeFirst lead rest = .ok (c, after) ↔ lead :: rest = encodeChar c ++ after := by
  constructor
  · intro read
    obtain ⟨tail, rfl, form⟩ := form_of_decodeFirst read
    rw [form.encodeChar_eq, List.cons_append]
  · obtain ⟨lead, tail, bytes, form⟩ := form_encodeChar c
    rw [bytes]
    rintro ⟨⟩
    exact form.decodeFirst after

private theorem decodeFrom_encodeChars (s : List Char) (position : Nat) :
    decodeFrom position (encodeChars s) = .ok s := by
  induction s generalizing position with
  | nil => rw [encodeChars, List.flatMap_nil, decodeFrom]
  | cons c s ih =>
      obtain ⟨lead, tail, hc, form⟩ := form_encodeChar c
      have hd := form.decodeFirst (encodeChars s)
      have hbytes : encodeChars (c :: s) = lead :: (tail ++ encodeChars s) := by
        rw [encodeChars, List.flatMap_cons, hc, List.cons_append]
        rfl
      rw [hbytes, decodeFrom]
      split
      · next h => simp [hd] at h
      · next h =>
          rw [hd] at h
          cases h
          rw [ih]
          rfl

theorem decode_encodeChars (s : List Char) : decode (encodeChars s) = .ok s :=
  decodeFrom_encodeChars s 0

private theorem encodeChars_of_decodeFrom {bytes : Bytes} {position : Nat} {s : List Char}
    (h : decodeFrom position bytes = .ok s) : encodeChars s = bytes := by
  induction s generalizing bytes position with
  | nil =>
      cases bytes with
      | nil => rfl
      | cons lead rest =>
          rw [decodeFrom] at h
          split at h
          · cases h
          · obtain ⟨_, _, cons⟩ := map_eq_ok h
            cases cons
  | cons c s ih =>
      cases bytes with
      | nil =>
          rw [decodeFrom] at h
          cases h
      | cons lead rest =>
          rw [decodeFrom] at h
          split at h
          · cases h
          · next first =>
            obtain ⟨_, later, cons⟩ := map_eq_ok h
            cases cons
            rw [decodeFirst_eq_ok_iff.mp first, encodeChars, List.flatMap_cons]
            exact congrArg (encodeChar c ++ ·) (ih later)

/-- A text that was decoded is written with the bytes that it was decoded from. -/
theorem encodeChars_of_decode {bytes : Bytes} {s : List Char} (h : decode bytes = .ok s) :
    encodeChars s = bytes :=
  encodeChars_of_decodeFrom h

private theorem encodeFrom_ofChars (s : List Char) (position : Nat) :
    encodeFrom position (Text.ofChars s) = .ok (encodeChars s) := by
  induction s generalizing position with
  | nil => rfl
  | cons c s ih =>
      change (encodeChar c ++ ·) <$> encodeFrom (position + 1) (Text.ofChars s) = _
      rw [ih]
      rfl

theorem encode_ofChars (s : List Char) : encode (Text.ofChars s) = .ok (encodeChars s) :=
  encodeFrom_ofChars s 0

private theorem of_encodeFrom {t : Text} {position : Nat} {bytes : Bytes}
    (h : encodeFrom position t = .ok bytes) :
    ∃ s, t = Text.ofChars s ∧ bytes = encodeChars s := by
  induction t generalizing position bytes with
  | nil =>
      cases h
      exact ⟨[], rfl, rfl⟩
  | cons c t ih =>
      cases c with
      | surrogate i => simp [encodeFrom] at h
      | scalar c =>
          rw [encodeFrom] at h
          obtain ⟨later, hlater, rfl⟩ := map_eq_ok h
          obtain ⟨s, rfl, rfl⟩ := ih hlater
          exact ⟨c :: s, rfl, rfl⟩

/-- Only texts without surrogates can be encoded. -/
theorem encode_eq_ok_iff {t : Text} {bytes : Bytes} :
    encode t = .ok bytes ↔ ∃ s, t = Text.ofChars s ∧ bytes = encodeChars s := by
  constructor
  · exact of_encodeFrom
  · rintro ⟨s, rfl, rfl⟩
    exact encode_ofChars s

@[simp] theorem encodeChars_append (s t : List Char) :
    encodeChars (s ++ t) = encodeChars s ++ encodeChars t := List.flatMap_append

end SourceLedger.Utf8
