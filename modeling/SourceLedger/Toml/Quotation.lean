import SourceLedger.Toml.Basic

/-!
# Quoted texts in TOML

Basic texts between double quotes know escapes, literal texts between apostrophes do not. With
three quotes on each side a text may span lines; one or two more quotes may stand before the
closing ones.
-/

namespace SourceLedger.Toml

/-- A control character that may not stand in a text of several lines. -/
private def isWrongInLines (c : Char) : Bool := isControl c && c != '\n'

private def escaped? (c : Char) : Option Char :=
  match c with
  | 'b' => some '\x08'
  | 't' => some '\t'
  | 'n' => some '\n'
  | 'f' => some '\x0c'
  | 'r' => some '\r'
  | '"' | '\\' => some c
  | _ => none

/-- The character with a number of so many hexadecimal digits. -/
def numbered (count : Nat) : Reader (List Char) := fun s =>
  let digits := s.take count
  if digits.length ≠ count then failAt .hexadecimal s
  else
    match Numeral.ofChars? 16 digits with
    | none => failAt .hexadecimal s
    | some n =>
      match CodePoint.ofNat? n with
      | some (.scalar c) => .ok ([c], s.drop count)
      | _ => failAt .notScalar (s.drop count)

/-- A backslash at the end of a line joins it to the next text that is not blank. -/
def joinLines : Reader (List Char) := fun s =>
  match skipBlanks s with
  | [] => .ok ([], [])
  | '\n' :: rest => .ok ([], rest.dropWhile isBlankOrBreak)
  | rest => failAt .unescaped rest

/-- What an escape stands for, read from behind its backslash. -/
def escape (isLong : Bool) : Reader (List Char) := fun s =>
  match s with
  | [] => failAt .unescaped []
  | c :: rest =>
    if isLong && isBlankOrBreak c then joinLines s
    else if c = 'u' then numbered 4 rest
    else if c = 'U' then numbered 8 rest
    else
      match escaped? c with
      | some c => .ok ([c], rest)
      | none => failAt .unescaped rest

private theorem escape_length {isLong : Bool} {s rest cs : List Char}
    (h : escape isLong s = .ok (cs, rest)) : rest.length ≤ s.length := by
  have blanks (t : List Char) : (skipBlanks t).length ≤ t.length :=
    (List.dropWhile_sublist isBlank).length_le
  have breaks (t : List Char) : (t.dropWhile isBlankOrBreak).length ≤ t.length :=
    (List.dropWhile_sublist isBlankOrBreak).length_le
  have join {t : List Char} (h : joinLines t = .ok (cs, rest)) : rest.length ≤ t.length := by
    unfold joinLines at h
    split at h
    · cases h; simp
    · rename_i r hr
      cases h
      have h1 := blanks t
      rw [hr] at h1
      have h2 := breaks r
      simp only [List.length_cons] at h1
      omega
    · simp [failAt] at h
  have number {n : Nat} {t : List Char} (h : numbered n t = .ok (cs, rest)) :
      rest.length ≤ t.length := by
    unfold numbered at h
    simp only at h
    repeat' split at h
    all_goals simp [failAt] at h
    obtain ⟨_, rfl⟩ := h
    simp
  unfold escape at h
  split at h
  · simp [failAt] at h
  · repeat' split at h
    · exact join h
    · exact Nat.le_succ_of_le (number h)
    · exact Nat.le_succ_of_le (number h)
    · cases h; simp
    · simp [failAt] at h

/-- The rest of a basic text up to and with its closing quotes. -/
def basic (isLong : Bool) (s : List Char) : Except Fault (List Char × List Char) :=
  match s with
  | [] => failAt .unterminated []
  | '\\' :: rest =>
    match _h : escape isLong rest with
    | .error f => .error f
    | .ok (cs, after) => (basic isLong after).map fun (t, rest) => (cs ++ t, rest)
  | '"' :: rest =>
    if !isLong then .ok ([], rest)
    else if ['"', '"'].isPrefixOf rest then .ok ([], rest.drop 2)
    else (basic isLong rest).map fun (t, rest) => ('"' :: t, rest)
  | c :: rest =>
    if (if isLong then isWrongInLines c else isControl c) then failAt (.illegal c) s
    else (basic isLong rest).map fun (t, rest) => (c :: t, rest)
  termination_by s.length
  decreasing_by
  · have := escape_length _h
    simp only [List.length_cons]
    omega
  · simp
  · simp

/-- A text on one line, from its opening double quote on. -/
def basicText : Reader Text := fun s =>
  (basic false (s.drop 1)).map fun (t, rest) => (Text.ofChars t, rest)

/-- A text on one line, from its opening apostrophe on. -/
def literalText : Reader Text := fun s => do
  let (t, rest) ← readUntil ['\''] isControl (s.drop 1)
  return (Text.ofChars t, rest.drop 1)

/-- Takes up to two more quotes behind the closing ones into a text. -/
private def withExtraQuotes (quote : Char) (t rest : List Char) : Text × List Char :=
  let extra := (rest.take 2).takeWhile (· = quote)
  (Text.ofChars (t ++ extra), rest.drop extra.length)

/-- The line break right behind the opening quotes does not belong to the text. -/
private def skipFirstBreak (s : List Char) : List Char :=
  match s with
  | '\n' :: rest => rest
  | _ => s

/-- A text of several lines, from its opening double quotes on. -/
def longBasicText : Reader Text := fun s => do
  let (t, rest) ← basic true (skipFirstBreak (s.drop 3))
  return withExtraQuotes '"' t rest

/-- A text of several lines, from its opening apostrophes on. -/
def longLiteralText : Reader Text := fun s => do
  let quotes := ['\'', '\'', '\'']
  let (t, rest) ← readUntil quotes isWrongInLines (skipFirstBreak (s.drop 3))
  return withExtraQuotes '\'' t (rest.drop 3)

end SourceLedger.Toml
