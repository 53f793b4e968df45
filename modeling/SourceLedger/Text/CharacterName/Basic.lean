import SourceLedger.Text.CharacterName.EastAsianScripts
import SourceLedger.Text.CharacterName.GeneralScripts
import SourceLedger.Text.CharacterName.OtherNames
import SourceLedger.Text.CharacterName.SupplementaryScripts
import SourceLedger.Text.CharacterName.SupplementarySymbols
import SourceLedger.Text.CharacterName.Symbols
import SourceLedger.Text.Digits

/-!
# Character names

The names of characters in Unicode 14. Hangul syllables and unified ideographs are named by
rule, in capitals; some further ranges are named by their code points; all other names are
listed, and may be spelled in letters of either case.

A listing names consecutive characters. The entry for a character begins with a small letter
that says how many words its name shares with the one before, none for `a`, one for `b` and so
on; the words that it does not share follow. Line breaks mean nothing.
-/

namespace SourceLedger.CharacterName

/-- What remains behind a beginning. -/
private def behind? (beginning : String) (s : List Char) : Option (List Char) :=
  if beginning.toList.isPrefixOf s then some (s.drop beginning.length) else none

/-! ### Hangul syllables -/

private def leads : List String :=
  ["G", "GG", "N", "D", "DD", "R", "M", "B", "BB", "S", "SS", "", "J", "JJ", "C", "K", "T", "P",
    "H"]

private def vowels : List String :=
  ["A", "AE", "YA", "YAE", "EO", "E", "YEO", "YE", "O", "WA", "WAE", "OE", "YO", "U", "WEO", "WE",
    "WI", "YU", "EU", "YI", "I"]

private def tails : List String :=
  ["", "G", "GG", "GS", "N", "NJ", "NH", "D", "L", "LG", "LM", "LB", "LS", "LT", "LP", "LH", "M",
    "B", "BS", "S", "SS", "NG", "J", "C", "K", "T", "P", "H"]

/-- The number of the longest of some sounds that a text begins with, and the rest. -/
private def longest? (sounds : List String) (s : List Char) : Option (Nat × List Char) :=
  (sounds.zipIdx.foldl (fun best (sound, n) =>
    match behind? sound s, best with
    | none, _ => best
    | some rest, none => some (n, rest)
    | some rest, some (_, shortest) =>
      if rest.length < shortest.length then some (n, rest) else best) none)

private def syllable? (sounds : List Char) : Option Nat := do
  let (lead, rest) ← longest? leads sounds
  let (vowel, rest) ← longest? vowels rest
  let (tail, rest) ← longest? tails rest
  if rest.isEmpty then
    some (0xAC00 + (lead * vowels.length + vowel) * tails.length + tail)
  else none

/-! ### Names with code points -/

private def upperHex? (s : List Char) : Option Nat :=
  if s.any Char.isLower then none else Numeral.ofChars? 16 s

private def unifiedIdeographs : List (Nat × Nat) :=
  [(0x3400, 0x4DBF), (0x4E00, 0x9FFF), (0x20000, 0x2A6DF), (0x2A700, 0x2B738),
    (0x2B740, 0x2B81D), (0x2B820, 0x2CEA1), (0x2CEB0, 0x2EBE0), (0x30000, 0x3134A)]

/-- The code point is written with four or five digits. -/
private def ideograph? (digits : List Char) : Option Nat := do
  if digits.length = 4 ∨ digits.length = 5 then
    let n ← upperHex? digits
    if unifiedIdeographs.any fun (first, last) => first ≤ n && n ≤ last then some n else none
  else none

/-- Ranges whose members are named by a beginning and their code points. -/
private def numbered : List (String × Nat × Nat) :=
  [("CJK COMPATIBILITY IDEOGRAPH-", 0xF900, 0xFA6D),
    ("CJK COMPATIBILITY IDEOGRAPH-", 0xFA70, 0xFAD9),
    ("CJK COMPATIBILITY IDEOGRAPH-", 0x2F800, 0x2FA1D),
    ("KHITAN SMALL SCRIPT CHARACTER-", 0x18B00, 0x18CD5),
    ("NUSHU CHARACTER-", 0x1B170, 0x1B2FB)]

private def numbered? (name : List Char) : Option Nat :=
  numbered.findSome? fun (beginning, first, last) => do
    let digits ← behind? beginning name
    let n ← upperHex? digits
    if digits.head? ≠ some '0' ∧ first ≤ n ∧ n ≤ last then some n else none

/-! ### Listed names -/

private abbrev Word := List Char

private structure Entry where
  /-- The number of words shared with the name before. -/
  kept : Nat
  words : List Word

/-- What has been read of a listing from its end: a word, the words behind it, and entries. -/
private structure Reader where
  word : Word
  words : List Word
  entries : List Entry

private def readChar (c : Char) (r : Reader) : Reader :=
  if c.isLower then
    let words := if r.word.isEmpty && r.words.isEmpty then [] else r.word :: r.words
    ⟨[], [], ⟨c.toNat - 'a'.toNat, words⟩ :: r.entries⟩
  else if c = ' ' then { r with word := [], words := r.word :: r.words }
  else if c = '\n' then r
  else { r with word := c :: r.word }

private def entriesOf (listing : String) : List Entry :=
  (listing.toList.foldr readChar ⟨[], [], []⟩).entries

/-- The place of a name among entries, the name before them being given. -/
private def indexOf? (name before : List Word) : List Entry → Option Nat
  | [] => none
  | e :: rest =>
    let current := before.take e.kept ++ e.words
    if current = name then some 0 else (indexOf? name current rest).map (· + 1)

private def wordsOf (name : List Char) : List Word :=
  name.foldr (fun c words =>
    match c, words with
    | ' ', _ => [] :: words
    | _, word :: rest => (c :: word) :: rest
    | _, [] => [[c]]) [[]]

private def listed? (name : List Char) (listings : List (Nat × String)) : Option Nat :=
  listings.findSome? fun (first, listing) =>
    (indexOf? (wordsOf name) [] (entriesOf listing)).map (first + ·)

private def otherwise? (name : List Char) : Option Nat :=
  (otherNames.find? fun (_, names) => names.any fun n => n.toList == name).map Prod.fst

/-- The code point of a name. -/
def codePoint? (name : List Char) : Option Nat :=
  match behind? "HANGUL SYLLABLE " name with
  | some sounds => syllable? sounds
  | none =>
    match behind? "CJK UNIFIED IDEOGRAPH-" name with
    | some digits => ideograph? digits
    | none =>
      let name := name.map Char.toUpper
      otherwise? name <|> numbered? name <|> listed? name generalScripts <|>
        listed? name symbols <|> listed? name eastAsianScripts <|>
        listed? name supplementaryScripts <|> listed? name supplementarySymbols

/-- The character of a name. -/
def lookup? (name : List Char) : Option Char := (codePoint? name).map Char.ofNat

end SourceLedger.CharacterName
