import SourceLedger.Binary64.Reading
import SourceLedger.Syntax.Tree
import SourceLedger.Text.CharacterName.Basic

/-!
# Literals

The values of number and string lexemes.
-/

namespace SourceLedger.Grammar.Literal

open Syntax (Constant)

/-- A decimal integer has at most this many digits. -/
def maxDigits : Nat := 4300

private def basedInteger? (base : Nat) (digits : List Char) : Option Constant :=
  (Numeral.ofChars? base digits).map fun n => .int n

private def decimal? (s : List Char) : Option Constant :=
  if s.any fun c => c = '.' || c = 'e' || c = 'E' then
    (Binary64.ofUnsigned? s).map .real
  else if s.all (· = '0') then some (.int 0)
  else if maxDigits < s.length then none
  else basedInteger? 10 s

/-- The constant that a number lexeme without its underscores denotes. -/
def number? (s : List Char) : Option Constant :=
  match s with
  | '0' :: c :: digits =>
    if c = 'x' ∨ c = 'X' then basedInteger? 16 digits
    else if c = 'o' ∨ c = 'O' then basedInteger? 8 digits
    else if c = 'b' ∨ c = 'B' then basedInteger? 2 digits
    else general s
  | _ => general s
where
  general (s : List Char) : Option Constant :=
    match s.getLast? with
    | some 'j' | some 'J' => (Binary64.ofUnsigned? s.dropLast).map .imaginary
    | _ => decimal? s

/-- A string lexeme taken apart: its prefix in lower case, what stands between the quotes, and
the number of characters before that. -/
structure StringParts where
  letters : List Char
  body : List Char
  offset : Nat

def StringParts.ofSpelling (s : List Char) : StringParts :=
  let letters := s.takeWhile fun c => c.isAlpha
  let quoted := s.drop letters.length
  let width :=
    match quoted with
    | a :: b :: c :: _ => if a = b ∧ b = c then 3 else 1
    | _ => 1
  { letters := letters.map Char.toLower
    body := (quoted.drop width).take (quoted.length - 2 * width)
    offset := letters.length + width }

namespace StringParts

def isRaw (p : StringParts) : Bool := p.letters.contains 'r'

def isBytes (p : StringParts) : Bool := p.letters.contains 'b'

def isFormatted (p : StringParts) : Bool := p.letters.contains 'f'

end StringParts

/-- The character that a one-letter escape stands for. -/
private def simpleEscape? (c : Char) : Option Char :=
  match c with
  | '\\' => some '\\'
  | '\'' => some '\''
  | '"' => some '"'
  | 'a' => some '\x07'
  | 'b' => some '\x08'
  | 'f' => some '\x0c'
  | 'n' => some '\n'
  | 'r' => some '\r'
  | 't' => some '\t'
  | 'v' => some '\x0b'
  | _ => none

/-- The digits of an octal escape: at most three. -/
private def octalRun (s : List Char) : List Char := (s.take 3).takeWhile (Numeral.isDigit 8)

/-- The number of hexadecimal digits after an escape letter, in a text literal. -/
private def hexWidth? (c : Char) : Option Nat :=
  match c with
  | 'x' => some 2
  | 'u' => some 4
  | 'U' => some 8
  | _ => none

/-- The number that exactly `width` hexadecimal digits give. -/
private def hexNumber? (width : Nat) (s : List Char) : Option Nat :=
  if s.length < width then none else Numeral.ofChars? 16 (s.take width)

/-- One escape, after its backslash: the code points it stands for and the rest. An escape
that means nothing stands for itself. -/
private def textEscape? (s : List Char) : Option (Text × List Char) :=
  match s with
  | [] => some ([.scalar '\\'], [])
  | '\n' :: rest => some ([], rest)
  | 'N' :: '{' :: rest =>
    let name := rest.takeWhile (· ≠ '}')
    if name.length < rest.length then do
      let c ← CharacterName.lookup? name
      some ([.scalar c], rest.drop (name.length + 1))
    else none
  | 'N' :: _ => none
  | c :: rest =>
    match simpleEscape? c, hexWidth? c with
    | some d, _ => some ([.scalar d], rest)
    | none, some width => do
      let n ← hexNumber? width rest
      let point ← CodePoint.ofNat? n
      some ([point], rest.drop width)
    | none, none =>
      let octal := octalRun s
      if octal.isEmpty then some ([.scalar '\\', .scalar c], rest)
      else do
        let n ← Numeral.ofChars? 8 octal
        let point ← CodePoint.ofNat? n
        some ([point], s.drop octal.length)

private def byteEscape? (s : List Char) : Option (Bytes × List Char) :=
  match s with
  | [] => some ([92], [])
  | '\n' :: rest => some ([], rest)
  | c :: rest =>
    match simpleEscape? c with
    | some d => some ([UInt8.ofNat d.toNat], rest)
    | none =>
      if c = 'x' then do
        let n ← hexNumber? 2 rest
        some ([UInt8.ofNat n], rest.drop 2)
      else
        let octal := octalRun s
        if octal.isEmpty then some ([92, UInt8.ofNat c.toNat], rest)
        else do
          let n ← Numeral.ofChars? 8 octal
          some ([UInt8.ofNat (n % 0x100)], s.drop octal.length)

/-- Decodes with `escape` what follows each backslash and with `plain` all else. Every round
takes a character. -/
private def unescape {α : Type} (plain : Char → α)
    (escape : List Char → Option (List α × List Char)) : Nat → List Char → Option (List α)
  | 0, _ => some []
  | fuel + 1, s =>
    match s with
    | [] => some []
    | '\\' :: rest => do
      let (items, after) ← escape rest
      let later ← unescape plain escape fuel after
      some (items ++ later)
    | c :: rest => do
      let later ← unescape plain escape fuel rest
      some (plain c :: later)

/-- The text between the quotes of a text literal. -/
def text? (isRaw : Bool) (body : List Char) : Option Text :=
  if isRaw || !body.contains '\\' then some (Text.ofChars body)
  else unescape CodePoint.scalar textEscape? body.length body

/-- The bytes between the quotes of a bytes literal, which is ASCII. -/
def bytes? (isRaw : Bool) (body : List Char) : Option Bytes :=
  if body.any fun c => 0x80 ≤ c.toNat then none
  else if isRaw || !body.contains '\\' then some (body.map fun c => UInt8.ofNat c.toNat)
  else unescape (fun c => UInt8.ofNat c.toNat) byteEscape? body.length body

end SourceLedger.Grammar.Literal
