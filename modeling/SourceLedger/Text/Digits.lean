import SourceLedger.Text.Basic

/-!
# Digits and blanks

Decimal digits of every script count as digits in a number that a user writes, and Unicode
blanks may surround it, except the ASCII separators. Numerals that the program writes are ASCII.
-/

namespace SourceLedger

/-- The zeros of the decimal digit sets of Unicode 14; the other nine digits follow each. -/
private def decimalZeros : List Nat :=
  [48, 1632, 1776, 1984, 2406, 2534, 2662, 2790, 2918, 3046, 3174, 3302, 3430, 3558, 3664, 3792,
    3872, 4160, 4240, 6112, 6160, 6470, 6608, 6784, 6800, 6992, 7088, 7232, 7248, 42528, 43216,
    43264, 43472, 43504, 43600, 44016, 65296, 66720, 68912, 69734, 69872, 69942, 70096, 70384,
    70736, 70864, 71248, 71360, 71472, 71904, 72016, 72784, 73040, 73120, 92768, 92864, 93008,
    120782, 120792, 120802, 120812, 120822, 123200, 123632, 125264, 130032]

namespace CodePoint

/-- The value of a decimal digit in any script. -/
def decimalValue? (c : CodePoint) : Option Nat :=
  let n := c.toNat
  if n < 0x80 then (if 48 ≤ n ∧ n < 58 then some (n - 48) else none)
  else (decimalZeros.find? fun first => first ≤ n && n < first + 10).map (n - ·)

/-- A character that may surround a number: a Unicode blank, but of the ASCII characters only the
tabs, the breaks and the space. -/
def isBlank (c : CodePoint) : Bool :=
  let n := c.toNat
  (9 ≤ n && n ≤ 13) || n == 32 || n == 0x85 || n == 0xA0 || n == 0x1680 ||
    (0x2000 ≤ n && n ≤ 0x200A) || n == 0x2028 || n == 0x2029 || n == 0x202F || n == 0x205F ||
    n == 0x3000

end CodePoint

namespace Numeral

/-- The digits of `n`, most significant first, given enough fuel for all of them. -/
def digitsFrom (base : Nat) : Nat → Nat → List Nat → List Nat
  | 0, _, later => later
  | fuel + 1, n, later =>
    if n < base then n :: later else digitsFrom base fuel (n / base) (n % base :: later)

/-- The digits of `n` in a base from 2 up, most significant first; `0` for zero. -/
def digits (base n : Nat) : List Nat := digitsFrom base (n.log2 + 1) n []

/-- The number that a list of digits stands for. -/
def value (base : Nat) (ds : List Nat) : Nat := ds.foldl (fun n d => n * base + d) 0

/-- The character of a digit below 36, letters in lower case. -/
def digitChar (d : Nat) : Char := Char.ofNat (if d < 10 then 48 + d else 87 + d)

/-- The value of an ASCII digit or letter, letters of either case counting from ten. -/
def digitValue? (c : Char) : Option Nat :=
  let n := c.toNat
  if 48 ≤ n ∧ n < 58 then some (n - 48)
  else if 97 ≤ n ∧ n < 123 then some (n - 87)
  else if 65 ≤ n ∧ n < 91 then some (n - 55)
  else none

def isDigit (base : Nat) (c : Char) : Bool :=
  match digitValue? c with
  | some d => d < base
  | none => false

/-- The number written by ASCII digits, if all of them are digits of the base. -/
def ofChars? (base : Nat) (s : List Char) : Option Nat :=
  if s.isEmpty then none
  else s.foldlM (fun n c =>
    match digitValue? c with
    | some d => if d < base then some (n * base + d) else none
    | none => none) 0

def decimal (n : Nat) : List Char := (digits 10 n).map digitChar

def decimalInt (n : Int) : List Char :=
  if n < 0 then '-' :: decimal n.natAbs else decimal n.natAbs

/-- At least `width` lower-case hexadecimal digits. -/
def hex (width n : Nat) : List Char :=
  let ds := (digits 16 n).map digitChar
  List.replicate (width - ds.length) '0' ++ ds

/-- At least `width` decimal digits. -/
def padded (width n : Nat) : List Char :=
  let ds := decimal n
  List.replicate (width - ds.length) '0' ++ ds

end Numeral

namespace Text

def ofNat (n : Nat) : Text := ofChars (Numeral.decimal n)

def ofInt (n : Int) : Text := ofChars (Numeral.decimalInt n)

end Text

end SourceLedger
