import SourceLedger.Binary64.Basic
import SourceLedger.Text.Digits

/-!
# Reading decimals

The decimal notation shared by all the formats: digits with an optional point and an optional
exponent. What may stand around it, and whether a sign or the names of infinity and nan are
allowed, is for each format to say.
-/

namespace SourceLedger.Binary64

/-- The parts of an unsigned decimal: digits before and after the point, and the exponent. -/
structure DecimalParts where
  whole : List Char
  fraction : List Char
  exponent : Int
  deriving Repr

namespace DecimalParts

def isDigit (c : Char) : Bool := Numeral.isDigit 10 c

def natOf (s : List Char) : Nat := (Numeral.ofChars? 10 s).getD 0

-- Powers are those of the core library, whatever else is imported.
attribute [local instance (high)] instPowNat

/-- An exponent of more than twenty digits is as good as one of twenty. -/
def exponentOf (s : List Char) : Nat :=
  let s := s.dropWhile (· = '0')
  if 20 < s.length then 10 ^ (20 : Nat) else natOf s

/-- Splits `digits [. digits] [e [sign] digits]`, requiring all of the text to be used. -/
def split? (s : List Char) : Option DecimalParts :=
  let whole := s.takeWhile isDigit
  let rest := s.dropWhile isDigit
  let (fraction, rest) :=
    match rest with
    | '.' :: after => (after.takeWhile isDigit, after.dropWhile isDigit)
    | _ => ([], rest)
  if whole.isEmpty && fraction.isEmpty then none
  else match rest with
    | [] => some ⟨whole, fraction, 0⟩
    | e :: after =>
      if e = 'e' ∨ e = 'E' then
        let (negative, digits) :=
          match after with
          | '-' :: ds => (true, ds)
          | '+' :: ds => (false, ds)
          | ds => (false, ds)
        if digits.isEmpty || !digits.all isDigit then none
        else
          let value : Int := exponentOf digits
          some ⟨whole, fraction, if negative then -value else value⟩
      else none

def toBinary64 (negative : Bool) (d : DecimalParts) : Binary64 :=
  ofDecimal negative (natOf (d.whole ++ d.fraction)) (d.exponent - d.fraction.length)

end DecimalParts

/-- An unsigned decimal. -/
def ofUnsigned? (s : List Char) : Option Binary64 :=
  (DecimalParts.split? s).map (DecimalParts.toBinary64 false)

/-- A decimal with an optional sign, or the name of infinity or nan. -/
def ofText? (s : List Char) : Option Binary64 :=
  let (negative, body) :=
    match s with
    | '-' :: rest => (true, rest)
    | '+' :: rest => (false, rest)
    | _ => (false, s)
  if body = ['n', 'a', 'n'] then some .nan
  else if body = ['i', 'n', 'f'] then some (.infinite negative)
  else (DecimalParts.split? body).map (DecimalParts.toBinary64 negative)

end SourceLedger.Binary64
