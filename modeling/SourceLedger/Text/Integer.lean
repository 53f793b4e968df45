import SourceLedger.Text.Digits

/-!
# Integers in texts

Reading an integer that a user wrote. Integers of very many digits are neither read nor
written.
-/

namespace SourceLedger

namespace Numeral

/-- Single underscores may group digits. -/
def groupedDigits? : List CodePoint → Bool → Nat → Option Nat
  | [], afterDigit, n => if afterDigit then some n else none
  | c :: rest, afterDigit, n =>
    if c = .scalar '_' then
      if afterDigit then groupedDigits? rest false n else none
    else
      match c.decimalValue? with
      | some d => groupedDigits? rest true (n * 10 + d)
      | none => none

/-- The greatest number of digits that a number in a text may have. -/
def maxDigits : Nat := 4300

/-- The integer that a text denotes: decimal digits of any script, perhaps grouped, with an
optional sign and blanks around. -/
def ofText? (t : Text) : Option Int :=
  let t := t.dropWhile CodePoint.isBlank
  let t := (t.reverse.dropWhile CodePoint.isBlank).reverse
  let (negative, digits) :=
    match t with
    | .scalar '-' :: rest => (true, rest)
    | .scalar '+' :: rest => (false, rest)
    | _ => (false, t)
  if maxDigits < (digits.filter (· ≠ .scalar '_')).length then none
  else (groupedDigits? digits false 0).map fun n => if negative then -(n : Int) else n

private def limit : Text :=
  "Exceeds the limit (" ++ Text.ofNat maxDigits ++ " digits) for integer string conversion"

private def remedy : Text := "; use sys.set_int_max_str_digits() to increase the limit"

/-- Why an integer of so many digits is not read. -/
def tooLongToRead (digits : Nat) : Text :=
  limit ++ ": value has " ++ Text.ofNat digits ++ " digits" ++ remedy

/-- Why a very large integer is not written. -/
def tooLongToWrite : Text := limit ++ remedy

end Numeral

end SourceLedger
