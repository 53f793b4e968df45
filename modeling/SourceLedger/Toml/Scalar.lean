import SourceLedger.Binary64.Reading
import SourceLedger.Text.Integer
import SourceLedger.Toml.Basic

/-!
# Numbers, dates and times in TOML

How far such a value reaches is settled by its form alone; what stands behind it is for the
statement to judge.
-/

namespace SourceLedger.Toml

private def isDecimal (c : Char) : Bool := Numeral.isDigit 10 c

/-- How far digits go on, a single underscore being allowed before each. -/
private def runLength (base : Nat) : List Char → Nat
  | [] => 0
  | ['_'] => 0
  | '_' :: d :: rest => if Numeral.isDigit base d then runLength base rest + 2 else 0
  | d :: rest => if Numeral.isDigit base d then runLength base rest + 1 else 0

/-- The length of a run that starts with a digit. -/
private def digitsLength (base : Nat) (s : List Char) : Nat :=
  match s with
  | c :: _ => if Numeral.isDigit base c then runLength base s else 0
  | [] => 0

private def ungrouped (s : List Char) : List Char := s.filter (· ≠ '_')

private def baseOf? (c : Char) : Option Nat :=
  match c with
  | 'x' => some 16
  | 'o' => some 8
  | 'b' => some 2
  | _ => none

/-- A number with a base marker, such as `0xff`. -/
def marked? (s : List Char) : Option (Value × List Char) := do
  match s with
  | '0' :: marker :: rest =>
    let base ← baseOf? marker
    let length := digitsLength base rest
    if length = 0 then none
    else
      let n ← Numeral.ofChars? base (ungrouped (rest.take length))
      some (.int n, rest.drop length)
  | _ => none

private def signLength (s : List Char) : Nat :=
  match s with
  | '+' :: _ | '-' :: _ => 1
  | _ => 0

private def wholeLength (s : List Char) : Nat :=
  match s with
  | '0' :: _ => 1
  | _ => digitsLength 10 s

private def fractionLength (s : List Char) : Nat :=
  match s with
  | '.' :: rest =>
    let digits := digitsLength 10 rest
    if digits = 0 then 0 else digits + 1
  | _ => 0

private def exponentLength (s : List Char) : Nat :=
  match s with
  | 'e' :: rest | 'E' :: rest =>
    let sign := signLength rest
    let digits := digitsLength 10 (rest.drop sign)
    if digits = 0 then 0 else digits + sign + 1
  | _ => 0

def integer (negative : Bool) (digits : List Char) : Except Fault Value :=
  if Numeral.maxDigits < digits.length then .error (.longInteger digits.length)
  else
    let n : Int := (Numeral.ofChars? 10 digits).getD 0
    .ok (.int (if negative then -n else n))

/-- A decimal number. -/
def decimal? (s : List Char) : Option (Except Fault Value × List Char) :=
  let sign := signLength s
  let unsigned := s.drop sign
  let whole := wholeLength unsigned
  if whole = 0 then none
  else
    let fraction := fractionLength (unsigned.drop whole)
    let exponent := exponentLength (unsigned.drop (whole + fraction))
    let negative := s.head? = some '-'
    let lexeme := ungrouped (unsigned.take (whole + fraction + exponent))
    let value :=
      if fraction + exponent = 0 then integer negative lexeme
      else
        .ok (.real (((Binary64.DecimalParts.split? lexeme).map
          (Binary64.DecimalParts.toBinary64 negative)).getD .nan))
    some (value, unsigned.drop (whole + fraction + exponent))

/-- Infinity or nan, with an optional sign. -/
def named? (s : List Char) : Option (Value × List Char) :=
  let sign := signLength s
  let name := (s.drop sign).take 3
  let rest := s.drop (sign + 3)
  if name = ['i', 'n', 'f'] then some (.real (.infinite (s.head? = some '-')), rest)
  else if name = ['n', 'a', 'n'] then some (.real .nan, rest)
  else none

def number? (s : List Char) : Option (Except Fault Value × List Char) :=
  match marked? s with
  | some (v, rest) => some (.ok v, rest)
  | none =>
    match decimal? s with
    | some found => some found
    | none => (named? s).map fun (v, rest) => (.ok v, rest)

/-- A number of exactly `count` decimal digits, between two bounds. -/
private def field? (count low high : Nat) (s : List Char) : Option (Nat × List Char) := do
  let digits := s.take count
  if digits.length = count ∧ digits.all isDecimal then
    let n ← Numeral.ofChars? 10 digits
    if low ≤ n ∧ n ≤ high then some (n, s.drop count) else none
  else none

private def mark? (c : Char) (s : List Char) : Option (List Char) :=
  match s with
  | d :: rest => if c = d then some rest else none
  | [] => none

private def date? (s : List Char) : Option (Date × List Char) := do
  let (year, s) ← field? 4 0 9999 s
  let (month, s) ← field? 2 1 12 (← mark? '-' s)
  let (day, s) ← field? 2 1 31 (← mark? '-' s)
  return ({ year, month, day }, s)

/-- The fraction of a second in millionths; digits behind the sixth do not count. -/
private def microseconds (s : List Char) : Nat × List Char :=
  match s with
  | '.' :: rest =>
    let digits := rest.takeWhile isDecimal
    if digits.isEmpty then (0, s)
    else
      let six := (digits ++ List.replicate 6 '0').take 6
      ((Numeral.ofChars? 10 six).getD 0, rest.drop digits.length)
  | _ => (0, s)

private def time? (s : List Char) : Option (TimeOfDay × List Char) := do
  let (hour, s) ← field? 2 0 23 s
  let (minute, s) ← field? 2 0 59 (← mark? ':' s)
  let (second, s) ← field? 2 0 59 (← mark? ':' s)
  let (microsecond, s) := microseconds s
  return ({ hour, minute, second, microsecond }, s)

private def offset? (s : List Char) : Option (Int × List Char) :=
  match s with
  | 'Z' :: rest | 'z' :: rest => some (0, rest)
  | sign :: rest => do
    if sign ≠ '+' ∧ sign ≠ '-' then none
    else
      let (hours, rest) ← field? 2 0 23 rest
      let (minutes, rest) ← field? 2 0 59 (← mark? ':' rest)
      let distance : Int := hours * 60 + minutes
      some (if sign = '-' then -distance else distance, rest)
  | [] => none

/-- The time behind a date, with its distance from UTC if that is given. -/
private def timeBehindDate? (s : List Char) :
    Option (TimeOfDay × Option Int × List Char) := do
  match s with
  | c :: rest =>
    if c = 'T' ∨ c = 't' ∨ c = ' ' then
      let (time, rest) ← time? rest
      match offset? rest with
      | some (offset, rest) => some (time, some offset, rest)
      | none => some (time, none, rest)
    else none
  | [] => none

/-- A date, a time or both. A date has to exist. -/
def moment? (s : List Char) : Option (Except Fault Value × List Char) :=
  match date? s with
  | some (date, rest) =>
    let (moment, rest) :=
      match timeBehindDate? rest with
      | some (time, offset, rest) => (Moment.dateTime date time offset, rest)
      | none => (.date date, rest)
    some (if date.isValid then .ok (.moment moment) else failAt .moment s, rest)
  | none => (time? s).map fun (time, rest) => (.ok (.moment (.time time)), rest)

end SourceLedger.Toml
