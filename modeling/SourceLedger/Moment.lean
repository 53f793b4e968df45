import SourceLedger.Text.Digits

/-!
# Dates and times

The calendar values that a configuration file can hold. They are written in the extended
format of ISO 8601, with a fraction of six digits when it is not zero.
-/

namespace SourceLedger

structure Date where
  year : Nat
  month : Nat
  day : Nat
  deriving DecidableEq, Repr

structure TimeOfDay where
  hour : Nat
  minute : Nat
  second : Nat
  microsecond : Nat
  deriving DecidableEq, Repr

inductive Moment
  | date (d : Date)
  | time (t : TimeOfDay)
  /-- A date with a time, and the distance from UTC in minutes if it is known. -/
  | dateTime (d : Date) (t : TimeOfDay) (offset : Option Int)
  deriving DecidableEq, Repr

namespace Date

def isLeap (year : Nat) : Bool := (year % 4 == 0 && year % 100 != 0) || year % 400 == 0

def daysIn (year month : Nat) : Nat :=
  if month = 2 then (if isLeap year then 29 else 28)
  else if month ∈ [4, 6, 9, 11] then 30
  else 31

/-- Whether the date exists, in years 1 to 9999. -/
def isValid (d : Date) : Bool :=
  1 ≤ d.year && d.year ≤ 9999 && 1 ≤ d.month && d.month ≤ 12 && 1 ≤ d.day &&
    d.day ≤ daysIn d.year d.month

def toText (d : Date) : Text :=
  Text.ofChars <| Numeral.padded 4 d.year ++ '-' :: Numeral.padded 2 d.month ++
    '-' :: Numeral.padded 2 d.day

end Date

namespace TimeOfDay

def toText (t : TimeOfDay) : Text :=
  Text.ofChars <| Numeral.padded 2 t.hour ++ ':' :: Numeral.padded 2 t.minute ++
    ':' :: Numeral.padded 2 t.second ++
    (if t.microsecond = 0 then [] else '.' :: Numeral.padded 6 t.microsecond)

end TimeOfDay

namespace Moment

private def offsetText (minutes : Int) : Text :=
  let n := minutes.natAbs
  Text.ofChars <| (if minutes < 0 then '-' else '+') ::
    Numeral.padded 2 (n / 60) ++ ':' :: Numeral.padded 2 (n % 60)

def toText : Moment → Text
  | .date d => d.toText
  | .time t => t.toText
  | .dateTime d t offset =>
    d.toText ++ .scalar 'T' :: t.toText ++
      (match offset with
        | none => []
        | some minutes => offsetText minutes)

/-- The name of the kind of value, as it appears in messages. -/
def kindName : Moment → Text
  | .date _ => "date"
  | .time _ => "time"
  | .dateTime .. => "datetime"

end Moment

end SourceLedger
