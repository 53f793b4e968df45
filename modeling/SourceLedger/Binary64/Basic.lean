/-!
# Binary floating point of 64 bits

A finite number is `mantissa * 2 ^ exponent` with a sign. The mantissa has 53 bits, fewer only
at the least exponent, so that each number has one representation and equality of
representations is equality of numbers, the two zeros apart. No arithmetic is needed beyond
rounding a quotient, which is done in natural numbers.
-/

namespace SourceLedger

-- Powers are those of the core library, whatever else is imported.
attribute [local instance (high)] instPowNat

/-- The pairs that represent a magnitude. -/
def Binary64.Canonical (mantissa : Nat) (exponent : Int) : Prop :=
  mantissa < 2 ^ (53 : Nat) ∧ -1074 ≤ exponent ∧ exponent ≤ 971 ∧
    (2 ^ (52 : Nat) ≤ mantissa ∨ exponent = -1074)

instance (mantissa : Nat) (exponent : Int) :
    Decidable (Binary64.Canonical mantissa exponent) := by
  unfold Binary64.Canonical
  infer_instance

inductive Binary64
  | nan
  | infinite (negative : Bool)
  | finite (negative : Bool) (mantissa : Nat) (exponent : Int)
      (canonical : Binary64.Canonical mantissa exponent)
  deriving DecidableEq

namespace Binary64

instance : Inhabited Binary64 := ⟨.nan⟩

/-- The quotient rounded to the nearest natural number, a half to the even one. -/
def roundDiv (num den : Nat) : Nat :=
  let q := num / den
  let r := num % den
  if den < 2 * r ∨ (den = 2 * r ∧ q % 2 = 1) then q + 1 else q

/-- The number nearest to `num / den * 2 ^ -shift`, as a multiple of one. -/
def roundScaled (num den : Nat) (exponent : Int) : Nat :=
  if 0 ≤ exponent then roundDiv num (den * 2 ^ exponent.toNat)
  else roundDiv (num * 2 ^ (-exponent).toNat) den

/-- A magnitude too large for the format becomes infinite. -/
def make (negative : Bool) (mantissa : Nat) (exponent : Int) : Binary64 :=
  if h : Canonical mantissa exponent then .finite negative mantissa exponent h
  else .infinite negative

def zero (negative : Bool) : Binary64 := make negative 0 (-1074)

/-- The number nearest to a quotient, a half going to the even mantissa; `den` is positive.

The exponent is chosen so that the mantissa has 53 bits. The two logarithms leave one bit of
doubt, which comparing `num` with the scaled denominator settles. -/
def ofRatio (negative : Bool) (num den : Nat) : Binary64 :=
  if num = 0 then zero negative
  else
    let guess : Int := (num.log2 : Int) - den.log2 - 53
    let tooFine : Bool :=
      if 0 ≤ guess then den * 2 ^ (guess.toNat + 53) ≤ num
      else den * 2 ^ (53 : Nat) ≤ num * 2 ^ (-guess).toNat
    let exponent := max (if tooFine then guess + 1 else guess) (-1074)
    let mantissa := roundScaled num den exponent
    if mantissa = 2 ^ (53 : Nat) then make negative (2 ^ (52 : Nat)) (exponent + 1)
    else make negative mantissa exponent

/-- The number nearest to `digits * 10 ^ exponent`. Exponents far outside the range of the
format are cut short, since the answer no longer depends on them. -/
def ofDecimal (negative : Bool) (digits : Nat) (exponent : Int) : Binary64 :=
  if digits = 0 then zero negative
  else
    let magnitude : Int := digits.log2 * 30103 / 100000 + exponent
    if 400 < magnitude then .infinite negative
    else if magnitude < -500 then zero negative
    else if 0 ≤ exponent then ofRatio negative (digits * 10 ^ exponent.toNat) 1
    else ofRatio negative digits (10 ^ (-exponent).toNat)

def isFinite : Binary64 → Bool
  | .finite .. => true
  | _ => false

/-- The integer part, toward zero, of a finite number. -/
def truncate? : Binary64 → Option Int
  | .finite negative mantissa exponent _ =>
    let magnitude : Nat :=
      if 0 ≤ exponent then mantissa * 2 ^ exponent.toNat
      else mantissa / 2 ^ (-exponent).toNat
    some (if negative then -(magnitude : Int) else magnitude)
  | _ => none

/-- The integer that the number is equal to, if there is one. -/
def toInt? : Binary64 → Option Int
  | x@(.finite _ mantissa exponent _) =>
    if 0 ≤ exponent ∨ mantissa % 2 ^ (-exponent).toNat = 0 then x.truncate? else none
  | _ => none

/-- Numerical equality: nan differs from itself, and the zeros are equal. -/
def equals : Binary64 → Binary64 → Bool
  | .nan, _ => false
  | _, .nan => false
  | .finite _ 0 _ _, .finite _ 0 _ _ => true
  | x, y => x == y

end Binary64

end SourceLedger
