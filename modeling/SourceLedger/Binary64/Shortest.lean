import SourceLedger.Binary64.Basic
import SourceLedger.Text.Digits

/-!
# Shortest decimals

A number is written with the fewest digits that read back to it; of two such decimals the
nearer one is taken. Digits are positional for decimal exponents from -4 to 15 and scientific
beyond, with a sign and at least two digits in the exponent.
-/

namespace SourceLedger.Binary64

/-- The decimal `digits * 10 ^ exponent`. -/
structure Decimal where
  digits : Nat
  exponent : Int
  deriving DecidableEq, Repr

namespace Decimal

def toBinary64 (d : Decimal) : Binary64 := ofDecimal false d.digits d.exponent

end Decimal

-- Powers are those of the core library, whatever else is imported.
attribute [local instance (high)] instPowNat

/-- The magnitude as a quotient of natural numbers. -/
def ratio (mantissa : Nat) (exponent : Int) : Nat × Nat :=
  if 0 ≤ exponent then (mantissa * 2 ^ exponent.toNat, 1)
  else (mantissa, 2 ^ (-exponent).toNat)

/-- `num / den` measured in units of `10 ^ unit`. -/
def inUnits (num den : Nat) (unit : Int) : Nat × Nat :=
  if 0 ≤ unit then (num, den * 10 ^ unit.toNat) else (num * 10 ^ (-unit).toNat, den)

/-- The decimal exponent of a positive quotient: `10 ^ k ≤ num / den < 10 ^ (k + 1)`.
The estimate from the logarithms is at most a few units too low. -/
def decimalExponent (num den : Nat) : Int :=
  let estimate : Int := ((num.log2 : Int) - den.log2 - 1) * 30103 / 100000 - 1
  let reaches (k : Int) : Bool :=
    let (n, d) := inUnits num den k
    d ≤ n
  if reaches (estimate + 3) then estimate + 3
  else if reaches (estimate + 2) then estimate + 2
  else if reaches (estimate + 1) then estimate + 1
  else estimate

/-- The nearer of the two neighbours of `num / den` on the grid of `10 ^ unit` that read back
to `x`, a tie going to the even one. -/
def onGrid? (x : Binary64) (num den : Nat) (unit : Int) : Option Decimal :=
  let (n, d) := inUnits num den unit
  let below : Decimal := ⟨n / d, unit⟩
  let above : Decimal := ⟨n / d + 1, unit⟩
  match decide (below.toBinary64 = x), decide (above.toBinary64 = x) with
  | true, true => some (if roundDiv n d = n / d then below else above)
  | true, false => some below
  | false, true => some above
  | false, false => none

/-- The first grid, from coarse to fine, on which a neighbour reads back. Seventeen digits
always suffice. -/
def shortestFrom (x : Binary64) (num den : Nat) : Nat → Int → Decimal
  | 0, unit => ⟨num / den, unit⟩
  | grids + 1, unit =>
    match onGrid? x num den unit with
    | some d => d
    | none => shortestFrom x num den grids (unit - 1)

/-- The shortest decimal of a positive magnitude. -/
def shortest (mantissa : Nat) (exponent : Int) (h : Canonical mantissa exponent) : Decimal :=
  if mantissa = 0 then ⟨0, 0⟩
  else
    let (num, den) := ratio mantissa exponent
    shortestFrom (.finite false mantissa exponent h) num den 17 (decimalExponent num den)

/-- How a format lays out the digits of a number. -/
structure Layout where
  /-- Positional from this decimal exponent. -/
  leastPositional : Int
  /-- Scientific from this decimal exponent up. -/
  leastScientific : Int
  /-- Whether a positional integer ends in `.0`. -/
  markReal : Bool
  nan : Text
  infinity : Text
  negativeInfinity : Text

/-- Digits without their trailing zeros, and the exponent adjusted to them. -/
def trim : Nat → Nat → Int → Nat × Int
  | 0, digits, exponent => (digits, exponent)
  | fuel + 1, digits, exponent =>
    if digits ≠ 0 ∧ digits % 10 = 0 then trim fuel (digits / 10) (exponent + 1)
    else (digits, exponent)

def exponentText (e : Int) : List Char :=
  'e' :: (if e < 0 then '-' else '+') :: Numeral.padded 2 e.natAbs

def place (layout : Layout) (d : Decimal) : List Char :=
  let (digits, unit) := trim 20 d.digits d.exponent
  if digits = 0 then (if layout.markReal then ['0', '.', '0'] else ['0'])
  else
    let ds := Numeral.decimal digits
    let e := unit + ds.length - 1
    if e < layout.leastPositional ∨ layout.leastScientific ≤ e then
      (match ds with
        | [] => []
        | [c] => [c]
        | c :: rest => c :: '.' :: rest) ++ exponentText e
    else if e < 0 then
      ['0', '.'] ++ List.replicate ((-e).toNat - 1) '0' ++ ds
    else if 0 ≤ unit then
      ds ++ List.replicate unit.toNat '0' ++ (if layout.markReal then ['.', '0'] else [])
    else
      ds.take (e.toNat + 1) ++ '.' :: ds.drop (e.toNat + 1)

/-- The text of a number in a layout. -/
def render (layout : Layout) : Binary64 → Text
  | .nan => layout.nan
  | .infinite negative => if negative then layout.negativeInfinity else layout.infinity
  | .finite negative mantissa exponent h =>
    let digits := Text.ofChars (place layout (shortest mantissa exponent h))
    if negative then .scalar '-' :: digits else digits

/-- The layout of a literal. -/
def Layout.literal : Layout where
  leastPositional := -4
  leastScientific := 16
  markReal := true
  nan := "nan"
  infinity := "inf"
  negativeInfinity := "-inf"

/-- The layout of the imaginary part of a literal: as a literal, but an integer has no mark. -/
def Layout.imaginary : Layout := { Layout.literal with markReal := false }

/-- The number as a literal. -/
def toText (x : Binary64) : Text := x.render .literal

end SourceLedger.Binary64
