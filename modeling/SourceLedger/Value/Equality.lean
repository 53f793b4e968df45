import SourceLedger.Value.Basic

/-!
# Equality of values

Numbers are compared by value, so that `1`, `1.0` and `true` are equal, nan differs from
everything, and the order of the entries of a table does not matter.
-/

namespace SourceLedger.Value

/-- The integer that a number or a truth value is equal to. -/
private def integer? : Value → Option Int
  | .bool b => some (if b then 1 else 0)
  | .int n => some n
  | .real x => x.toInt?
  | _ => none

private def atomsEqual (x y : Value) : Bool :=
  match x, y with
  | .null, .null => true
  | .text s, .text t => s == t
  | .moment m, .moment n => m == n
  | .real a, .real b => a.equals b
  | _, _ =>
    match integer? x, integer? y with
    | some m, some n => m == n
    | _, _ => false

mutual

def equals : Value → Value → Bool
  | .list xs, .list ys => listEquals xs ys
  | .table xs, .table ys => xs.length == ys.length && entriesMatch xs ys
  | x, y => atomsEqual x y

def listEquals : List Value → List Value → Bool
  | [], [] => true
  | x :: xs, y :: ys => equals x y && listEquals xs ys
  | _, _ => false

/-- Whether each entry of the first table is equal to the one of the same key in the other. -/
def entriesMatch : List (Text × Value) → List (Text × Value) → Bool
  | [], _ => true
  | (k, x) :: xs, ys =>
    (match Entries.get? ys k with
      | some y => equals x y
      | none => false) && entriesMatch xs ys

end

end SourceLedger.Value
