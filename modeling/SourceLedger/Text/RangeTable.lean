/-!
# Sets of code points written as runs

A set is written as a list of numbers, in turn the length of a gap and the length of the run
that follows it. Each set is read once, when the program starts.
-/

namespace SourceLedger

/-- The runs of a set in ascending order, as first and last members. -/
structure RangeTable where
  ranges : Array (Nat × Nat)

namespace RangeTable

/-- The decimal numbers of a list with blanks and line breaks between them. -/
def numbers (s : String) : List Nat :=
  (s.toList.foldr
    (fun c (found, scale, value) =>
      if c = ' ' ∨ c = '\n' then (if scale = 1 then found else value :: found, 1, 0)
      else (found, scale * 10, value + scale * (c.toNat - 48)))
    ([], 1, 0)) |> fun (found, scale, value) => if scale = 1 then found else value :: found

private def rangesOf (next : Nat) : List Nat → List (Nat × Nat)
  | gap :: length :: rest =>
    (next + gap, next + gap + length - 1) :: rangesOf (next + gap + length) rest
  | _ => []

def ofRuns (s : String) : RangeTable := ⟨(rangesOf 0 (numbers s)).toArray⟩

/-- Bisection among the runs from index `low` up to, not including, index `high`. -/
private def search (ranges : Array (Nat × Nat)) (n : Nat) : Nat → Nat → Nat → Bool
  | 0, _, _ => false
  | fuel + 1, low, high =>
    if low < high then
      let middle := (low + high) / 2
      match ranges[middle]? with
      | none => false
      | some (first, last) =>
        if n < first then search ranges n fuel low middle
        else if last < n then search ranges n fuel (middle + 1) high
        else true
    else false

def contains (t : RangeTable) (n : Nat) : Bool :=
  search t.ranges n t.ranges.size 0 t.ranges.size

end RangeTable

end SourceLedger
