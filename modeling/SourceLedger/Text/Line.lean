import SourceLedger.Text.Digits

/-!
# Places in a text

Messages name a place by its line and column, both counted from one, or by the number of
characters before it.
-/

namespace SourceLedger.Line

/-- The line break that lines are counted by. -/
def feed : Char := '\n'

/-- The number of the line that starts or goes on behind `before`. -/
def numberAfter (before : List Char) : Nat := before.count feed + 1

/-- The column behind `before`. -/
def columnAfter (before : List Char) : Nat :=
  (before.reverse.takeWhile (· ≠ feed)).length + 1

/-- Every line break in one form: a carriage return, with the line feed behind it if there is
one, becomes a line feed. -/
def unify : List Char → List Char
  | [] => []
  | '\r' :: '\n' :: rest => feed :: unify rest
  | c :: rest => (if c = '\r' then feed else c) :: unify rest

end SourceLedger.Line
