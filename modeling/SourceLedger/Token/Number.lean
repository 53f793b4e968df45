import SourceLedger.Text.Digits
import SourceLedger.Text.Identifier

/-!
# Number lexemes

How far a number reaches. Digits may be grouped by single underscores. A number must not run
into a word, except that a few keywords may follow it without a blank.
-/

namespace SourceLedger.Token.Number

private def isDecimalDigit (c : Char) : Bool := Numeral.isDigit 10 c

/-- A character that can continue a name, or that is not ASCII. -/
def isWordChar (c : Char) : Bool := c.isAlphanum || c = '_' || 0x80 ≤ c.toNat

/-- Whether single underscores stand only between digits. -/
private def isGrouped : List Char → Bool
  | [] => true
  | '_' :: [] => false
  | '_' :: '_' :: _ => false
  | _ :: rest => isGrouped rest

/-- The length of the run of digits at the start of a text, if its grouping is right. -/
private def run? (base : Nat) (s : List Char) : Option Nat :=
  let digits := s.takeWhile fun c => Numeral.isDigit base c || c = '_'
  if isGrouped digits then some digits.length else none

/-- The keywords that may follow a number at once. -/
private def followers : List (List Char) :=
  [['a', 'n', 'd'], ['e', 'l', 's', 'e'], ['f', 'o', 'r'], ['i', 'f'], ['i', 'n'], ['i', 's'],
    ['o', 'r']]

/-- Whether a number may end before `rest`. -/
def mayEnd (rest : List Char) : Bool :=
  match rest with
  | [] => true
  | c :: _ => followers.any (·.isPrefixOf rest) || !isWordChar c

/-- The total length, if the number may end there. -/
private def ending (s : List Char) (length : Nat) : Option Nat :=
  if mayEnd (s.drop length) then some length else none

private def imaginary? (s : List Char) (length : Nat) : Option Nat :=
  match s.drop length with
  | 'j' :: _ | 'J' :: _ => ending s (length + 1)
  | _ => ending s length

/-- An `e` without digits after it ends the number, where a keyword may begin. -/
private def exponent? (s : List Char) (length : Nat) : Option Nat :=
  let digitsFrom (start : Nat) : Option Nat := do
    let digits ← run? 10 (s.drop start)
    imaginary? s (start + digits)
  match s.drop length with
  | e :: rest =>
    if e = 'e' ∨ e = 'E' then
      match rest with
      | sign :: d :: _ =>
        if sign = '+' ∨ sign = '-' then
          if isDecimalDigit d then digitsFrom (length + 2) else none
        else if isDecimalDigit sign then digitsFrom (length + 1)
        else ending s length
      | [d] =>
        if d = '+' ∨ d = '-' then none
        else if isDecimalDigit d then digitsFrom (length + 1)
        else ending s length
      | [] => ending s length
    else imaginary? s length
  | [] => imaginary? s length

/-- From a point on: digits are optional behind it. -/
private def fraction? (s : List Char) (length : Nat) : Option Nat :=
  match s.drop length with
  | d :: _ =>
    if isDecimalDigit d then do
      let digits ← run? 10 (s.drop length)
      exponent? s (length + digits)
    else exponent? s length
  | [] => exponent? s length

private def based? (base : Nat) (s : List Char) : Option Nat := do
  let body := s.drop 2
  let body := if body.head? = some '_' then body.drop 1 else body
  let digits ← run? base body
  let length := s.length - body.length + digits
  if digits = 0 ∨ (body.head?.any (· = '_')) then none
  else
    match s.drop length with
    | d :: _ => if isDecimalDigit d then none else ending s length
    | [] => some length

private def decimal? (s : List Char) : Option Nat := do
  let length ← run? 10 s
  match s.drop length with
  | c :: _ =>
    if c = '.' then fraction? s (length + 1)
    else if c = 'e' ∨ c = 'E' then exponent? s length
    else if c = 'j' ∨ c = 'J' then imaginary? s length
    else if s.head? = some '0' ∧ (s.take length).any (fun d => d ≠ '0' ∧ d ≠ '_') then none
    else ending s length
  | [] =>
    if s.head? = some '0' ∧ (s.take length).any (fun d => d ≠ '0' ∧ d ≠ '_') then none
    else some length

/-- The length of the number at the start of a text that begins with a digit, or with a point
and a digit. A decimal integer has no leading zeros. -/
def length? (s : List Char) : Option Nat :=
  match s with
  | '.' :: _ => fraction? s 1
  | '0' :: c :: _ =>
    if c = 'x' ∨ c = 'X' then based? 16 s
    else if c = 'o' ∨ c = 'O' then based? 8 s
    else if c = 'b' ∨ c = 'B' then based? 2 s
    else decimal? s
  | _ => decimal? s

end SourceLedger.Token.Number
