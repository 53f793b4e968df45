import SourceLedger.Binary64.Reading
import SourceLedger.Text.Integer
import SourceLedger.Text.Line
import SourceLedger.Value.Basic

/-!
# Reading JSON

A reader on the remaining input: it answers a value with what is left behind it. Numbers may
also be `NaN`, `Infinity` and `-Infinity`, and a key that is written again replaces the value
at its first place. A failure says how much input was left, from which its place follows.
-/

namespace SourceLedger.Json

/-- What is wrong at a place. -/
inductive Complaint
  | value
  | propertyName
  | colon
  | comma
  | extraData
  | escape
  | codeUnit
  | controlCharacter
  | unterminated
  | byteOrderMark
  deriving DecidableEq, Repr

namespace Complaint

def text : Complaint → Text
  | value => "Expecting value"
  | propertyName => "Expecting property name enclosed in double quotes"
  | colon => "Expecting ':' delimiter"
  | comma => "Expecting ',' delimiter"
  | extraData => "Extra data"
  | escape => "Invalid \\escape"
  | codeUnit => "Invalid \\uXXXX escape"
  | controlCharacter => "Invalid control character at"
  | unterminated => "Unterminated string starting at"
  | byteOrderMark => "Unexpected UTF-8 BOM (decode using utf-8-sig)"

end Complaint

inductive Fault
  /-- The input breaks the grammar where `remaining` characters of it are left. -/
  | malformed (complaint : Complaint) (remaining : Nat)
  /-- An integer has more digits than are read. -/
  | longInteger (digits : Nat)
  | tooDeep
  deriving DecidableEq, Repr

abbrev Reader (α : Type) := List Char → Except Fault (α × List Char)

/-- Fails at the start of `rest`. -/
def failAt {α : Type} (complaint : Complaint) (rest : List Char) : Except Fault α :=
  .error (.malformed complaint rest.length)

def isBlank (c : Char) : Bool := c = ' ' || c = '\t' || c = '\n' || c = '\r'

def skipBlanks (s : List Char) : List Char := s.dropWhile isBlank

namespace Read

/-- The character that a letter behind a backslash stands for. -/
def escaped? (c : Char) : Option Char :=
  match c with
  | '"' | '\\' | '/' => some c
  | 'b' => some '\x08'
  | 'f' => some '\x0c'
  | 'n' => some '\n'
  | 'r' => some '\r'
  | 't' => some '\t'
  | _ => none

/-- The code point of an escape by number. -/
def codeUnit? (digits : List Char) : Option CodePoint :=
  (Numeral.ofChars? 16 digits).bind CodePoint.ofNat?

/-- One escape, read from behind its backslash. `opening` is what is left from the opening
quote on. At least one more character, the closing quote, belongs behind a number. -/
def escape (opening : List Char) (s : List Char) : Except Fault (CodePoint × List Char) :=
  match s with
  | [] => failAt .unterminated opening
  | 'u' :: rest =>
    if 4 < rest.length then
      match codeUnit? (rest.take 4) with
      | some c => .ok (c, rest.drop 4)
      | none => failAt .codeUnit s
    else failAt .codeUnit s
  | c :: rest =>
    match escaped? c with
    | some c => .ok (.scalar c, rest)
    | none => .error (.malformed .escape (s.length + 1))

theorem escape_length {opening s rest : List Char} {c : CodePoint}
    (h : escape opening s = .ok (c, rest)) : rest.length ≤ s.length := by
  unfold escape at h
  repeat' split at h
  all_goals simp [failAt] at h
  all_goals obtain ⟨_, rfl⟩ := h
  all_goals simp
  all_goals omega

/-- The characters of a text up to and with its closing quote. -/
def characters (opening : List Char) (s : List Char) : Except Fault (Text × List Char) :=
  match s with
  | [] => failAt .unterminated opening
  | '"' :: rest => .ok ([], rest)
  | '\\' :: rest =>
    match _h : escape opening rest with
    | .error f => .error f
    | .ok (c, after) => (characters opening after).map fun (t, rest) => (c :: t, rest)
  | c :: rest =>
    if c.toNat < 0x20 then failAt .controlCharacter s
    else (characters opening rest).map fun (t, rest) => (.scalar c :: t, rest)
  termination_by s.length
  decreasing_by
  · have := escape_length _h
    simp only [List.length_cons]
    omega
  · simp

/-- The rest of a text, read from behind its opening quote. Two escapes that together make up
one character are joined. -/
def text (s : List Char) : Except Fault (Text × List Char) :=
  (characters ('"' :: s) s).map fun (t, rest) => (Text.joinPairs t, rest)

def isDigit (c : Char) : Bool := Numeral.isDigit 10 c

/-- The length of the fraction at the start of a text: a point with digits behind it. -/
def fractionLength (s : List Char) : Nat :=
  match s with
  | '.' :: rest =>
    let digits := (rest.takeWhile isDigit).length
    if digits = 0 then 0 else digits + 1
  | _ => 0

/-- The length of the exponent at the start of a text: `e`, an optional sign and digits. -/
def exponentLength (s : List Char) : Nat :=
  match s with
  | e :: rest =>
    if e = 'e' ∨ e = 'E' then
      let sign :=
        match rest with
        | '-' :: _ | '+' :: _ => 1
        | _ => 0
      let digits := ((rest.drop sign).takeWhile isDigit).length
      if digits = 0 then 0 else digits + sign + 1
    else 0
  | [] => 0

/-- The digits before a point: a zero, or digits that do not start with one. -/
def wholeLength (s : List Char) : Nat :=
  match s with
  | '0' :: _ => 1
  | s => (s.takeWhile isDigit).length

def integer (negative : Bool) (digits : List Char) : Except Fault Value :=
  if Numeral.maxDigits < digits.length then .error (.longInteger digits.length)
  else
    let n : Int := (Numeral.ofChars? 10 digits).getD 0
    .ok (.int (if negative then -n else n))

def real (negative : Bool) (lexeme : List Char) : Value :=
  .real (((Binary64.DecimalParts.split? lexeme).map
    (Binary64.DecimalParts.toBinary64 negative)).getD .nan)

/-- A number without its sign; `start` is where the number with its sign starts. -/
def unsigned (negative : Bool) (start s : List Char) :
    Except Fault (Value × List Char) := do
  let whole := wholeLength s
  if whole = 0 then failAt .value start
  else
    let fraction := fractionLength (s.drop whole)
    let exponent := exponentLength (s.drop (whole + fraction))
    let length := whole + fraction + exponent
    if fraction + exponent = 0 then
      return (← integer negative (s.take whole), s.drop length)
    else return (real negative (s.take length), s.drop length)

def number : Reader Value := fun s =>
  match s with
  | '-' :: rest => unsigned true s rest
  | _ => unsigned false s s

/-- The named constants. -/
def constants : List (List Char × Value) :=
  [(['n', 'u', 'l', 'l'], .null),
    (['t', 'r', 'u', 'e'], .bool true),
    (['f', 'a', 'l', 's', 'e'], .bool false),
    (['N', 'a', 'N'], .real .nan),
    (['I', 'n', 'f', 'i', 'n', 'i', 't', 'y'], .real (.infinite false)),
    (['-', 'I', 'n', 'f', 'i', 'n', 'i', 't', 'y'], .real (.infinite true))]

/-- A value that has no parts. -/
def atom : Reader Value := fun s =>
  match s with
  | '"' :: rest => (text rest).map fun (t, rest) => (.text t, rest)
  | _ =>
    match constants.find? fun (name, _) => name.isPrefixOf s with
    | some (name, v) => .ok (v, s.drop name.length)
    | none => number s

/-- Reads items with commas between them up to a closing character. -/
def separated {α : Type} (item : Reader α) (close : Char) (s : List Char) :
    Except Fault (List α × List Char) :=
  match item s with
  | .error f => .error f
  | .ok (a, rest) =>
    match skipBlanks rest with
    | [] => failAt .comma []
    | c :: after =>
      if c = close then .ok ([a], after)
      else if c = ',' then
        let next := skipBlanks after
        if _h : next.length < s.length then
          (separated item close next).map fun (as, rest) => (a :: as, rest)
        else failAt .value next
      else failAt .comma (c :: after)
  termination_by s.length

/-- The items behind an opening bracket, none if it is closed at once. -/
def enclosed {α : Type} (item : Reader α) (close : Char) (s : List Char) :
    Except Fault (List α × List Char) :=
  match skipBlanks s with
  | [] => (item []).map fun (a, rest) => ([a], rest)
  | c :: rest => if c = close then .ok ([], rest) else separated item close (c :: rest)

/-- A key, a colon and a value. -/
def entry (value : Reader Value) : Reader (Text × Value) := fun s =>
  match s with
  | '"' :: rest => do
    let (key, rest) ← text rest
    match skipBlanks rest with
    | ':' :: rest => do
      let (v, rest) ← value (skipBlanks rest)
      return ((key, v), rest)
    | rest => failAt .colon rest
  | _ => failAt .propertyName s

/-- A value that starts at once, with at most `depth` containers inside one another. -/
def value (depth : Nat) : Reader Value := fun s =>
  match depth, s with
  | 0, '[' :: _ => .error .tooDeep
  | 0, '\x7b' :: _ => .error .tooDeep
  | depth + 1, '[' :: rest =>
    (enclosed (value depth) ']' rest).map fun (items, rest) => (.list items, rest)
  | depth + 1, '\x7b' :: rest =>
    (enclosed (entry (value depth)) '\x7d' rest).map fun (entries, rest) =>
      (.table (Entries.ofList entries), rest)
  | _, s => atom s

end Read

/-- The greatest number of containers inside one another that is read. -/
def maxDepth : Nat := 980

/-- The value that a whole text denotes. -/
def read (s : List Char) : Except Fault Value :=
  match s with
  | '\ufeff' :: _ => failAt .byteOrderMark s
  | _ => do
    let (v, rest) ← Read.value maxDepth (skipBlanks s)
    match skipBlanks rest with
    | [] => return v
    | rest => failAt .extraData rest

namespace Fault

def placeText (s : List Char) (remaining : Nat) : Text :=
  let position := s.length - remaining
  let before := s.take position
  ": line " ++ Text.ofNat (Line.numberAfter before) ++ " column " ++
    Text.ofNat (Line.columnAfter before) ++ " (char " ++ Text.ofNat position ++ ")"

/-- The complaint with its place in the text, for a text that breaks the grammar. -/
def message? (s : List Char) : Fault → Option Text
  | malformed complaint remaining => some (complaint.text ++ placeText s remaining)
  | _ => none

end Fault

end SourceLedger.Json
