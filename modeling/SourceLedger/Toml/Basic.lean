import SourceLedger.Text.Line
import SourceLedger.Text.Quoted
import SourceLedger.Value.Literal

/-!
# Reading TOML

The readers work on the remaining input: each answers what it read with what is left behind it.
A failure says how much input was left, from which its place follows.
-/

namespace SourceLedger.Toml

/-- A dotted key, part by part. -/
abbrev Key := List Text

/-- What is wrong at a place. -/
inductive Complaint
  | statement
  | lineEnd
  | keyStart
  | equalsSign
  | value
  | moment
  | tableEnd
  | arrayTableEnd
  | unclosedArray
  | unclosedTable
  | declaredTwice (key : Key)
  | immutable (key : Key)
  | redefined (key : Key)
  | overwritten
  | duplicate (part : Text)
  | unterminated
  | expected (delimiter : Text)
  | illegal (c : Char)
  | invalidCharacter (c : Char)
  | unescaped
  | hexadecimal
  | notScalar
  deriving DecidableEq

namespace Complaint

private def keyText (key : Key) : Text := Value.tupleLiteral (key.map .text)

private def charText (c : Char) : Text := Quoted.text [.scalar c]

def text : Complaint → Text
  | statement => "Invalid statement"
  | lineEnd => "Expected newline or end of document after a statement"
  | keyStart => "Invalid initial character for a key part"
  | equalsSign => "Expected '=' after a key in a key/value pair"
  | value => "Invalid value"
  | moment => "Invalid date or datetime"
  | tableEnd => "Expected ']' at the end of a table declaration"
  | arrayTableEnd => "Expected ']]' at the end of an array declaration"
  | unclosedArray => "Unclosed array"
  | unclosedTable => "Unclosed inline table"
  | declaredTwice key => "Cannot declare " ++ keyText key ++ " twice"
  | immutable key => "Cannot mutate immutable namespace " ++ keyText key
  | redefined key => "Cannot redefine namespace " ++ keyText key
  | overwritten => "Cannot overwrite a value"
  | duplicate part => "Duplicate inline table key " ++ Quoted.text part
  | unterminated => "Unterminated string"
  | expected delimiter => "Expected " ++ Quoted.text delimiter
  | illegal c => "Illegal character " ++ charText c
  | invalidCharacter c => "Found invalid character " ++ charText c
  | unescaped => "Unescaped '\\' in a string"
  | hexadecimal => "Invalid hex value"
  | notScalar => "Escaped character is not a Unicode scalar value"

end Complaint

inductive Fault
  /-- The input breaks the grammar where `remaining` characters of it are left. -/
  | malformed (complaint : Complaint) (remaining : Nat)
  /-- An integer has more digits than are read. -/
  | longInteger (digits : Nat)
  | tooDeep
  deriving DecidableEq

abbrev Reader (α : Type) := List Char → Except Fault (α × List Char)

/-- Fails at the start of `rest`. -/
def failAt {α : Type} (complaint : Complaint) (rest : List Char) : Except Fault α :=
  .error (.malformed complaint rest.length)

namespace Fault

private def placeText (s : List Char) (remaining : Nat) : Text :=
  if remaining = 0 then "end of document"
  else
    let before := s.take (s.length - remaining)
    "line " ++ Text.ofNat (Line.numberAfter before) ++ ", column " ++
      Text.ofNat (Line.columnAfter before)

/-- The complaint with its place in the text, for a text that breaks the grammar. -/
def message? (s : List Char) : Fault → Option Text
  | malformed complaint remaining =>
    some (complaint.text ++ " (at " ++ placeText s remaining ++ ")")
  | _ => none

end Fault

def isBlank (c : Char) : Bool := c = ' ' || c = '\t'

def skipBlanks (s : List Char) : List Char := s.dropWhile isBlank

def isBlankOrBreak (c : Char) : Bool := isBlank c || c = '\n'

/-- A control character other than a tab. -/
def isControl (c : Char) : Bool := (c.toNat < 0x20 && c != '\t') || c.toNat = 0x7F

/-- Reads up to where a delimiter starts, which may not be missing. Only then are the characters
before it looked at. -/
def readUntil (delimiter : List Char) (isWrong : Char → Bool) : Reader (List Char) := fun s =>
  match upTo s with
  | none => failAt (.expected (Text.ofChars delimiter)) []
  | some found =>
    match found.findIdx? isWrong with
    | some i => failAt (.invalidCharacter (found.getD i ' ')) (s.drop i)
    | none => .ok (found, s.drop found.length)
where
  /-- The characters before the first occurrence of the delimiter. -/
  upTo (s : List Char) : Option (List Char) :=
    if delimiter.isPrefixOf s then some []
    else
      match s with
      | [] => none
      | c :: rest => (upTo rest).map (c :: ·)

/-- Skips a comment, up to the end of its line. -/
def skipComment (s : List Char) : Except Fault (List Char) :=
  match s with
  | '#' :: rest =>
    let comment := rest.takeWhile (· ≠ '\n')
    match comment.findIdx? isControl with
    | some i => failAt (.invalidCharacter (comment.getD i ' ')) (rest.drop i)
    | none => .ok (rest.drop comment.length)
  | _ => .ok s

/-- Skips blanks, line breaks and comments. -/
def skipLines (s : List Char) : Except Fault (List Char) :=
  match _h : s.dropWhile isBlankOrBreak with
  | '#' :: rest =>
    let comment := rest.takeWhile (· ≠ '\n')
    match comment.findIdx? isControl with
    | some i => failAt (.invalidCharacter (comment.getD i ' ')) (rest.drop i)
    | none => skipLines (rest.drop comment.length)
  | rest => .ok rest
  termination_by s.length
  decreasing_by
    have h1 := (List.dropWhile_sublist isBlankOrBreak (l := s)).length_le
    rw [_h] at h1
    simp only [List.length_cons] at h1
    simp only [List.length_drop]
    omega

end SourceLedger.Toml
