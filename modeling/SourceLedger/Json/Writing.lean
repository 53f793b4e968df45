import SourceLedger.Text.Digits
import SourceLedger.Text.Utf8
import SourceLedger.Value.Basic

/-!
# Writing JSON

A value is written piece by piece, with each level indented by two blanks and each item on a
line of its own. Texts keep every character but quotes, backslashes and control characters.
Writing stops at the first piece that has no form, and what was written before it stands.
-/

namespace SourceLedger.Json

/-- Why a piece cannot be written. -/
inductive WriteFault
  | noForm (kind : Text)
  | longInteger
  | unencodable (f : Utf8.EncodeFailure)
  | tooDeep
  deriving DecidableEq

abbrev Piece := Except WriteFault Text

namespace Write

def escape (c : CodePoint) : Text :=
  let n := c.toNat
  if n = 34 then "\\\""
  else if n = 92 then "\\\\"
  else if n = 8 then "\\b"
  else if n = 12 then "\\f"
  else if n = 10 then "\\n"
  else if n = 13 then "\\r"
  else if n = 9 then "\\t"
  else if n < 0x20 then "\\u" ++ Text.ofChars (Numeral.hex 4 n)
  else [c]

def quoted (t : Text) : Text := .scalar '"' :: t.flatMap escape ++ [.scalar '"']

/-- A line break and the indentation of a level. -/
def lineBreak (level : Nat) : Text := .scalar '\n' :: Text.replicate (2 * level) ' '

-- Powers are those of the core library, whatever else is imported.
attribute [local instance (high)] instPowNat

/-- The least magnitude that has too many digits to be written. -/
def integerLimit : Nat := 10 ^ (4300 : Nat)

def integer (n : Int) : Piece :=
  if integerLimit ≤ n.natAbs then .error .longInteger else .ok (Text.ofInt n)

def real : Binary64 → Text
  | .nan => "NaN"
  | .infinite negative => if negative then "-Infinity" else "Infinity"
  | x => x.toText

/-- The greatest number of containers inside one another that is written. -/
def maxDepth : Nat := 980

/-- A piece of a container at a level, unless it lies too deep. -/
def within (level : Nat) (p : Piece) : Piece := if level < maxDepth then p else .error .tooDeep

/-- The only piece of a value without items. -/
def atom (level : Nat) : Value → Piece
  | .null => .ok "null"
  | .bool b => .ok (if b then "true" else "false")
  | .int n => integer n
  | .real x => .ok (real x)
  | .text t => .ok (quoted t)
  | .moment m => .error (.noForm m.kindName)
  | .list _ => within level (.ok "[]")
  | .table _ => within level (.ok "\x7b\x7d")

mutual

/-- The pieces of a value that follows `lead`. The lead is part of the piece of an atom, and a
piece of its own before a container. -/
def pieces (level : Nat) (lead : Text) : Value → List Piece
  | .list (x :: xs) =>
    within level (.ok lead) ::
      listPieces (level + 1) ("[" ++ lineBreak (level + 1)) (x :: xs) ++
        [.ok (lineBreak level), .ok "]"]
  | .table (e :: es) =>
    within level (.ok lead) :: .ok "\x7b" :: .ok (lineBreak (level + 1)) ::
      tablePieces (level + 1) (e :: es) ++ [.ok (lineBreak level), .ok "\x7d"]
  | x => [(lead ++ ·) <$> atom level x]

/-- The pieces of the items of a list, the first of which follows `lead`. -/
def listPieces (level : Nat) (lead : Text) : List Value → List Piece
  | [] => []
  | x :: xs => pieces level lead x ++ listPieces level ("," ++ lineBreak level) xs

/-- The pieces of the entries of a table. What stands before a key or value is a piece of
its own. -/
def tablePieces (level : Nat) : List (Text × Value) → List Piece
  | [] => []
  | [(key, x)] => .ok (quoted key) :: .ok ": " :: pieces level [] x
  | (key, x) :: e :: es =>
    .ok (quoted key) :: .ok ": " :: pieces level [] x ++
      .ok ("," ++ lineBreak level) :: tablePieces level (e :: es)

end

/-- The bytes of a piece. -/
def pieceBytes (p : Piece) : Except WriteFault Bytes := do
  match Utf8.encode (← p) with
  | .ok bytes => .ok bytes
  | .error f => .error (.unencodable f)

end Write

/-- What a writing leaves behind: the bytes written, and why it stopped before the end. -/
structure Written where
  bytes : Bytes
  fault : Option WriteFault

namespace Written

/-- Writes pieces one after another until one fails. -/
def ofPieces : List Piece → Written
  | [] => ⟨[], none⟩
  | p :: ps =>
    match Write.pieceBytes p with
    | .error f => ⟨[], some f⟩
    | .ok bytes =>
      let w := ofPieces ps
      ⟨bytes ++ w.bytes, w.fault⟩

end Written

def write (v : Value) : Written := .ofPieces (Write.pieces 0 [] v)

/-- The whole text of a value, if all of it can be written. -/
def text? (v : Value) : Option Bytes :=
  match (write v).fault with
  | none => some (write v).bytes
  | some _ => none

end SourceLedger.Json
