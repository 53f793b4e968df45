/-!
# Text over all code points

A `Text` may hold lone surrogates, which a `String` cannot: they are written as escapes in a
document or in a string literal, and only encoding such a text fails. Texts are ordered by
code point.
-/

namespace SourceLedger

/-- A Unicode code point: a scalar value, or one of the 2048 surrogates from U+D800 up. -/
inductive CodePoint
  | scalar (c : Char)
  | surrogate (offset : Fin 2048)
  deriving DecidableEq, Inhabited, Repr

namespace CodePoint

def toNat : CodePoint → Nat
  | .scalar c => c.toNat
  | .surrogate i => 0xD800 + i.val

/-- The code point with a given number, if the number is below 0x110000. -/
def ofNat? (n : Nat) : Option CodePoint :=
  if h : 0xD800 ≤ n ∧ n < 0xE000 then some (.surrogate ⟨n - 0xD800, by omega⟩)
  else if n < 0x110000 then some (.scalar (Char.ofNat n))
  else none

/-- A lead unit and a trail unit that follow each other stand for one scalar value. -/
def joinSurrogates (lead trail : Fin 2048) : Option Char :=
  if lead.val < 0x400 ∧ 0x400 ≤ trail.val then
    some (Char.ofNat (0x10000 + lead.val * 0x400 + (trail.val - 0x400)))
  else none

def isSurrogate : CodePoint → Bool
  | .scalar _ => false
  | .surrogate _ => true

instance : Coe Char CodePoint := ⟨.scalar⟩

@[simp] theorem toNat_scalar (c : Char) : (scalar c).toNat = c.toNat := rfl

@[simp] theorem toNat_surrogate (i : Fin 2048) : (surrogate i).toNat = 0xD800 + i.val := rfl

end CodePoint

abbrev Text := List CodePoint

namespace Text

def ofChars (s : List Char) : Text := s.map .scalar

def ofString (s : String) : Text := ofChars s.toList

instance : Coe String Text := ⟨ofString⟩

/-- The scalar values of a text without surrogates. -/
def toChars? (t : Text) : Option (List Char) :=
  t.mapM fun
    | .scalar c => some c
    | .surrogate _ => none

@[simp] theorem toChars?_ofChars (s : List Char) : toChars? (ofChars s) = some s := by
  induction s with
  | nil => rfl
  | cons c s ih => simp_all [toChars?, ofChars]

/-- The text as a string, surrogates shown as U+FFFD: for output channels that take strings. -/
def toString (t : Text) : String :=
  String.ofList (t.map fun
    | .scalar c => c
    | .surrogate _ => Char.ofNat 0xFFFD)

/-- Lexicographic comparison by code point. -/
def compare : Text → Text → Ordering
  | [], [] => .eq
  | [], _ :: _ => .lt
  | _ :: _, [] => .gt
  | a :: s, b :: t =>
    match Ord.compare a.toNat b.toNat with
    | .eq => compare s t
    | o => o

def le (s t : Text) : Bool := compare s t != .gt

/-- The texts in code-point order. Equal texts keep their number. -/
def sort (ts : List Text) : List Text := ts.mergeSort le

/-- The pieces between the occurrences of `separator`; always at least one piece. -/
def splitOn (separator : CodePoint) : Text → List Text
  | [] => [[]]
  | c :: rest =>
    match splitOn separator rest with
    | [] => [[c]]
    | piece :: pieces =>
      if c = separator then [] :: piece :: pieces else (c :: piece) :: pieces

theorem splitOn_ne_nil (separator : CodePoint) (t : Text) : splitOn separator t ≠ [] := by
  induction t with
  | nil => simp [splitOn]
  | cons c rest ih =>
    unfold splitOn
    split
    · simp
    · split <;> simp

/-- The pieces in order with `separator` between them. -/
def join (separator : Text) (pieces : List Text) : Text := separator.intercalate pieces

/-- Whether every piece of the text can stand in an encoded file. -/
def isScalar (t : Text) : Bool := t.all fun c => !c.isSurrogate

/-- Puts a lead unit and the trail unit behind it together. -/
def joinPairs : Text → Text
  | .surrogate lead :: .surrogate trail :: rest =>
    match CodePoint.joinSurrogates lead trail with
    | some c => .scalar c :: joinPairs rest
    | none => .surrogate lead :: joinPairs (.surrogate trail :: rest)
  | c :: rest => c :: joinPairs rest
  | [] => []

/-- A text of `n` copies of one character. -/
def replicate (n : Nat) (c : Char) : Text := List.replicate n (.scalar c)

end Text

end SourceLedger
