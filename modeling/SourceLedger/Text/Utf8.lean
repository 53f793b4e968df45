import SourceLedger.Text.Basic

/-!
# UTF-8

`encode` and `decode` are strict: a surrogate cannot be encoded, and a byte sequence that is
not well formed cannot be decoded. A failure names the stretch that is at fault, and for a
malformed sequence the stretch is its longest prefix that could still have begun a character.
-/

namespace SourceLedger

abbrev Bytes := List UInt8

namespace Utf8

/-- The bytes of one scalar value. -/
def encodeChar (c : Char) : Bytes :=
  let n := c.toNat
  if n < 0x80 then [UInt8.ofNat n]
  else if n < 0x800 then
    [UInt8.ofNat (0xC0 + n / 0x40), UInt8.ofNat (0x80 + n % 0x40)]
  else if n < 0x10000 then
    [UInt8.ofNat (0xE0 + n / 0x1000), UInt8.ofNat (0x80 + n / 0x40 % 0x40),
      UInt8.ofNat (0x80 + n % 0x40)]
  else
    [UInt8.ofNat (0xF0 + n / 0x40000), UInt8.ofNat (0x80 + n / 0x1000 % 0x40),
      UInt8.ofNat (0x80 + n / 0x40 % 0x40), UInt8.ofNat (0x80 + n % 0x40)]

def encodeChars (s : List Char) : Bytes := s.flatMap encodeChar

/-- The number of bytes that a character takes. -/
def width (c : Char) : Nat :=
  let n := c.toNat
  if n < 0x80 then 1 else if n < 0x800 then 2 else if n < 0x10000 then 3 else 4

/-- The run of surrogates, from position `first` to `last`, that stopped an encoding. -/
structure EncodeFailure where
  first : Nat
  last : Nat
  surrogate : CodePoint
  deriving DecidableEq, Repr

def surrogateRun : Text → Nat
  | .surrogate _ :: rest => surrogateRun rest + 1
  | _ => 0

def encodeFrom (position : Nat) : Text → Except EncodeFailure Bytes
  | [] => .ok []
  | .scalar c :: rest => (encodeChar c ++ ·) <$> encodeFrom (position + 1) rest
  | c@(.surrogate _) :: rest =>
    .error { first := position, last := position + surrogateRun rest, surrogate := c }

def encode (t : Text) : Except EncodeFailure Bytes := encodeFrom 0 t

/-- Why a byte sequence is not the encoding of a text. -/
inductive DecodeReason
  | invalidStart
  | invalidContinuation
  | unexpectedEnd
  deriving DecidableEq, Repr

/-- The stretch of `count` bytes at `position`, of which `byte` is the first, at fault. -/
structure DecodeFailure where
  position : Nat
  count : Nat
  byte : UInt8
  reason : DecodeReason
  deriving DecidableEq, Repr

/-- A byte of the form `10xxxxxx`. -/
def isContinuation (b : UInt8) : Bool := 0x80 ≤ b && b < 0xC0

def scalarOf (lead : UInt8) (leadBits : Nat) (tail : Bytes) : Char :=
  Char.ofNat (tail.foldl (fun n b => n * 0x40 + b.toNat % 0x40) (lead.toNat % leadBits))

/-- Whether `second` may follow `lead`: the shortest form only, no surrogate, and nothing
above U+10FFFF. -/
def mayFollow (lead second : UInt8) : Bool :=
  isContinuation second &&
    (if lead = 0xE0 then 0xA0 ≤ second
     else if lead = 0xED then second < 0xA0
     else if lead = 0xF0 then 0x90 ≤ second
     else if lead = 0xF4 then second < 0x90
     else true)

/-- The first character and what follows it, or the length and kind of the fault. -/
def decodeFirst (lead : UInt8) (rest : Bytes) : Except (Nat × DecodeReason) (Char × Bytes) :=
  if lead < 0x80 then .ok (Char.ofNat lead.toNat, rest)
  else if lead < 0xC2 then .error (1, .invalidStart)
  else if lead < 0xE0 then
    match rest with
    | [] => .error (1, .unexpectedEnd)
    | b :: rest =>
      if isContinuation b then .ok (scalarOf lead 0x20 [b], rest)
      else .error (1, .invalidContinuation)
  else if lead < 0xF0 then
    match rest with
    | [] => .error (1, .unexpectedEnd)
    | b :: rest =>
      if !mayFollow lead b then .error (1, .invalidContinuation)
      else match rest with
        | [] => .error (2, .unexpectedEnd)
        | c :: rest =>
          if isContinuation c then .ok (scalarOf lead 0x10 [b, c], rest)
          else .error (2, .invalidContinuation)
  else if lead < 0xF5 then
    match rest with
    | [] => .error (1, .unexpectedEnd)
    | b :: rest =>
      if !mayFollow lead b then .error (1, .invalidContinuation)
      else match rest with
        | [] => .error (2, .unexpectedEnd)
        | c :: rest =>
          if !isContinuation c then .error (2, .invalidContinuation)
          else match rest with
            | [] => .error (3, .unexpectedEnd)
            | d :: rest =>
              if isContinuation d then .ok (scalarOf lead 0x08 [b, c, d], rest)
              else .error (3, .invalidContinuation)
  else .error (1, .invalidStart)

theorem decodeFirst_length {lead : UInt8} {rest : Bytes} {c : Char} {after : Bytes}
    (h : decodeFirst lead rest = .ok (c, after)) : after.length ≤ rest.length := by
  unfold decodeFirst at h
  repeat' split at h
  all_goals first
    | (cases h; done)
    | (cases h; exact Nat.le_refl _)
    | (cases h; simp only [List.length_cons]; omega)

def decodeFrom (position : Nat) : Bytes → Except DecodeFailure (List Char)
  | [] => .ok []
  | lead :: rest =>
    match h : decodeFirst lead rest with
    | .error (count, reason) => .error { position, count, byte := lead, reason }
    | .ok (c, after) =>
      (c :: ·) <$> decodeFrom (position + (rest.length - after.length) + 1) after
  termination_by bytes => bytes.length
  decreasing_by
    have := decodeFirst_length h
    simp
    omega

def decode (bytes : Bytes) : Except DecodeFailure (List Char) := decodeFrom 0 bytes

end Utf8

end SourceLedger
