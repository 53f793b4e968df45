import SourceLedger.Text.Quoted

/-!
# Messages about encoding

What is said of a text that cannot be encoded, and of bytes that cannot be decoded.
-/

namespace SourceLedger.Utf8

/-- A code point as an escape by number. -/
private def escapeOf (c : CodePoint) : Text := (Quoted.text [c]).drop 1 |>.dropLast

/-- Why a text cannot be encoded, as part of a message. -/
def EncodeFailure.message (f : EncodeFailure) : Text :=
  "'utf-8' codec can't encode " ++
    (if f.first = f.last then
      "character '" ++ escapeOf f.surrogate ++ "' in position " ++ Text.ofNat f.first
    else
      "characters in position " ++ Text.ofNat f.first ++ "-" ++ Text.ofNat f.last) ++
    ": surrogates not allowed"

def DecodeReason.text : DecodeReason → Text
  | invalidStart => "invalid start byte"
  | invalidContinuation => "invalid continuation byte"
  | unexpectedEnd => "unexpected end of data"

/-- Why bytes cannot be decoded, as part of a message. -/
def DecodeFailure.message (f : DecodeFailure) : Text :=
  "'utf-8' codec can't decode " ++
    (if f.count = 1 then
      "byte 0x" ++ Text.ofChars (Numeral.hex 2 f.byte.toNat) ++ " in position " ++
        Text.ofNat f.position
    else
      "bytes in position " ++ Text.ofNat f.position ++ "-" ++
        Text.ofNat (f.position + f.count - 1)) ++
    ": " ++ f.reason.text

end SourceLedger.Utf8
