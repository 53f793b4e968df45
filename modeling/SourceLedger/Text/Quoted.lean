import SourceLedger.Text.Digits
import SourceLedger.Text.Printable
import SourceLedger.Text.Utf8

/-!
# Quoted literals

A quoted text shows every character unambiguously: the quote is an apostrophe unless the text
holds apostrophes and no double quote, and what cannot be printed is escaped by number.
-/

namespace SourceLedger

namespace Quoted

private def apostrophe : CodePoint := .scalar '\''

private def doubleQuote : CodePoint := .scalar '"'

/-- The quote that needs the fewest escapes, an apostrophe when in doubt. -/
private def quoteFor (hasApostrophe hasDoubleQuote : Bool) : Char :=
  if hasApostrophe && !hasDoubleQuote then '"' else '\''

private def escape (quote : Char) (c : CodePoint) : Text :=
  let n := c.toNat
  if c = .scalar quote ∨ c = .scalar '\\' then [.scalar '\\', c]
  else if n = 9 then "\\t"
  else if n = 10 then "\\n"
  else if n = 13 then "\\r"
  else if c.isPrintable then [c]
  else if n < 0x100 then "\\x" ++ Text.ofChars (Numeral.hex 2 n)
  else if n < 0x10000 then "\\u" ++ Text.ofChars (Numeral.hex 4 n)
  else "\\U" ++ Text.ofChars (Numeral.hex 8 n)

/-- The literal for a text, quotes included. -/
def text (t : Text) : Text :=
  let quote := quoteFor (t.contains apostrophe) (t.contains doubleQuote)
  .scalar quote :: t.flatMap (escape quote) ++ [.scalar quote]

private def escapeByte (quote : Char) (b : UInt8) : List Char :=
  let n := b.toNat
  let c := Char.ofNat n
  if c = quote ∨ c = '\\' then ['\\', c]
  else if n = 9 then ['\\', 't']
  else if n = 10 then ['\\', 'n']
  else if n = 13 then ['\\', 'r']
  else if 0x20 ≤ n ∧ n < 0x7F then [c]
  else '\\' :: 'x' :: Numeral.hex 2 n

/-- The literal for a byte sequence: a `b`, then ASCII characters between quotes. -/
def bytes (bs : Bytes) : Text :=
  let quote := quoteFor (bs.contains 39) (bs.contains 34)
  Text.ofChars ('b' :: quote :: bs.flatMap (escapeByte quote) ++ [quote])

end Quoted

end SourceLedger
