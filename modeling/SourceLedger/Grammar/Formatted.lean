import SourceLedger.Grammar.Literal
import SourceLedger.Grammar.Rules

/-!
# Formatted literals

A formatted literal is text with replacement fields in braces. The expression of a field is
read on its own, between the brace and a parenthesis supplied at its end; its positions are
those of the source. All parts of a literal that is written in several pieces span all of the
pieces, except that the last text of a format specification spans the piece it stands in.
-/

namespace SourceLedger.Grammar.Formatted

open Syntax (Expr Position Span)
open Literal (StringParts)

/-- A part of a literal before adjacent texts are joined. -/
inductive Piece
  | text (t : Text)
  | field (e : Expr)

/-- How text is labelled: its span, and whether the literal is marked with a `u`. -/
structure Label where
  span : Span
  marked : Bool

/-- The parts as expressions. Text in front of a field has the label `inner`, text at the end
the label `final`. -/
def assemble (inner final : Label) (pending : Text) : List Piece → List Expr
  | [] => if pending.isEmpty then [] else [.constant final.span (.text pending) final.marked]
  | .text t :: rest => assemble inner final (pending ++ t) rest
  | .field e :: rest =>
    (if pending.isEmpty then [] else [.constant inner.span (.text pending) inner.marked]) ++
      e :: assemble inner final [] rest

/-- A stretch of literal text, what follows it, and whether it ended in a doubled brace. -/
structure LiteralRun where
  chars : List Char
  rest : List Char
  isDoubled : Bool

/-- Adds characters in front. -/
private def LiteralRun.prepend (cs : List Char) (r : LiteralRun) : LiteralRun :=
  { r with chars := cs ++ r.chars }

/-- Reads literal text up to a brace. A doubled brace stands for one brace, but not in a format
specification. The name in an escape by name is skipped with its braces. -/
def literalRun? (isRaw isSpec : Bool) (inName : Bool) : List Char → Option LiteralRun
  | [] => some ⟨[], [], false⟩
  | c :: rest =>
    if inName then
      (literalRun? isRaw isSpec (c ≠ '}') rest).map (·.prepend [c])
    else if c = '\\' ∧ !isRaw then
      match rest with
      | 'N' :: '{' :: rest =>
        (literalRun? isRaw isSpec true rest).map (·.prepend ['\\', 'N', '{'])
      | d :: rest =>
        if d = '{' ∨ d = '}' then
          (literalRun? isRaw isSpec false (d :: rest)).map (·.prepend ['\\'])
        else (literalRun? isRaw isSpec false rest).map (·.prepend ['\\', d])
      | [] => some ⟨['\\'], [], false⟩
    else if c = '{' ∨ c = '}' then
      if isSpec then some ⟨[], c :: rest, false⟩
      else
        match rest with
        | d :: rest =>
          if d = c then some ⟨[c], rest, true⟩
          else if c = '}' then none
          else some ⟨[], c :: d :: rest, false⟩
        | [] => if c = '}' then none else some ⟨[], [c], false⟩
    else (literalRun? isRaw isSpec false rest).map (·.prepend [c])

/-- The place within the expression of a field: open brackets, innermost first, and the quote
of a string with whether it is tripled. -/
structure FieldState where
  brackets : List Char
  quote : Option (Char × Bool)

private def closes (opening closing : Char) : Bool :=
  (opening = '(' && closing = ')') || (opening = '[' && closing = ']') ||
    (opening = '{' && closing = '}')

/-- Whether two characters are an operator that does not end the expression. -/
private def isComparison (c d : Char) : Bool :=
  d = '=' && (c = '!' || c = '=' || c = '<' || c = '>')

/-- The expression of a field and what follows, from `!`, `:`, `=` or the closing brace on.
Backslashes and comments are not allowed in it. -/
def fieldText? (st : FieldState) : List Char → Option (List Char × List Char)
  | [] => none
  | c :: rest =>
    let continueWith (st : FieldState) : Option (List Char × List Char) :=
      (fieldText? st rest).map fun (text, after) => (c :: text, after)
    if c = '\\' then none
    else
      match st.quote with
      | some (q, false) => continueWith { st with quote := if c = q then none else st.quote }
      | some (q, true) =>
        if c = q then
          match rest with
          | d :: e :: after =>
            if d = c ∧ e = c then
              (fieldText? { st with quote := none } after).map fun (text, after) =>
                (c :: d :: e :: text, after)
            else continueWith st
          | _ => continueWith st
        else continueWith st
      | none =>
        if c = '\'' ∨ c = '"' then
          match rest with
          | d :: e :: after =>
            if d = c ∧ e = c then
              (fieldText? { st with quote := some (c, true) } after).map fun (text, after) =>
                (c :: d :: e :: text, after)
            else continueWith { st with quote := some (c, false) }
          | _ => continueWith { st with quote := some (c, false) }
        else if c = '(' ∨ c = '[' ∨ c = '{' then
          if Token.Reader.maxBrackets ≤ st.brackets.length then none
          else continueWith { st with brackets := c :: st.brackets }
        else if c = '#' then none
        else if st.brackets.isEmpty ∧ (c = '!' ∨ c = ':' ∨ c = '}' ∨ c = '=' ∨ c = '<' ∨ c = '>')
        then
          match rest with
          | d :: after =>
            if isComparison c d then
              (fieldText? st after).map fun (text, after) => (c :: d :: text, after)
            else if c = '<' ∨ c = '>' then continueWith st
            else some ([], c :: rest)
          | [] => if c = '<' ∨ c = '>' then none else some ([], [c])
        else if c = ')' ∨ c = ']' ∨ c = '}' then
          match st.brackets with
          | opening :: outer =>
            if closes opening c then continueWith { st with brackets := outer } else none
          | [] => none
        else continueWith st

/-- The piece of source that is being read. -/
structure Source where
  start : Position
  spelling : List Char
  isRaw : Bool
  /-- The label of text in front of a field, and the span of every field. -/
  inner : Label
  /-- The label of the last text of a format specification. -/
  own : Label

namespace Source

/-- Blanks that may surround the expression of a field. -/
private def isFieldBlank (c : Char) : Bool := c = ' ' || c = '\t' || c = '\n' || c = '\x0c'

/-- Where the brace stands that has `rest` behind it, up to the end of the literal's body.
When a line ends right behind the brace, the brace counts as the start of its line. -/
private def bracePosition (p : Source) (bodyEnd : Nat) (rest : List Char) : Position :=
  let before := p.spelling.take (bodyEnd - rest.length - 1)
  let place := p.start.afterAll before
  match rest.dropWhile fun c => c = ' ' || c = '\t' || c = '\x0c' with
  | '\n' :: _ =>
    ⟨place.line, if place.line = p.start.line then p.start.column else 0⟩
  | _ => place

/-- Tokens that begin on the first line and end on a later one keep the column that they have
in the text of the field alone. -/
private def unshift (origin : Position) (t : Token) : Token :=
  if t.span.start.line = origin.line ∧ t.span.stop.line ≠ origin.line then
    { t with span := { t.span with
        start := ⟨origin.line, t.span.start.column - origin.column⟩ } }
  else t

/-- Reads the expression of a field. -/
private def expression (r : Rules) (origin : Position) (text : List Char) : Rule Expr := do
  if text.all isFieldBlank then mismatch
  let s ← get
  match Token.read? s.dialect origin ('(' :: text ++ [')']) with
  | none => mismatch
  | some (tokens, _) =>
    let inner : State := { s with
      tokens := tokens.map (unshift origin), limit := tokens.length, reached := origin }
    match r.expressions inner with
    | .ok (e, _) => return e
    | .error f => throw f

/-- The conversion after an exclamation mark, and the rest. -/
private def conversion? : List Char → Option (Int × List Char)
  | c :: rest => if c = 's' ∨ c = 'r' ∨ c = 'a' then some (c.toNat, rest) else none
  | [] => none

private def isAsciiSpace (c : Char) : Bool := isFieldBlank c || c = '\r' || c = '\x0b'

mutual

/-- The pieces of a body, or of a format specification up to its closing brace. Fields may be
nested once. Every round takes a character. -/
def pieces (r : Rules) (p : Source) (bodyEnd depth : Nat) :
    Nat → List Char → Rule (List Piece × List Char)
  | 0, _ => mismatch
  | fuel + 1, s =>
    match literalRun? p.isRaw (depth ≠ 0) false s with
    | none => mismatch
    | some run =>
      match Literal.text? p.isRaw run.chars with
      | none => mismatch
      | some text =>
        let here : List Piece := if text.isEmpty then [] else [.text text]
        if run.isDoubled then do
          let (later, rest) ← pieces r p bodyEnd depth fuel run.rest
          return (here ++ later, rest)
        else
          match run.rest with
          | '{' :: rest => do
            let (found, rest) ← field r p bodyEnd depth fuel rest
            let (later, rest) ← pieces r p bodyEnd depth fuel rest
            return (here ++ found ++ later, rest)
          | rest =>
            if depth = 0 ∧ rest ≠ [] then mismatch else return (here, rest)

/-- A field behind its opening brace. With `=` its text comes first. -/
def field (r : Rules) (p : Source) (bodyEnd depth : Nat) :
    Nat → List Char → Rule (List Piece × List Char)
  | 0, _ => mismatch
  | fuel + 1, s => do
    if 2 ≤ depth then mismatch
    match fieldText? ⟨[], none⟩ s with
    | none => mismatch
    | some (text, rest) =>
      let value ← expression r (bracePosition p bodyEnd s) text
      let (shown, rest) ← (do
        match rest with
        | '=' :: after =>
          since 8
          let blanks := after.takeWhile isAsciiSpace
          let rest := after.drop blanks.length
          if rest.isEmpty then mismatch
          return (some (text ++ '=' :: blanks), rest)
        | _ => return (none, rest) : Rule (Option (List Char) × List Char))
      let (conversion, rest) ← (do
        match rest with
        | '!' :: after =>
          match conversion? after with
          | some (c, rest) => return (some c, rest)
          | none => mismatch
        | _ => return (none, rest) : Rule (Option Int × List Char))
      let (spec, rest) ← (do
        match rest with
        | ':' :: after =>
          if after.isEmpty then mismatch
          let (found, rest) ← pieces r p bodyEnd (depth + 1) fuel after
          return (some (.joined p.own.span (assemble p.inner p.own [] found)), rest)
        | _ => return (none, rest) : Rule (Option Expr × List Char))
      match rest with
      | '}' :: rest =>
        let conversion := conversion.getD (if shown.isSome && spec.isNone then 114 else -1)
        let e := Piece.field (.formatted p.inner.span value conversion spec)
        return ((shown.map fun t => Piece.text (Text.ofChars t)).toList ++ [e], rest)
      | _ => mismatch

end

end Source

/-- The pieces of one formatted string lexeme. -/
private def lexemePieces (r : Rules) (inner : Label) (t : Token) (spelling : List Char)
    (parts : StringParts) : Rule (List Piece) := do
  since 6
  let source : Source :=
    { start := t.span.start
      spelling
      isRaw := parts.isRaw
      inner
      own := ⟨t.span, false⟩ }
  let bodyEnd := parts.offset + parts.body.length
  let (found, _) ← source.pieces r bodyEnd 0 (2 * spelling.length + 2) parts.body
  return found

/-- The string lexemes that follow one another. -/
private def stringTokens : Rule (List (Token × List Char)) :=
  many (do return match ← peek with | .string _ => true | _ => false) (do
    let t ← take
    match t.lexeme with
    | .string spelling => return (t, spelling)
    | _ => mismatch)

private def bytesOf : List (List Char) → Option Bytes
  | [] => some []
  | spelling :: rest => do
    let parts := StringParts.ofSpelling spelling
    if !parts.isBytes then none
    let first ← Literal.bytes? parts.isRaw parts.body
    let later ← bytesOf rest
    return first ++ later

/-- The constant or the formatted literal that adjacent strings make together. -/
def strings (r : Rules) : Rule Expr := do
  let tokens ← stringTokens
  match tokens.head?, tokens.getLast? with
  | some (first, firstSpelling), some (last, _) =>
    let label : Label := ⟨⟨first.span.start, last.span.stop⟩, firstSpelling.head? = some 'u'⟩
    let parts := tokens.map fun (t, s) => (t, s, StringParts.ofSpelling s)
    if parts.any fun (_, _, p) => p.isBytes then
      match bytesOf (tokens.map Prod.snd) with
      | some bs => return .constant label.span (.bytes bs) false
      | none => mismatch
    else
      let found ← parts.mapM fun (t, s, p) =>
        if p.isFormatted then lexemePieces r label t s p
        else
          match Literal.text? p.isRaw p.body with
          | some text => return [Piece.text text]
          | none => mismatch
      let found := found.flatten
      if parts.any fun (_, _, p) => p.isFormatted then
        return .joined label.span (assemble label label [] found)
      else
        let text := found.flatMap fun
          | .text t => t
          | .field _ => []
        return .constant label.span (.text text) label.marked
  | _, _ => mismatch

end SourceLedger.Grammar.Formatted
