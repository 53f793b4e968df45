import SourceLedger.Token.Basic
import SourceLedger.Token.Number

/-!
# Reading tokens

A source is cut into tokens from left to right. Lines outside brackets end in a newline token,
and their indentation is turned into indent and dedent tokens; a line that is blank but for a
comment counts for neither. Indentation is measured twice, with tabs eight columns and one
column wide, and both measures have to agree.

Before version 3.7 `async` and `await` are ordinary names, except in front of `def` and inside
a function so defined.
-/

namespace SourceLedger.Token

open Syntax (Position Span TypeIgnore)

/-- What the reading of tokens depends on. -/
structure Dialect where
  /-- Whether comments that give types are tokens. -/
  typeComments : Bool
  /-- Whether `async` and `await` are reserved only where they have to be. -/
  softAsync : Bool

/-- An `async def` that is being read: its indentation depth, and whether its first line is
complete. -/
structure AsyncDef where
  depth : Nat
  headRead : Bool

structure Reader where
  cursor : Cursor
  atLineStart : Bool
  /-- Open indentations, innermost first, by both measures of a tab. -/
  indents : List (Nat × Nat)
  /-- Open brackets, innermost first. -/
  brackets : List Symbol
  asyncDef : Option AsyncDef

namespace Reader

def start (source : List Char) (position : Position) : Reader where
  cursor := ⟨source, position⟩
  atLineStart := true
  indents := []
  brackets := []
  asyncDef := none

/-- At most this many indentations and brackets can be open. -/
def maxIndents : Nat := 99

def maxBrackets : Nat := 200

/-- The white space at the start of a line: both measures, the measure at the first line
continuation, and the number of characters. -/
private structure Margin where
  column : Nat
  alternative : Nat
  continued : Nat
  length : Nat

private def marginOf (m : Margin) : List Char → Option Margin
  | ' ' :: rest => marginOf ⟨m.column + 1, m.alternative + 1, m.continued, m.length + 1⟩ rest
  | '\t' :: rest =>
    marginOf ⟨(m.column / 8 + 1) * 8, m.alternative + 1, m.continued, m.length + 1⟩ rest
  | '\x0c' :: rest => marginOf ⟨0, 0, m.continued, m.length + 1⟩ rest
  | '\\' :: '\n' :: c :: rest =>
    marginOf
      ⟨m.column, m.alternative, if m.continued = 0 then m.column else m.continued,
        m.length + 2⟩ (c :: rest)
  | '\\' :: _ => none
  | _ => some m

/-- The layout tokens that a margin calls for, and the indentations open after it. -/
private def align (column alternative : Nat) (indents : List (Nat × Nat)) :
    Option (List Lexeme × List (Nat × Nat)) :=
  let (current, currentAlternative) := indents.head?.getD (0, 0)
  if column = current then
    if alternative = currentAlternative then some ([], indents) else none
  else if current < column then
    if alternative ≤ currentAlternative ∨ maxIndents ≤ indents.length then none
    else some ([.indent], (column, alternative) :: indents)
  else
    let kept := indents.dropWhile fun i => column < i.1
    if kept.head?.getD (0, 0) = (column, alternative) then
      some (List.replicate (indents.length - kept.length) .dedent, kept)
    else none

private structure LineStart where
  layout : List Lexeme
  isBlank : Bool
  reader : Reader

private def beginLine (r : Reader) : Option LineStart := do
  let margin ← marginOf ⟨0, 0, 0, 0⟩ r.cursor.rest
  let cursor := r.cursor.drop margin.length
  let r := { r with cursor, atLineStart := false }
  let isBlank :=
    match cursor.rest with
    | '#' :: _ | '\n' :: _ => true
    | _ => false
  if isBlank || !r.brackets.isEmpty then some ⟨[], isBlank, r⟩
  else
    let column := if margin.continued = 0 then margin.column else margin.continued
    let alternative := if margin.continued = 0 then margin.alternative else margin.continued
    let (layout, indents) ← align column alternative r.indents
    some ⟨layout, false, { r with indents }⟩

/-- The body of an `async def` ends where a line outside brackets starts no deeper than it. -/
private def leaveAsync (isBlank : Bool) (r : Reader) : Reader :=
  match r.asyncDef with
  | some d =>
    if !isBlank && r.cursor.rest.head? != some '\n' && r.brackets.isEmpty && d.headRead &&
        r.indents.length ≤ d.depth then
      { r with asyncDef := none }
    else r
  | none => r

/-- The text of a comment that gives a type, and where it starts in the comment. A blank in
the mark stands for any number of blanks. -/
private def typeCommentStart (s : List Char) : Option Nat :=
  let blanks (s : List Char) : Nat := (s.takeWhile fun c => c = ' ' || c = '\t').length
  match s with
  | '#' :: rest =>
    let before := blanks rest
    let rest := rest.drop before
    if ['t', 'y', 'p', 'e', ':'].isPrefixOf rest then
      some (1 + before + 5 + blanks (rest.drop 5))
    else none
  | _ => none

/-- What follows `ignore` in a type comment that silences its line. -/
private def ignoreTag? (text : List Char) : Option (List Char) :=
  if ['i', 'g', 'n', 'o', 'r', 'e'].isPrefixOf text then
    match text.drop 6 with
    | [] => some []
    | c :: rest => if 0x80 ≤ c.toNat || c.isAlphanum then none else some (c :: rest)
  else none

private def isQuote (c : Char) : Bool := c = '"' || c = '\''

/-- The number of characters up to and including the closing quote. -/
private def closing? (quote : Char) : List Char → Option Nat
  | [] => none
  | '\\' :: _ :: rest => (closing? quote rest).map (· + 2)
  | c :: rest =>
    if c = quote then some 1
    else if c = '\n' ∨ c = '\\' then none
    else (closing? quote rest).map (· + 1)

/-- The number of characters up to and including three closing quotes. -/
private def tripleClosing? (quote : Char) : List Char → Option Nat
  | [] => none
  | '\\' :: _ :: rest => (tripleClosing? quote rest).map (· + 2)
  | c :: rest =>
    if c = quote ∧ [quote, quote].isPrefixOf rest then some 3
    else (tripleClosing? quote rest).map (· + 1)

/-- The length of a string from its opening quote on. -/
private def stringLength? (s : List Char) : Option Nat :=
  match s with
  | a :: b :: rest =>
    if b = a then
      (match rest with
        | c :: rest => if c = a then (tripleClosing? a rest).map (· + 3) else some 2
        | [] => some 2)
    else (closing? a (b :: rest)).map (· + 1)
  | _ => none

/-- The prefixes that a string may have, in lower case. -/
private def stringPrefixes : List (List Char) :=
  [['r'], ['u'], ['b'], ['f'], ['b', 'r'], ['r', 'b'], ['f', 'r'], ['r', 'f']]

/-- The length of the prefix of a string that starts here. -/
private def stringPrefix? (s : List Char) : Option Nat :=
  let letters := s.takeWhile fun c => c.isAlpha
  if letters.isEmpty then
    (if s.head?.any isQuote then some 0 else none)
  else if stringPrefixes.contains (letters.map Char.toLower) &&
      (s.drop letters.length).head?.any isQuote then
    some letters.length
  else none

/-- Whether the next token on the line is `def`. -/
private def defFollows : List Char → Bool
  | ' ' :: rest | '\t' :: rest | '\x0c' :: rest => defFollows rest
  | '\\' :: '\n' :: rest => defFollows rest
  | s => ['d', 'e', 'f'].isPrefixOf s && !(s.drop 3).head?.any Number.isWordChar

private def wordLexeme (dialect : Dialect) (r : Reader) (word after : List Char) :
    Lexeme × Option AsyncDef :=
  if !dialect.softAsync || r.asyncDef.isSome then
    if word = Keyword.asyncKw.spelling then (.keyword .asyncKw, r.asyncDef)
    else if word = Keyword.awaitKw.spelling then (.keyword .awaitKw, r.asyncDef)
    else (lexemeOf word, r.asyncDef)
  else if word = Keyword.asyncKw.spelling ∧ defFollows after then
    (.keyword .asyncKw, some ⟨r.indents.length, false⟩)
  else (lexemeOf word, r.asyncDef)
where
  lexemeOf (word : List Char) : Lexeme :=
    match Keyword.ofChars? word with
    | some k => .keyword k
    | none => .name word

/-- The bracket that a closing bracket belongs to. -/
private def opening? : Symbol → Option Symbol
  | .rightParen => some .leftParen
  | .rightBracket => some .leftBracket
  | .rightBrace => some .leftBrace
  | _ => none

private def trackBracket (brackets : List Symbol) (s : Symbol) : Option (List Symbol) :=
  match s with
  | .leftParen | .leftBracket | .leftBrace =>
    if brackets.length < maxBrackets then some (s :: brackets) else none
  | _ =>
    match opening? s with
    | none => some brackets
    | some o =>
      match brackets with
      | b :: outer => if b = o then some outer else none
      | [] => none

/-- What is read in one step: a token, a silencing comment, nothing, or the end. -/
private inductive Step
  | token (t : Token) (next : Reader)
  | silence (t : TypeIgnore) (next : Reader)
  | skip (next : Reader)
  | finish

private def emit (r : Reader) (lexeme : Lexeme) (length : Nat) : Token × Reader :=
  let cursor := r.cursor.drop length
  (⟨lexeme, ⟨r.cursor.position, cursor.position⟩⟩, { r with cursor })

private def readComment (dialect : Dialect) (isBlank : Bool) (r : Reader) : Step :=
  let comment := r.cursor.rest.takeWhile (· ≠ '\n')
  let after := { r with cursor := r.cursor.drop comment.length }
  match (if dialect.typeComments then typeCommentStart comment else none) with
  | none => .skip after
  | some start =>
    let text := comment.drop start
    match ignoreTag? text with
    | some tag =>
      let ignore : TypeIgnore := ⟨r.cursor.position.line, Text.ofChars tag⟩
      if isBlank then
        .silence ignore { after with cursor := after.cursor.drop 1, atLineStart := true }
      else .silence ignore after
    | none =>
      let from' := { r with cursor := r.cursor.drop start }
      let (t, next) := emit from' (.typeComment text) text.length
      .token t next

private theorem readComment_ne_silence {dialect : Dialect} (h : dialect.typeComments = false)
    (isBlank : Bool) (r : Reader) (t : TypeIgnore) (next : Reader) :
    readComment dialect isBlank r ≠ .silence t next := by
  simp [readComment, h]

private def readNewline (isBlank : Bool) (r : Reader) : Step :=
  let next := { r with cursor := r.cursor.drop 1, atLineStart := true }
  if isBlank || !r.brackets.isEmpty then .skip next
  else
    .token ⟨.newline, ⟨r.cursor.position, r.cursor.position⟩⟩
      { next with asyncDef := r.asyncDef.map fun d => { d with headRead := true } }

private def readWord (dialect : Dialect) (r : Reader) : Option Step :=
  match stringPrefix? r.cursor.rest with
  | some prefixLength => do
    let body ← stringLength? (r.cursor.rest.drop prefixLength)
    let length := prefixLength + body
    let (t, next) := emit r (.string (r.cursor.rest.take length)) length
    some (.token t next)
  | none => do
    let word := r.cursor.rest.takeWhile Number.isWordChar
    if word.all (·.toNat < 0x80) || Identifier.isIdentifier word then
      let (lexeme, asyncDef) :=
        wordLexeme dialect r word (r.cursor.rest.drop word.length)
      let (t, next) := emit r lexeme word.length
      some (.token t { next with asyncDef })
    else none

private def readNumber (r : Reader) : Option Step := do
  let length ← Number.length? r.cursor.rest
  let (t, next) := emit r (.number (r.cursor.rest.take length)) length
  some (.token t next)

private def readSymbol (r : Reader) : Option Step := do
  let s ← Symbol.atStart? r.cursor.rest
  if s = .less ∧ ['<', '>'].isPrefixOf r.cursor.rest then none
  let brackets ← trackBracket r.brackets s
  let (t, next) := emit r (.symbol s) s.spelling.length
  some (.token t { next with brackets })

/-- Reads one token, or the comment or line end that stands in its place. -/
private def step (dialect : Dialect) (isBlank : Bool) (r : Reader) : Option Step :=
  match r.cursor.rest with
  | [] => if r.brackets.isEmpty then some .finish else none
  | c :: rest =>
    if c = '#' then some (readComment dialect isBlank r)
    else if c = '\n' then some (readNewline isBlank r)
    else if c = '\\' then
      match rest with
      | '\n' :: _ :: _ => some (.skip { r with cursor := r.cursor.drop 2 })
      | _ => none
    else if Numeral.isDigit 10 c || (c = '.' && rest.head?.any (Numeral.isDigit 10)) then
      readNumber r
    else if Number.isWordChar c || isQuote c then readWord dialect r
    else readSymbol r

/-- Only comments silence, and only where they can give types. -/
private theorem step_ne_silence {dialect : Dialect} (h : dialect.typeComments = false)
    (isBlank : Bool) (r : Reader) (t : TypeIgnore) (next : Reader) :
    step dialect isBlank r ≠ some (.silence t next) := by
  intro hstep
  unfold step at hstep
  split at hstep
  · split at hstep <;> cases hstep
  · split at hstep
    · exact readComment_ne_silence h isBlank r t next (Option.some.inj hstep)
    split at hstep
    · unfold readNewline at hstep
      dsimp only at hstep
      split at hstep <;> cases hstep
    split at hstep
    · split at hstep <;> cases hstep
    split at hstep
    · simp [readNumber, Option.bind_eq_some_iff] at hstep
    split at hstep
    · unfold readWord at hstep
      split at hstep
      · simp [Option.bind_eq_some_iff] at hstep
      · dsimp only at hstep
        split at hstep <;> cases hstep
    · obtain ⟨s, -, hstep⟩ := Option.bind_eq_some_iff.mp hstep
      dsimp only at hstep
      split at hstep
      · cases hstep
      · simp [Option.bind_eq_some_iff] at hstep

private def skipBlanks (r : Reader) : Reader :=
  let blanks := r.cursor.rest.takeWhile fun c => c = ' ' || c = '\t' || c = '\x0c'
  { r with cursor := r.cursor.drop blanks.length }

private def layoutTokens (r : Reader) (layout : List Lexeme) : List Token :=
  layout.map fun l => ⟨l, ⟨r.cursor.position, r.cursor.position⟩⟩

/-- Reads on while `fuel` lasts; every round but the last takes a character. The tokens read
so far are in reverse. A line that has turned out blank stays so up to its end. -/
private def readFrom (dialect : Dialect) : Nat → Bool → List Token → List TypeIgnore → Reader →
    Option (List Token × List TypeIgnore)
  | 0, _, _, _, _ => none
  | fuel + 1, wasBlank, tokens, ignores, r =>
    match (if r.atLineStart then beginLine r else some ⟨[], wasBlank, r⟩) with
    | none => none
    | some ⟨layout, isBlank, r⟩ =>
      let tokens := (layoutTokens r layout).reverseAux tokens
      let r := skipBlanks (leaveAsync isBlank r)
      match step dialect isBlank r with
      | none => none
      | some .finish =>
        let last : Token := ⟨.endOfSource, ⟨r.cursor.position, r.cursor.position⟩⟩
        some ((last :: tokens).reverse, ignores.reverse)
      | some (.skip next) => readFrom dialect fuel isBlank tokens ignores next
      | some (.silence t next) => readFrom dialect fuel false tokens (t :: ignores) next
      | some (.token t next) => readFrom dialect fuel false (t :: tokens) ignores next

private theorem ignores_of_readFrom {dialect : Dialect} (h : dialect.typeComments = false)
    {fuel : Nat} {wasBlank : Bool} {tokens read : List Token} {ignores silenced : List TypeIgnore}
    {r : Reader} (done : readFrom dialect fuel wasBlank tokens ignores r = some (read, silenced)) :
    silenced = ignores.reverse := by
  induction fuel generalizing wasBlank tokens r with
  | zero => cases done
  | succ fuel ih =>
      rw [readFrom] at done
      split at done
      · cases done
      · dsimp only at done
        split at done
        · cases done
        · cases done
          rfl
        · exact ih done
        · next hstep => exact absurd hstep (step_ne_silence h _ _ _ _)
        · exact ih done

end Reader

/-- Line ends of every kind count as one newline character. -/
def unifyLineEnds : List Char → List Char
  | '\r' :: '\n' :: rest => '\n' :: unifyLineEnds rest
  | '\r' :: rest => '\n' :: unifyLineEnds rest
  | c :: rest => c :: unifyLineEnds rest
  | [] => []

/-- The source with a newline at its end. -/
def endLine (source : List Char) : List Char :=
  if source.getLast? = some '\n' then source else source ++ ['\n']

/-- The tokens of a source that starts at a position, and the lines that it asks a checker to
be silent about; `none` when it is not made of tokens. -/
def read? (dialect : Dialect) (position : Position) (source : List Char) :
    Option (List Token × List TypeIgnore) :=
  let source := endLine (unifyLineEnds source)
  Reader.readFrom dialect (source.length + 1) false [] [] (Reader.start source position)

/-- Where comments do not give types, no line is silenced. -/
theorem read?_ignores {dialect : Dialect} (h : dialect.typeComments = false) {position : Position}
    {source : List Char} {tokens : List Token} {ignores : List TypeIgnore}
    (done : read? dialect position source = some (tokens, ignores)) : ignores = [] :=
  Reader.ignores_of_readFrom h done

end SourceLedger.Token
