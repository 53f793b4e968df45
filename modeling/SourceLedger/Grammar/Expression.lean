import SourceLedger.Grammar.Formatted
import SourceLedger.Grammar.Parameter

/-!
# Expressions

The rules for expressions, from the tightest binding to the loosest. Chains of operators and of
trailers are read in a loop, so that they lean to the left.
-/

namespace SourceLedger.Grammar

open Syntax (BinaryOp BoolOp Comparison Comprehension Constant Expr Keyword Position UnaryOp)
open Token (Lexeme Symbol)

/-! ### Comprehensions -/

private def beginsComprehension : Rule Bool := do
  match ← peek, ← peekAt 1 with
  | .keyword .forKw, _ => return true
  | .keyword .asyncKw, .keyword .forKw => return true
  | _, _ => return false

private def comprehension (r : Rules) : Rule Comprehension := do
  let isAsync ← acceptKeyword .asyncKw
  expectKeyword .forKw
  let bound ← targets r
  expectKeyword .inKw
  let iterable ← r.disjunction
  let conditions ← many (nextIs (.keyword .ifKw)) (do
    expectKeyword .ifKw
    r.disjunction)
  if isAsync then since 6
  return .mk bound iterable conditions isAsync

private def comprehensions (r : Rules) : Rule (List Comprehension) :=
  many beginsComprehension (comprehension r)

private def isStarred : Expr → Bool
  | .starred .. => true
  | _ => false

/-! ### Calls -/

/-- What has been read of the arguments of a call. After the first keyword no plain argument
can follow, and after the first unpacked mapping no unpacked list. -/
structure ArgumentList where
  arguments : List Expr
  keywords : List Keyword
  hasMapping : Bool

private def isKeywordArgument : Rule Bool := do
  match ← peek, ← peekAt 1 with
  | .name _, .symbol .equal => return true
  | _, _ => return false

private def argument (r : Rules) (l : ArgumentList) : Rule ArgumentList := do
  let start ← here
  if ← isKeywordArgument then
    let id ← name
    expectSymbol .equal
    let value ← r.expression
    return { l with keywords := l.keywords ++ [.mk (← spanFrom start) (some id) value] }
  else if ← acceptSymbol .doubleStar then
    let value ← r.expression
    return { l with
      keywords := l.keywords ++ [.mk (← spanFrom start) none value], hasMapping := true }
  else if ← acceptSymbol .star then
    if l.hasMapping then mismatch
    let value ← r.expression
    return { l with arguments := l.arguments ++ [.starred (← spanFrom start) value .load] }
  else
    if !l.keywords.isEmpty then mismatch
    let value ← r.namedExpression
    return { l with arguments := l.arguments ++ [value] }

/-- The arguments up to the closing parenthesis, which is left. -/
def arguments (r : Rules) : Rule ArgumentList := do
  let (l, _) ← iterate (fun (l, ended) => do
    if ended || (← nextIs (.symbol .rightParen)) then return none
    else
      let l ← argument r l
      return some (l, !(← acceptSymbol .comma))) (⟨[], [], false⟩, false)
  return l

/-- A generator can be the only argument of a call and then shares its parentheses. -/
private def callTrailer (r : Rules) (start : Position) (function : Expr) : Rule Expr := do
  let opening ← here
  expectSymbol .leftParen
  let l ← arguments r
  match l.arguments, l.keywords, ← beginsComprehension with
  | [item], [], true =>
    if isStarred item then mismatch
    let generators ← comprehensions r
    expectSymbol .rightParen
    return .call (← spanFrom start) function
      [.generator (← spanFrom opening) item generators] []
  | _, _, _ =>
    expectSymbol .rightParen
    return .call (← spanFrom start) function l.arguments l.keywords

/-! ### Subscripts -/

private def endsSliceBound : Lexeme → Bool
  | .symbol s => s ∈ [.colon, .comma, .rightBracket]
  | _ => false

private def sliceBound (r : Rules) : Rule (Option Expr) := do
  if endsSliceBound (← peek) then return none else some <$> r.expression

private def isWalrus : Rule Bool := do
  match ← peek, ← peekAt 1 with
  | .name _, .symbol .colonEqual => return true
  | _, _ => return false

private def sliceItem (r : Rules) : Rule Expr := do
  let start ← here
  if ← acceptSymbol .star then
    let value ← r.expression
    return .starred (← spanFrom start) value .load
  else if ← isWalrus then r.namedExpression
  else
    let lower ← sliceBound r
    if ← acceptSymbol .colon then
      let upper ← sliceBound r
      let step ← if ← acceptSymbol .colon then sliceBound r else pure none
      return .slice (← spanFrom start) lower upper step
    else
      match lower with
      | some e => return e
      | none => mismatch

/-- The index in brackets. An unpacked item makes a tuple even by itself. -/
private def index (r : Rules) : Rule Expr := do
  let start ← here
  let first ← sliceItem r
  let begins (l : Lexeme) : Bool := l == .symbol .colon || beginsItem l
  let (items, hasComma) ← commaSeparated begins (sliceItem r) first
  if hasComma || isStarred first then return .tuple (← spanFrom start) items .load
  else return first

/-! ### Displays -/

private def yieldExpression (r : Rules) : Rule Expr := do
  let start ← here
  expectKeyword .yieldKw
  if ← acceptKeyword .fromKw then
    let value ← r.expression
    return .yieldFrom (← spanFrom start) value
  else if beginsItem (← peek) then
    let value ← r.expressions
    return .yield (← spanFrom start) (some value)
  else return .yield (← spanFrom start) none

/-- A yield, or one or more expressions. -/
def yieldOrExpressions (r : Rules) : Rule Expr := do
  if ← nextIs (.keyword .yieldKw) then yieldExpression r else r.expressions

/-- A parenthesised expression is the expression itself; a tuple and a generator span their
parentheses. -/
private def parenthesised (r : Rules) : Rule Expr := do
  let start ← here
  expectSymbol .leftParen
  if ← acceptSymbol .rightParen then return .tuple (← spanFrom start) [] .load
  else if ← nextIs (.keyword .yieldKw) then
    let value ← yieldExpression r
    expectSymbol .rightParen
    return value
  else
    let first ← r.item
    if ← nextIs (.symbol .comma) then
      let (items, _) ← commaSeparated beginsItem r.item first
      expectSymbol .rightParen
      return .tuple (← spanFrom start) items .load
    else if isStarred first then mismatch
    else if ← beginsComprehension then
      let generators ← comprehensions r
      expectSymbol .rightParen
      return .generator (← spanFrom start) first generators
    else
      expectSymbol .rightParen
      return first

private def listDisplay (r : Rules) : Rule Expr := do
  let start ← here
  expectSymbol .leftBracket
  if ← acceptSymbol .rightBracket then return .list (← spanFrom start) [] .load
  else
    let first ← r.item
    if !isStarred first && (← beginsComprehension) then
      let generators ← comprehensions r
      expectSymbol .rightBracket
      return .listComp (← spanFrom start) first generators
    else
      let (items, _) ← commaSeparated beginsItem r.item first
      expectSymbol .rightBracket
      return .list (← spanFrom start) items .load

private def beginsEntry (l : Lexeme) : Bool := l == .symbol .doubleStar || beginsExpression l

/-- A key with its value, or an unpacked mapping. -/
private def entry (r : Rules) : Rule (Option Expr × Expr) := do
  if ← acceptSymbol .doubleStar then return (none, ← r.bitOr)
  else
    let key ← r.expression
    expectSymbol .colon
    return (some key, ← r.expression)

private def dictDisplay (r : Rules) (start : Position) (first : Option Expr × Expr) :
    Rule Expr := do
  let (entries, _) ← commaSeparated beginsEntry (entry r) first
  expectSymbol .rightBrace
  return .dict (← spanFrom start) (entries.map Prod.fst) (entries.map Prod.snd)

private def braceDisplay (r : Rules) : Rule Expr := do
  let start ← here
  expectSymbol .leftBrace
  if ← acceptSymbol .rightBrace then return .dict (← spanFrom start) [] []
  else if ← nextIs (.symbol .doubleStar) then dictDisplay r start (← entry r)
  else
    let isNamed ← isWalrus
    let first ← r.item
    let isKey ← if isNamed || isStarred first then pure false else acceptSymbol .colon
    if isKey then
      let value ← r.expression
      if ← beginsComprehension then
        let generators ← comprehensions r
        expectSymbol .rightBrace
        return .dictComp (← spanFrom start) first value generators
      else dictDisplay r start (some first, value)
    else if !isStarred first && (← beginsComprehension) then
      let generators ← comprehensions r
      expectSymbol .rightBrace
      return .setComp (← spanFrom start) first generators
    else
      let (items, _) ← commaSeparated beginsItem r.item first
      expectSymbol .rightBrace
      return .set (← spanFrom start) items

/-! ### Atoms and trailers -/

/-- A number by itself. -/
def numberLiteral : Rule Expr := do
  let t ← take
  match t.lexeme with
  | .number spelling =>
    if spelling.contains '_' then since 6
    match Literal.number? (spelling.filter (· ≠ '_')) with
    | some c => return .constant t.span c false
    | none => mismatch
  | _ => mismatch

private def constant (c : Constant) : Rule Expr := do
  let t ← take
  return .constant t.span c false

private def atom (r : Rules) : Rule Expr := do
  match ← peek with
  | .name _ =>
    let start ← here
    let id ← name
    return .name (← spanFrom start) id .load
  | .number _ => numberLiteral
  | .string _ => Formatted.strings r
  | .keyword .trueKw => constant (.bool true)
  | .keyword .falseKw => constant (.bool false)
  | .keyword .noneKw => constant .none
  | .symbol .ellipsis => constant .ellipsis
  | .symbol .leftParen => parenthesised r
  | .symbol .leftBracket => listDisplay r
  | .symbol .leftBrace => braceDisplay r
  | _ => mismatch

def primary (r : Rules) : Rule Expr := do
  let start ← here
  iterate (fun e => do
    match ← peek with
    | .symbol .dot =>
      let _ ← take
      let id ← name
      return some (.member (← spanFrom start) e id .load)
    | .symbol .leftParen => some <$> callTrailer r start e
    | .symbol .leftBracket =>
      let _ ← take
      let i ← index r
      expectSymbol .rightBracket
      return some (.subscript (← spanFrom start) e i .load)
    | _ => return none) (← atom r)

private def awaited (r : Rules) : Rule Expr := do
  let start ← here
  if ← acceptKeyword .awaitKw then
    let value ← primary r
    since 5
    return .await (← spanFrom start) value
  else primary r

/-! ### Operators -/

private def power (r : Rules) : Rule Expr := do
  let start ← here
  let base ← awaited r
  if ← acceptSymbol .doubleStar then
    let exponent ← r.factor
    return .binary (← spanFrom start) base .pow exponent
  else return base

private def unaryOp? : Lexeme → Option UnaryOp
  | .symbol .plus => some .plus
  | .symbol .minus => some .minus
  | .symbol .tilde => some .invert
  | _ => none

def factor (r : Rules) : Rule Expr := do
  let start ← here
  match unaryOp? (← peek) with
  | some op =>
    let _ ← take
    let operand ← r.factor
    return .unary (← spanFrom start) op operand
  | none => power r

/-- A chain of operators of one precedence. -/
private def chain (operator? : Lexeme → Option BinaryOp) (operand : Rule Expr) : Rule Expr := do
  let start ← here
  iterate (fun left => do
    match operator? (← peek) with
    | none => return none
    | some op =>
      let _ ← take
      let right ← operand
      if op = .matMult then since 5
      return some (.binary (← spanFrom start) left op right)) (← operand)

private def termOp? : Lexeme → Option BinaryOp
  | .symbol .star => some .mult
  | .symbol .slash => some .div
  | .symbol .doubleSlash => some .floorDiv
  | .symbol .percent => some .mod
  | .symbol .atSign => some .matMult
  | _ => none

private def sumOp? : Lexeme → Option BinaryOp
  | .symbol .plus => some .add
  | .symbol .minus => some .sub
  | _ => none

private def shiftOp? : Lexeme → Option BinaryOp
  | .symbol .leftShift => some .lShift
  | .symbol .rightShift => some .rShift
  | _ => none

private def only (s : Symbol) (op : BinaryOp) (l : Lexeme) : Option BinaryOp :=
  if l == .symbol s then some op else none

def bitOr (r : Rules) : Rule Expr :=
  chain (only .bar .bitOr) <| chain (only .caret .bitXor) <| chain (only .ampersand .bitAnd) <|
    chain shiftOp? <| chain sumOp? <| chain termOp? <| factor r

/-- The comparison that the next one or two lexemes make, and how many they are. -/
private def comparison? : Rule (Option (Comparison × Nat)) := do
  match ← peek, ← peekAt 1 with
  | .symbol .equalEqual, _ => return some (.eq, 1)
  | .symbol .notEqual, _ => return some (.notEq, 1)
  | .symbol .less, _ => return some (.lt, 1)
  | .symbol .lessEqual, _ => return some (.ltE, 1)
  | .symbol .greater, _ => return some (.gt, 1)
  | .symbol .greaterEqual, _ => return some (.gtE, 1)
  | .keyword .isKw, .keyword .notKw => return some (.isNot, 2)
  | .keyword .isKw, _ => return some (.is, 1)
  | .keyword .inKw, _ => return some (.isIn, 1)
  | .keyword .notKw, .keyword .inKw => return some (.notIn, 2)
  | _, _ => return none

private def comparison (r : Rules) : Rule Expr := do
  let start ← here
  let left ← bitOr r
  let found ← iterate (fun found => do
    match ← comparison? with
    | none => return none
    | some (op, width) =>
      let _ ← take
      if width = 2 then
        let _ ← take
      let right ← bitOr r
      return some ((op, right) :: found)) []
  if found.isEmpty then return left
  else
    let found := found.reverse
    return .compare (← spanFrom start) left (found.map Prod.fst) (found.map Prod.snd)

def inversion (r : Rules) : Rule Expr := do
  let start ← here
  if ← acceptKeyword .notKw then
    let operand ← r.inversion
    return .unary (← spanFrom start) .not operand
  else comparison r

/-- Operands joined by a word make one expression. -/
private def junction (word : Token.Keyword) (op : BoolOp) (operand : Rule Expr) : Rule Expr := do
  let start ← here
  let first ← operand
  let later ← many (nextIs (.keyword word)) (do
    expectKeyword word
    operand)
  if later.isEmpty then return first
  else return .boolOp (← spanFrom start) op (first :: later)

def disjunction (r : Rules) : Rule Expr :=
  junction .orKw .or (junction .andKw .and (inversion r))

private def lambda (r : Rules) : Rule Expr := do
  let start ← here
  expectKeyword .lambdaKw
  let ps ← parameters r ⟨.colon, false⟩
  expectSymbol .colon
  let body ← r.expression
  return .lambda (← spanFrom start) ps body

def expression (r : Rules) : Rule Expr := do
  if ← nextIs (.keyword .lambdaKw) then lambda r
  else
    let start ← here
    let body ← disjunction r
    if ← acceptKeyword .ifKw then
      let test ← r.disjunction
      expectKeyword .elseKw
      let orElse ← r.expression
      return .conditional (← spanFrom start) test body orElse
    else return body

def namedExpression (r : Rules) : Rule Expr := do
  if ← isWalrus then
    let start ← here
    let id ← name
    let bound : Expr := .name (← spanFrom start) id .store
    expectSymbol .colonEqual
    let value ← r.expression
    since 8
    return .named (← spanFrom start) bound value
  else expression r

private def starredOr (r : Rules) (otherwise : Rule Expr) : Rule Expr := do
  let start ← here
  if ← acceptSymbol .star then
    let value ← r.bitOr
    return .starred (← spanFrom start) value .load
  else otherwise

def item (r : Rules) : Rule Expr := starredOr r (namedExpression r)

def expressions (r : Rules) : Rule Expr := do
  let start ← here
  let first ← starredOr r (expression r)
  let (items, isTuple) ← commaSeparated beginsItem (starredOr r (expression r)) first
  if isTuple then return .tuple (← spanFrom start) items .load else return first

end SourceLedger.Grammar
