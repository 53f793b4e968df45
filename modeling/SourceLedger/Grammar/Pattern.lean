import SourceLedger.Grammar.Expression

/-!
# Patterns

The patterns of a match statement. A name alone is bound, an underscore matches anything, and a
dotted name stands for its value.
-/

namespace SourceLedger.Grammar

open Syntax (BinaryOp Constant Expr Pattern Position)
open Token (Lexeme)

private def wildcardName : List Char := ['_']

/-- A name that is bound: not an underscore, and not the start of a longer pattern. -/
private def captureName : Rule Text := do
  match ← peek, ← peekAt 1 with
  | .name _, .symbol .dot => mismatch
  | .name _, .symbol .leftParen => mismatch
  | .name _, .symbol .equal => mismatch
  | .name spelling, _ => if spelling = wildcardName then mismatch else name
  | _, _ => mismatch

private def acceptWildcard : Rule Bool := accept (.name wildcardName)

/-- A name or attributes of it. -/
private def dottedValue : Rule Expr := do
  let start ← here
  let id ← name
  let first : Expr := .name (← spanFrom start) id .load
  iterate (fun e => do
    if ← acceptSymbol .dot then
      let id ← name
      return some (.member (← spanFrom start) e id .load)
    else return none) first

/-! ### Literals -/

private def isImaginary : Expr → Bool
  | .constant _ (.imaginary _) _ => true
  | _ => false

private def signedNumber : Rule Expr := do
  let start ← here
  if ← acceptSymbol .minus then
    let operand ← numberLiteral
    return .unary (← spanFrom start) .minus operand
  else numberLiteral

/-- The number of a signed number. -/
private def unsigned : Expr → Expr
  | .unary _ _ operand => operand
  | e => e

/-- A number, or a real and an imaginary one joined by a sign. -/
private def complexNumber : Rule Expr := do
  let start ← here
  let left ← signedNumber
  let join (op : BinaryOp) : Rule Expr := do
    let _ ← take
    let right ← numberLiteral
    if isImaginary (unsigned left) || !isImaginary right then mismatch
    return .binary (← spanFrom start) left op right
  match ← peek with
  | .symbol .plus => join .add
  | .symbol .minus => join .sub
  | _ => return left

private def constantWord? : Lexeme → Option Constant
  | .keyword .noneKw => some .none
  | .keyword .trueKw => some (.bool true)
  | .keyword .falseKw => some (.bool false)
  | _ => none

private def beginsNumber : Lexeme → Bool
  | .number _ | .symbol .minus => true
  | _ => false

private def isString : Lexeme → Bool
  | .string _ => true
  | _ => false

/-! ### Structures -/

private def starPattern (r : Rules) : Rule Pattern := do
  let start ← here
  if ← acceptSymbol .star then
    if ← acceptWildcard then return .star (← spanFrom start) none
    else
      let id ← captureName
      return .star (← spanFrom start) (some id)
  else r.pattern

private def isStarPattern : Pattern → Bool
  | .star .. => true
  | _ => false

private def beginsPattern (l : Lexeme) : Bool :=
  beginsNumber l || isString l || (constantWord? l).isSome ||
    match l with
    | .name _ => true
    | .symbol s => s ∈ [.star, .leftParen, .leftBracket, .leftBrace]
    | _ => false

/-- In parentheses a single pattern is just grouped; a comma makes it a sequence. -/
private def parenthesisedPattern (r : Rules) : Rule Pattern := do
  let start ← here
  expectSymbol .leftParen
  if ← acceptSymbol .rightParen then return .sequence (← spanFrom start) []
  else
    let first ← starPattern r
    let (items, isSequence) ← commaSeparated beginsPattern (starPattern r) first
    expectSymbol .rightParen
    if isSequence then return .sequence (← spanFrom start) items
    else if isStarPattern first then mismatch
    else return first

private def bracketedPattern (r : Rules) : Rule Pattern := do
  let start ← here
  expectSymbol .leftBracket
  if ← acceptSymbol .rightBracket then return .sequence (← spanFrom start) []
  else
    let first ← starPattern r
    let (items, _) ← commaSeparated beginsPattern (starPattern r) first
    expectSymbol .rightBracket
    return .sequence (← spanFrom start) items

private def mappingKey (r : Rules) : Rule Expr := do
  let l ← peek
  if beginsNumber l then complexNumber
  else if isString l then Formatted.strings r
  else
    match constantWord? l with
    | some c =>
      let t ← take
      return .constant t.span c false
    | none =>
      match ← dottedValue with
      | e@(.member ..) => return e
      | _ => mismatch

/-- What has been read of a mapping pattern. Nothing follows the name of the rest. -/
private structure MappingParts where
  entries : List (Expr × Pattern)
  rest : Option Text
  ended : Bool

private def mappingPattern (r : Rules) : Rule Pattern := do
  let start ← here
  expectSymbol .leftBrace
  let parts ← iterate (fun (parts : MappingParts) => do
    if parts.ended || (← nextIs (.symbol .rightBrace)) then return none
    else if parts.rest.isSome then mismatch
    else
      let parts ← (do
        if ← acceptSymbol .doubleStar then
          let id ← captureName
          return { parts with rest := some id }
        else
          let key ← mappingKey r
          expectSymbol .colon
          let value ← r.pattern
          return { parts with entries := parts.entries ++ [(key, value)] } :
          Rule MappingParts)
      return some { parts with ended := !(← acceptSymbol .comma) }) ⟨[], none, false⟩
  expectSymbol .rightBrace
  return .mapping (← spanFrom start) (parts.entries.map Prod.fst) (parts.entries.map Prod.snd)
    parts.rest

/-- What has been read of a class pattern. Nothing without a name follows a named part. -/
private structure ClassParts where
  patterns : List Pattern
  named : List (Text × Pattern)
  ended : Bool

private def classPattern (r : Rules) (start : Position) (cls : Expr) : Rule Pattern := do
  expectSymbol .leftParen
  let parts ← iterate (fun (parts : ClassParts) => do
    if parts.ended || (← nextIs (.symbol .rightParen)) then return none
    else
      let parts ← (do
        match ← peek, ← peekAt 1 with
        | .name _, .symbol .equal =>
          let id ← name
          expectSymbol .equal
          let value ← r.pattern
          return { parts with named := parts.named ++ [(id, value)] }
        | _, _ =>
          if !parts.named.isEmpty then mismatch
          let value ← r.pattern
          return { parts with patterns := parts.patterns ++ [value] } : Rule ClassParts)
      return some { parts with ended := !(← acceptSymbol .comma) }) ⟨[], [], false⟩
  expectSymbol .rightParen
  return .ofClass (← spanFrom start) cls parts.patterns (parts.named.map Prod.fst)
    (parts.named.map Prod.snd)

private def namePattern (r : Rules) : Rule Pattern := do
  let start ← here
  if ← acceptWildcard then return .capture (← spanFrom start) none none
  else
    match ← attempt captureName with
    | some id => return .capture (← spanFrom start) none (some id)
    | none =>
      let value ← dottedValue
      match value, ← peek with
      | _, .symbol .leftParen => classPattern r start value
      | _, .symbol .equal => mismatch
      | .member .., _ => return .value (← spanFrom start) value
      | _, _ => mismatch

private def closedPattern (r : Rules) : Rule Pattern := do
  let start ← here
  let l ← peek
  if beginsNumber l then
    let value ← complexNumber
    return .value (← spanFrom start) value
  else if isString l then
    let value ← Formatted.strings r
    return .value (← spanFrom start) value
  else
    match constantWord? l, l with
    | some c, _ =>
      let t ← take
      return .singleton t.span c
    | none, .name _ => namePattern r
    | none, .symbol .leftParen => parenthesisedPattern r
    | none, .symbol .leftBracket => bracketedPattern r
    | none, .symbol .leftBrace => mappingPattern r
    | none, _ => mismatch

private def orPattern (r : Rules) : Rule Pattern := do
  let start ← here
  let first ← closedPattern r
  let later ← many (nextIs (.symbol .bar)) (do
    expectSymbol .bar
    closedPattern r)
  if later.isEmpty then return first
  else return .or (← spanFrom start) (first :: later)

def pattern (r : Rules) : Rule Pattern := do
  let start ← here
  let p ← orPattern r
  if ← acceptKeyword .asKw then
    let id ← captureName
    return .capture (← spanFrom start) (some p) (some id)
  else return p

/-- The pattern of a case; several with commas between them are a sequence. -/
def casePattern (r : Rules) : Rule Pattern := do
  let start ← here
  let first ← starPattern r
  let (items, isSequence) ← commaSeparated beginsPattern (starPattern r) first
  if isSequence then return .sequence (← spanFrom start) items
  else if isStarPattern first then mismatch
  else return first

end SourceLedger.Grammar
