import SourceLedger.Grammar.Pattern

/-!
# Statements

A line holds one or more simple statements; a compound statement has blocks. What can only be
told apart late is told apart by looking ahead: a `match` is a statement if a subject, a colon
and an indented `case` follow, and a parenthesis after `with` holds the items if a colon follows
its end.
-/

namespace SourceLedger.Grammar

open Syntax (Alias BinaryOp Expr Handler MatchCase Position Stmt WithItem)
open Token (Lexeme)

/-! ### Simple statements -/

private def typeCommentOption : Rule (Option Text) := do
  match ← peek with
  | .typeComment text =>
    let _ ← take
    return some (Text.ofChars text)
  | _ => return none

private def augmentedOp? : Lexeme → Option BinaryOp
  | .symbol .plusEqual => some .add
  | .symbol .minusEqual => some .sub
  | .symbol .starEqual => some .mult
  | .symbol .atEqual => some .matMult
  | .symbol .slashEqual => some .div
  | .symbol .percentEqual => some .mod
  | .symbol .ampersandEqual => some .bitAnd
  | .symbol .barEqual => some .bitOr
  | .symbol .caretEqual => some .bitXor
  | .symbol .leftShiftEqual => some .lShift
  | .symbol .rightShiftEqual => some .rShift
  | .symbol .doubleStarEqual => some .pow
  | .symbol .doubleSlashEqual => some .floorDiv
  | _ => none

private def isName : Expr → Bool
  | .name .. => true
  | _ => false

/-- A target whose annotation follows; it is simple if it is a name without parentheses. -/
private def annotated (r : Rules) (start : Position) (isBare : Bool) (left : Expr) :
    Rule Stmt := do
  let bound ← ofOption left.asSingleTarget?
  let typeHint ← r.expression
  let value ← if ← acceptSymbol .equal then some <$> yieldOrExpressions r else pure none
  since 6
  return .annAssign (← spanFrom start) bound typeHint value (isBare && isName left)

private structure Assignment where
  targets : List Expr
  value : Expr
  isYield : Bool

private def assigned (r : Rules) (start : Position) (left : Expr) : Rule Stmt := do
  let found ← iterate (fun (a : Assignment) => do
    if ← acceptSymbol .equal then
      if a.isYield then mismatch
      let bound ← ofOption a.value.asTarget?
      let isYield ← nextIs (.keyword .yieldKw)
      let value ← yieldOrExpressions r
      return some ⟨bound :: a.targets, value, isYield⟩
    else return none) ⟨[], left, false⟩
  let comment ← typeCommentOption
  return .assign (← spanFrom start) found.targets.reverse found.value comment

/-- A statement that starts with an expression. -/
private def expressionStatement (r : Rules) : Rule Stmt := do
  let start ← here
  if ← nextIs (.keyword .yieldKw) then
    let value ← yieldOrExpressions r
    return .expr (← spanFrom start) value
  else
    let isBare := !(← nextIs (.symbol .leftParen))
    let left ← expressions r
    match ← peek with
    | .symbol .equal => assigned r start left
    | .symbol .colon =>
      let _ ← take
      annotated r start isBare left
    | l =>
      match augmentedOp? l with
      | some op =>
        let bound ← ofOption left.asSingleTarget?
        let _ ← take
        if op = .matMult then since 5
        let value ← yieldOrExpressions r
        return .augAssign (← spanFrom start) bound op value
      | none => return .expr (← spanFrom start) left

private def deletion (r : Rules) (start : Position) : Rule Stmt := do
  let one : Rule Expr := do ofOption (← primary r).asDeleted?
  let first ← one
  let (items, _) ← commaSeparated beginsExpression one first
  match ← peek with
  | .newline | .symbol .semicolon => return .delete (← spanFrom start) items
  | _ => mismatch

private def dottedName : Rule Text := do
  let first ← name
  let later ← many (nextIs (.symbol .dot)) (do
    expectSymbol .dot
    name)
  return Text.join "." (first :: later)

private def asName : Rule (Option Text) := do
  if ← acceptKeyword .asKw then some <$> name else return none

private def aliasOf (what : Rule Text) : Rule Alias := do
  let start ← here
  let id ← what
  let renamed ← asName
  return ⟨← spanFrom start, id, renamed⟩

private def commaList (item : Rule α) : Rule (List α) := do
  let first ← item
  let later ← many (nextIs (.symbol .comma)) (do
    expectSymbol .comma
    item)
  return first :: later

private def isNameLexeme : Lexeme → Bool
  | .name _ => true
  | _ => false

private def importedNames : Rule (List Alias) := do
  let start ← here
  if ← acceptSymbol .star then return [⟨← spanFrom start, "*", none⟩]
  else if ← acceptSymbol .leftParen then
    let first ← aliasOf name
    let (items, _) ← commaSeparated isNameLexeme (aliasOf name) first
    expectSymbol .rightParen
    return items
  else commaList (aliasOf name)

/-- The dots in front of the name of a module: each takes one level up. -/
private def leadingDots : Rule Nat :=
  iterate (fun level => do
    if ← acceptSymbol .dot then return some (level + 1)
    else if ← acceptSymbol .ellipsis then return some (level + 3)
    else return none) 0

private def importFrom (start : Position) : Rule Stmt := do
  let level ← leadingDots
  let origin ←
    if level ≠ 0 && (← nextIs (.keyword .importKw)) then pure none else some <$> dottedName
  expectKeyword .importKw
  let names ← importedNames
  return .importFrom (← spanFrom start) origin names level

private def raising (r : Rules) (start : Position) : Rule Stmt := do
  if !beginsExpression (← peek) then return .raise (← spanFrom start) none none
  else
    let exception ← expression r
    let cause ← if ← acceptKeyword .fromKw then some <$> expression r else pure none
    return .raise (← spanFrom start) (some exception) cause

private def simpleStatement (r : Rules) : Rule Stmt := do
  let start ← here
  match ← peek with
  | .keyword .passKw =>
    let _ ← take
    return .pass (← spanFrom start)
  | .keyword .breakKw =>
    let _ ← take
    return .breaking (← spanFrom start)
  | .keyword .continueKw =>
    let _ ← take
    return .continuing (← spanFrom start)
  | .keyword .returnKw =>
    let _ ← take
    let value ← if beginsItem (← peek) then some <$> expressions r else pure none
    return .returning (← spanFrom start) value
  | .keyword .importKw =>
    let _ ← take
    let names ← commaList (aliasOf dottedName)
    return .importing (← spanFrom start) names
  | .keyword .fromKw =>
    let _ ← take
    importFrom start
  | .keyword .raiseKw =>
    let _ ← take
    raising r start
  | .keyword .delKw =>
    let _ ← take
    deletion r start
  | .keyword .assertKw =>
    let _ ← take
    let test ← expression r
    let message ← if ← acceptSymbol .comma then some <$> expression r else pure none
    return .assert (← spanFrom start) test message
  | .keyword .globalKw =>
    let _ ← take
    let names ← commaList name
    return .global (← spanFrom start) names
  | .keyword .nonlocalKw =>
    let _ ← take
    let names ← commaList name
    return .nonlocal (← spanFrom start) names
  | _ => expressionStatement r

/-- The simple statements of a line. -/
private def simpleStatements (r : Rules) : Rule (List Stmt) := do
  let first ← simpleStatement r
  let (items, _) ← iterate (fun (items, ended) => do
    if ended then return none
    else if ← acceptSymbol .semicolon then
      if ← nextIs .newline then return some (items, true)
      else return some ((← simpleStatement r) :: items, false)
    else return none) ([first], false)
  expect .newline
  return items.reverse

/-! ### Compound statements -/

private def untilDedent (r : Rules) : Rule (List Stmt) := do
  let blocks ← many (do return !(← nextIs .dedent) && !(← nextIs .endOfSource)) r.statement
  expect .dedent
  return blocks.flatten

private def block (r : Rules) : Rule (List Stmt) := do
  if ← accept .newline then
    expect .indent
    let first ← r.statement
    return first ++ (← untilDedent r)
  else simpleStatements r

private def elseBlock (r : Rules) : Rule (List Stmt) := do
  if ← acceptKeyword .elseKw then
    expectSymbol .colon
    block r
  else return []

private structure Branch where
  start : Position
  test : Expr
  body : List Stmt

private def branch (r : Rules) : Rule Branch := do
  let start ← here
  let _ ← take
  let test ← namedExpression r
  expectSymbol .colon
  return ⟨start, test, ← block r⟩

/-- An `elif` is a conditional statement within the `else` of the one before. -/
private def conditional (r : Rules) : Rule Stmt := do
  let first ← branch r
  let later ← many (nextIs (.keyword .elifKw)) (branch r)
  let orElse ← elseBlock r
  let orElse ← later.foldrM (fun b orElse => do
    return [Stmt.conditional (← spanFrom b.start) b.test b.body orElse]) orElse
  return .conditional (← spanFrom first.start) first.test first.body orElse

private def whileLoop (r : Rules) : Rule Stmt := do
  let b ← branch r
  let orElse ← elseBlock r
  return .whileLoop (← spanFrom b.start) b.test b.body orElse

private def forLoop (r : Rules) (start : Position) (isAsync : Bool) : Rule Stmt := do
  expectKeyword .forKw
  let bound ← targets r
  expectKeyword .inKw
  let iterable ← expressions r
  expectSymbol .colon
  let comment ← typeCommentOption
  let body ← block r
  let orElse ← elseBlock r
  return .forLoop (← spanFrom start) isAsync bound iterable body orElse comment

private def withItem (r : Rules) : Rule WithItem := do
  let context ← expression r
  if ← acceptKeyword .asKw then
    let bound ← target r
    match ← peek with
    | .symbol s =>
      if s ∈ [.comma, .rightParen, .colon] then return ⟨context, some bound⟩ else mismatch
    | _ => mismatch
  else return ⟨context, none⟩

/-- The items in parentheses, if the statement is of that form. A type comment shows that it is
not: then the parentheses belong to an expression. -/
private def parenthesisedItems (r : Rules) : Rule (List WithItem) := do
  expectSymbol .leftParen
  let first ← withItem r
  let (items, _) ← commaSeparated beginsExpression (withItem r) first
  expectSymbol .rightParen
  expectSymbol .colon
  match ← peek with
  | .typeComment _ => mismatch
  | _ => return items

/-- Parenthesised items are refused below 3.9, as they are in release 3.11.2; release 3.11.9 takes
them in every version. -/
private def withBlock (r : Rules) (start : Position) (isAsync : Bool) : Rule Stmt := do
  expectKeyword .withKw
  match ← attempt (parenthesisedItems r) with
  | some items =>
    let body ← block r
    if !isAsync then since 9
    return .within (← spanFrom start) isAsync items body none
  | none =>
    let items ← commaList (withItem r)
    expectSymbol .colon
    let comment ← typeCommentOption
    let body ← block r
    return .within (← spanFrom start) isAsync items body comment

private def handler (r : Rules) (isStar : Bool) : Rule Handler := do
  let start ← here
  expectKeyword .exceptKw
  if isStar then expectSymbol .star
  -- A clause for groups always names what it catches.
  let isBare ← if isStar then pure false else acceptSymbol .colon
  if isBare then
    let body ← block r
    return .mk (← spanFrom start) none none body
  else
    let exception ← expression r
    let bound ← asName
    expectSymbol .colon
    let body ← block r
    return .mk (← spanFrom start) (some exception) bound body

private def tryBlock (r : Rules) : Rule Stmt := do
  let start ← here
  expectKeyword .tryKw
  expectSymbol .colon
  let body ← block r
  let isStar := (← peekAt 1) == .symbol .star
  let handlers ← many (nextIs (.keyword .exceptKw)) (handler r isStar)
  let orElse ← if handlers.isEmpty then pure [] else elseBlock r
  let finalBody ←
    if ← acceptKeyword .finallyKw then
      expectSymbol .colon
      some <$> block r
    else pure none
  if handlers.isEmpty && finalBody.isNone then mismatch
  let isStar := isStar && !handlers.isEmpty
  if isStar then since 11
  return .trying (← spanFrom start) isStar body handlers orElse (finalBody.getD [])

/-- The type comment of a function stands behind the colon, or alone on the line below. -/
private def functionTypeComment : Rule (Option Text) := do
  match ← peek, ← peekAt 1, ← peekAt 2, ← peekAt 3 with
  | .newline, .typeComment text, .newline, .indent =>
    let _ ← take
    let _ ← take
    return some (Text.ofChars text)
  | _, _, _, _ => typeCommentOption

private def functionDef (r : Rules) (start : Position) (isAsync : Bool)
    (decorators : List Expr) : Rule Stmt := do
  expectKeyword .defKw
  let id ← name
  expectSymbol .leftParen
  let ps ← parameters r ⟨.rightParen, true⟩
  expectSymbol .rightParen
  let returns ← if ← acceptSymbol .arrow then some <$> expression r else pure none
  expectSymbol .colon
  let comment ← functionTypeComment
  let body ← block r
  return .functionDef (← spanFrom start) isAsync id ps body decorators returns comment

private def classDef (r : Rules) (start : Position) (decorators : List Expr) : Rule Stmt := do
  expectKeyword .classKw
  let id ← name
  let l ←
    if ← acceptSymbol .leftParen then
      let l ← arguments r
      expectSymbol .rightParen
      pure l
    else pure ⟨[], [], false⟩
  expectSymbol .colon
  let body ← block r
  return .classDef (← spanFrom start) id l.arguments l.keywords body decorators

/-- A statement that starts with `async`. -/
private def asyncStatement (r : Rules) (decorators : List Expr) : Rule Stmt := do
  let start ← here
  expectKeyword .asyncKw
  let s ← (do
    match ← peek with
    | .keyword .defKw => functionDef r start true decorators
    | .keyword .withKw => if decorators.isEmpty then withBlock r start true else mismatch
    | .keyword .forKw => if decorators.isEmpty then forLoop r start true else mismatch
    | _ => mismatch : Rule Stmt)
  since 5
  return s

/-- The span of a decorated definition starts at the definition. -/
private def decorated (r : Rules) : Rule Stmt := do
  let decorators ← many (nextIs (.symbol .atSign)) (do
    expectSymbol .atSign
    let e ← namedExpression r
    expect .newline
    return e)
  let start ← here
  match ← peek with
  | .keyword .defKw => functionDef r start false decorators
  | .keyword .classKw => classDef r start decorators
  | .keyword .asyncKw => asyncStatement r decorators
  | _ => mismatch

/-! ### Match statements -/

private def matchWord : List Char := ['m', 'a', 't', 'c', 'h']

private def caseWord : List Char := ['c', 'a', 's', 'e']

private def subject (r : Rules) : Rule Expr := do
  let start ← here
  let first ← item r
  let (items, isTuple) ← commaSeparated beginsItem (item r) first
  if isTuple then return .tuple (← spanFrom start) items .load
  else
    match first with
    | .starred .. => mismatch
    | e => return e

/-- The head of a match statement, up to its first case. -/
private def matchHead (r : Rules) : Rule Expr := do
  expect (.name matchWord)
  let e ← subject r
  expectSymbol .colon
  expect .newline
  expect .indent
  if ← nextIs (.name caseWord) then return e else mismatch

private def matchCase (r : Rules) : Rule MatchCase := do
  expect (.name caseWord)
  let p ← casePattern r
  let guard ← if ← acceptKeyword .ifKw then some <$> namedExpression r else pure none
  expectSymbol .colon
  let body ← block r
  return .mk p guard body

private def matchBody (r : Rules) (start : Position) (e : Expr) : Rule Stmt := do
  let cases ← many (nextIs (.name caseWord)) (matchCase r)
  expect .dedent
  since 10
  return .matching (← spanFrom start) e cases

/-! ### Statements and modules -/

/-- A compound statement, or the simple statements of a line. -/
def statement (r : Rules) : Rule (List Stmt) := do
  let start ← here
  match ← peek with
  | .keyword .ifKw => return [← conditional r]
  | .keyword .whileKw => return [← whileLoop r]
  | .keyword .forKw => return [← forLoop r start false]
  | .keyword .withKw => return [← withBlock r start false]
  | .keyword .tryKw => return [← tryBlock r]
  | .keyword .defKw => return [← functionDef r start false []]
  | .keyword .classKw => return [← classDef r start []]
  | .keyword .asyncKw => return [← asyncStatement r []]
  | .symbol .atSign => return [← decorated r]
  | .name spelling =>
    if spelling = matchWord then
      match ← attempt (matchHead r) with
      | some e => return [← matchBody r start e]
      | none => simpleStatements r
    else simpleStatements r
  | _ => simpleStatements r

/-- The statements up to the end of the source. -/
def statements (r : Rules) : Rule (List Stmt) := do
  let blocks ← many (do return !(← nextIs .endOfSource)) r.statement
  expect .endOfSource
  return blocks.flatten

end SourceLedger.Grammar
