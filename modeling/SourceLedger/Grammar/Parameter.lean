import SourceLedger.Grammar.Target

/-!
# Parameters

The parameters of a function or a lambda: positional-only ones up to a slash, then positional
ones, then after a star keyword-only ones, and at last one that takes all other keywords.
Behind a positional parameter with a default, all have one.
-/

namespace SourceLedger.Grammar

open Syntax (Expr Parameter Parameters)
open Token (Lexeme)

/-- How far the parameters of a function have been read. -/
structure ParameterList where
  positionalOnly : List Parameter
  positional : List Parameter
  defaults : List Expr
  hasSlash : Bool
  hasStar : Bool
  rest : Option Parameter
  keywordOnly : List (Parameter × Option Expr)
  keywordRest : Option Parameter

namespace ParameterList

def empty : ParameterList := ⟨[], [], [], false, false, none, [], none⟩

def toParameters (l : ParameterList) : Parameters :=
  .mk l.positionalOnly l.positional l.rest (l.keywordOnly.map Prod.fst)
    (l.keywordOnly.map Prod.snd) l.keywordRest l.defaults

end ParameterList

/-- Where parameters stand: what ends them, and whether they can have annotations. -/
structure ParameterContext where
  closing : Token.Symbol
  isAnnotated : Bool

private def typeComment : Rule (Option Text) := do
  match ← peek with
  | .typeComment text =>
    let _ ← take
    return some (Text.ofChars text)
  | _ => return none

/-- The type comment of a parameter stands behind the comma, or before the closing bracket. -/
private def endParameter (c : ParameterContext) : Rule (Option Text) := do
  if ← acceptSymbol .comma then
    if c.isAnnotated then typeComment else return none
  else
    let comment ← if c.isAnnotated then typeComment else pure none
    if ← nextIs (.symbol c.closing) then return comment else mismatch

/-- A name with its annotation; that of an unpacked parameter can itself be unpacked. -/
private def parameterName (r : Rules) (c : ParameterContext) (isUnpacked : Bool) :
    Rule (Option Text → Parameter) := do
  let start ← here
  let id ← name
  let typeHint ←
    if c.isAnnotated then
      if ← acceptSymbol .colon then
        let hintStart ← here
        let isStarred ← if isUnpacked then acceptSymbol .star else pure false
        if isStarred then
          let value ← r.bitOr
          pure (some (Expr.starred (← spanFrom hintStart) value .load))
        else some <$> r.expression
      else pure none
    else pure none
  let span ← spanFrom start
  return fun comment => .mk span id typeHint comment

private def plainParameter (r : Rules) (c : ParameterContext) (isUnpacked : Bool) :
    Rule Parameter := do
  let make ← parameterName r c isUnpacked
  return make (← endParameter c)

private def defaulted (r : Rules) (c : ParameterContext) : Rule (Parameter × Option Expr) := do
  let make ← parameterName r c false
  let value ← if ← acceptSymbol .equal then some <$> r.expression else pure none
  return (make (← endParameter c), value)

private def slash (c : ParameterContext) (l : ParameterList) : Rule ParameterList := do
  if l.hasSlash || l.hasStar || l.positional.isEmpty then mismatch
  since 8
  if !(← acceptSymbol .comma) then
    if !(← nextIs (.symbol c.closing)) then mismatch
  return { l with positionalOnly := l.positional, positional := [], hasSlash := true }

/-- Behind a star: the parameter that takes all other positional arguments, or a comma and at
least one keyword-only parameter. -/
private def star (r : Rules) (c : ParameterContext) (l : ParameterList) :
    Rule ParameterList := do
  if l.hasStar then mismatch
  if ← acceptSymbol .comma then
    let first ← defaulted r c
    return { l with hasStar := true, keywordOnly := [first] }
  else
    let rest ← plainParameter r c c.isAnnotated
    return { l with hasStar := true, rest := some rest }

private def parameter (r : Rules) (c : ParameterContext) (l : ParameterList) :
    Rule ParameterList := do
  let (p, value) ← defaulted r c
  if l.hasStar then return { l with keywordOnly := l.keywordOnly ++ [(p, value)] }
  else
    match value with
    | some e => return { l with positional := l.positional ++ [p], defaults := l.defaults ++ [e] }
    | none =>
      if l.defaults.isEmpty then return { l with positional := l.positional ++ [p] }
      else mismatch

/-- The parameters up to the lexeme that closes them. -/
def parameters (r : Rules) (c : ParameterContext) : Rule Parameters := do
  let l ← iterate (fun l => do
    if ← nextIs (.symbol c.closing) then return none
    else if l.keywordRest.isSome then mismatch
    else if ← acceptSymbol .slash then some <$> slash c l
    else if ← acceptSymbol .doubleStar then
      let rest ← plainParameter r c false
      return some { l with keywordRest := some rest }
    else if ← acceptSymbol .star then some <$> star r c l
    else some <$> parameter r c l) ParameterList.empty
  return l.toParameters

end SourceLedger.Grammar
