import SourceLedger.Text.Normalization
import SourceLedger.Token.Reading

/-!
# Grammar rules

A rule reads tokens and builds a part of a tree. A rule that does not match may be followed by
another attempt from the same place; a rule that is refused, because the construct is too new
for the version of the language that is asked for, stops the whole reading.
-/

namespace SourceLedger.Grammar

open Syntax (Position Span)
open Token (Lexeme Keyword Symbol)

structure State where
  tokens : List Token
  /-- As many tokens as there were at the start; no repetition takes more steps. -/
  limit : Nat
  /-- The end of the last token that is not layout. -/
  reached : Position
  /-- The minor version of the language that sources are written in. -/
  minor : Int
  dialect : Token.Dialect

inductive Failure
  | mismatch
  | refused
  deriving DecidableEq, Repr

abbrev Rule := StateT State (Except Failure)

variable {α : Type}

def mismatch : Rule α := throw .mismatch

/-- The construct that was just read needs this minor version. -/
def since (minor : Int) : Rule Unit := do
  if (← get).minor < minor then throw .refused

/-- Runs a rule; where it does not match, nothing has been read. -/
def attempt (rule : Rule α) : Rule (Option α) := fun s =>
  match rule s with
  | .ok (a, s) => .ok (some a, s)
  | .error .mismatch => .ok (none, s)
  | .error .refused => .error .refused

/-- The lexeme some tokens ahead. -/
def peekAt (count : Nat) : Rule Lexeme := do
  return ((← get).tokens[count]?.map (·.lexeme)).getD .endOfSource

def peek : Rule Lexeme := peekAt 0

/-- Takes one token. -/
def take : Rule Token := do
  let s ← get
  match s.tokens with
  | [] => mismatch
  | t :: rest =>
    set { s with tokens := rest, reached := if t.lexeme.isLayout then s.reached else t.span.stop }
    return t

/-- Where the next token starts. -/
def here : Rule Position := do
  let s ← get
  return (s.tokens.head?.map (·.span.start)).getD s.reached

/-- The span from a position to the end of what has been read. -/
def spanFrom (start : Position) : Rule Span := do
  return ⟨start, (← get).reached⟩

def nextIs (lexeme : Lexeme) : Rule Bool := do
  return (← peek) == lexeme

/-- Takes the next token if it is the given one. -/
def accept (lexeme : Lexeme) : Rule Bool := do
  if ← nextIs lexeme then
    let _ ← take
    return true
  else return false

def expect (lexeme : Lexeme) : Rule Unit := do
  if !(← accept lexeme) then mismatch

def acceptSymbol (s : Symbol) : Rule Bool := accept (.symbol s)

def expectSymbol (s : Symbol) : Rule Unit := expect (.symbol s)

def acceptKeyword (k : Keyword) : Rule Bool := accept (.keyword k)

def expectKeyword (k : Keyword) : Rule Unit := expect (.keyword k)

/-- A name stands for its compatibility composition. -/
def nameText (spelling : List Char) : Text :=
  Text.ofChars (Normalization.normalize spelling)

def name : Rule Text := do
  match ← peek with
  | .name spelling =>
    let _ ← take
    return nameText spelling
  | _ => mismatch

/-- Applies a step again and again until it has nothing to add. Each step takes a token. -/
private def iterateWith (step : α → Rule (Option α)) : Nat → α → Rule α
  | 0, a => pure a
  | fuel + 1, a => do
    match ← step a with
    | none => pure a
    | some a => iterateWith step fuel a

def iterate (step : α → Rule (Option α)) (init : α) : Rule α := fun s =>
  iterateWith step s.limit init s

/-- Reads items while `begins` holds before them. -/
def many (begins : Rule Bool) (item : Rule α) : Rule (List α) := do
  let items ← iterate (fun items => do
    if ← begins then return some ((← item) :: items) else return none) []
  return items.reverse

/-- Reads the items after commas behind a first one. The comma behind the last item is
optional; the answer says whether there was any comma. -/
def commaSeparated (begins : Lexeme → Bool) (item : Rule α) (first : α) :
    Rule (List α × Bool) := do
  let (items, hasComma, _) ← iterate (fun (items, _, ended) => do
    if ended then return none
    else if ← acceptSymbol .comma then
      if begins (← peek) then return some ((← item) :: items, true, false)
      else return some (items, true, true)
    else return none) ([first], false, false)
  return (items.reverse, hasComma)

end SourceLedger.Grammar
