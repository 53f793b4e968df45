import SourceLedger.Grammar.Statement

/-!
# Sources

Reading a whole source: its tokens are read first, and then the rules are tied together to the
depth that the source can need.
-/

namespace SourceLedger.Grammar

open Syntax (Module)

/-- The rules over a table of rules. -/
def Rules.over (r : Rules) : Rules where
  expression := Grammar.expression r
  namedExpression := Grammar.namedExpression r
  item := Grammar.item r
  expressions := Grammar.expressions r
  disjunction := Grammar.disjunction r
  inversion := Grammar.inversion r
  factor := Grammar.factor r
  bitOr := Grammar.bitOr r
  primary := Grammar.primary r
  pattern := Grammar.pattern r
  statement := Grammar.statement r

/-- The rules tied together to a depth. -/
def Rules.ofDepth : Nat → Rules
  | 0 => .none
  | depth + 1 => .over (ofDepth depth)

/-- The version that the grammar is of. -/
def newestMinor : Int := 11

/-- How sources are read. -/
structure Settings where
  /-- Constructs newer than this minor version are refused. -/
  minor : Int
  typeComments : Bool

/-- Before version 3.7 `async` and `await` were not reserved. -/
def Settings.dialect (settings : Settings) : Token.Dialect :=
  { typeComments := settings.typeComments, softAsync := settings.minor < 7 }

/-- The module that a source denotes, if it is well formed. -/
def read? (settings : Settings) (source : List Char) : Option Module := do
  let (tokens, typeIgnores) ← Token.read? settings.dialect ⟨1, 0⟩ source
  let state : State :=
    { tokens
      limit := tokens.length
      reached := ⟨1, 0⟩
      minor := settings.minor
      dialect := settings.dialect }
  match statements (.ofDepth (source.length + 2)) state with
  | .ok (body, _) => some ⟨body, typeIgnores⟩
  | .error _ => none

end SourceLedger.Grammar
