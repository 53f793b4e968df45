import SourceLedger.Grammar.Rule

/-!
# Recursion between rules

A rule that refers to a rule of its own level or above does so through a table of rules. A
table is built from one that reaches less deep, so that reading ends; and since such a
reference is made only after a character of the source has been taken, a table as deep as the
source is long reads whatever can be read.
-/

namespace SourceLedger.Grammar

open Syntax (Expr Pattern Stmt)
open Token (Lexeme)

structure Rules where
  /-- A conditional, a lambda, or anything that binds tighter. -/
  expression : Rule Expr
  /-- An expression, or an assignment within an expression. -/
  namedExpression : Rule Expr
  /-- An item of a display: an expression of the kind above, or an unpacked one. -/
  item : Rule Expr
  /-- One or more expressions, some perhaps unpacked; several of them make a tuple. -/
  expressions : Rule Expr
  disjunction : Rule Expr
  inversion : Rule Expr
  factor : Rule Expr
  bitOr : Rule Expr
  /-- A name or literal with its trailers. -/
  primary : Rule Expr
  pattern : Rule Pattern
  statement : Rule (List Stmt)

namespace Rules

/-- The table that reads nothing. -/
def none : Rules where
  expression := mismatch
  namedExpression := mismatch
  item := mismatch
  expressions := mismatch
  disjunction := mismatch
  inversion := mismatch
  factor := mismatch
  bitOr := mismatch
  primary := mismatch
  pattern := mismatch
  statement := mismatch

end Rules

/-- Whether an expression can start with a lexeme. -/
def beginsExpression : Lexeme → Bool
  | .name _ | .number _ | .string _ => true
  | .keyword k =>
    k ∈ [.falseKw, .noneKw, .trueKw, .awaitKw, .lambdaKw, .notKw]
  | .symbol s =>
    s ∈ [.leftParen, .leftBracket, .leftBrace, .minus, .plus, .tilde, .ellipsis]
  | _ => false

/-- Whether an expression or an unpacked one can start with a lexeme. -/
def beginsItem (l : Lexeme) : Bool := l == .symbol .star || beginsExpression l

end SourceLedger.Grammar
