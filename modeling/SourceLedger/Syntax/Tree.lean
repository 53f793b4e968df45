import SourceLedger.Binary64.Basic
import SourceLedger.Text.Utf8

/-!
# Syntax trees

The abstract syntax of Python 3.11. Every expression, statement and pattern carries the span
of source that it was read from; so do the parts that a message may point at, such as a
parameter or an imported name. Lines count from one, and columns count UTF-8 bytes from zero.
-/

namespace SourceLedger.Syntax

structure Position where
  line : Nat
  column : Nat
  deriving DecidableEq, Repr, Inhabited

/-- From the first byte of a construct to the first byte after it. -/
structure Span where
  start : Position
  stop : Position
  deriving DecidableEq, Repr, Inhabited

/-- The values that literals denote. An imaginary literal stands for a multiple of the
imaginary unit. -/
inductive Constant
  | none
  | bool (b : Bool)
  | int (n : Int)
  | real (x : Binary64)
  | imaginary (x : Binary64)
  | text (t : Text)
  | bytes (bs : Bytes)
  | ellipsis
  deriving DecidableEq, Inhabited

/-- Whether an expression is read, assigned to, or deleted. -/
inductive Use
  | load
  | store
  | delete
  deriving DecidableEq, Repr

inductive BoolOp
  | and
  | or
  deriving DecidableEq, Repr

inductive BinaryOp
  | add
  | sub
  | mult
  | matMult
  | div
  | mod
  | pow
  | lShift
  | rShift
  | bitOr
  | bitXor
  | bitAnd
  | floorDiv
  deriving DecidableEq, Repr

inductive UnaryOp
  | invert
  | not
  | plus
  | minus
  deriving DecidableEq, Repr

inductive Comparison
  | eq
  | notEq
  | lt
  | ltE
  | gt
  | gtE
  | is
  | isNot
  | isIn
  | notIn
  deriving DecidableEq, Repr

mutual

inductive Expr
  | boolOp (span : Span) (op : BoolOp) (values : List Expr)
  | named (span : Span) (target value : Expr)
  | binary (span : Span) (left : Expr) (op : BinaryOp) (right : Expr)
  | unary (span : Span) (op : UnaryOp) (operand : Expr)
  | lambda (span : Span) (parameters : Parameters) (body : Expr)
  | conditional (span : Span) (test body orElse : Expr)
  /-- A key is absent where another dictionary is unpacked. -/
  | dict (span : Span) (keys : List (Option Expr)) (values : List Expr)
  | set (span : Span) (items : List Expr)
  | listComp (span : Span) (item : Expr) (generators : List Comprehension)
  | setComp (span : Span) (item : Expr) (generators : List Comprehension)
  | dictComp (span : Span) (key value : Expr) (generators : List Comprehension)
  | generator (span : Span) (item : Expr) (generators : List Comprehension)
  | await (span : Span) (value : Expr)
  | yield (span : Span) (value : Option Expr)
  | yieldFrom (span : Span) (value : Expr)
  | compare (span : Span) (left : Expr) (ops : List Comparison) (rights : List Expr)
  | call (span : Span) (function : Expr) (arguments : List Expr) (keywords : List Keyword)
  /-- A replacement field of a formatted literal. The conversion is the code of `s`, `r` or
  `a`, or -1. -/
  | formatted (span : Span) (value : Expr) (conversion : Int) (spec : Option Expr)
  | joined (span : Span) (parts : List Expr)
  /-- A literal; `marked` records a leading `u` of a text. -/
  | constant (span : Span) (value : Constant) (marked : Bool)
  | member (span : Span) (value : Expr) (name : Text) (use : Use)
  | subscript (span : Span) (value index : Expr) (use : Use)
  | starred (span : Span) (value : Expr) (use : Use)
  | name (span : Span) (id : Text) (use : Use)
  | list (span : Span) (items : List Expr) (use : Use)
  | tuple (span : Span) (items : List Expr) (use : Use)
  | slice (span : Span) (lower upper step : Option Expr)

inductive Comprehension
  | mk (target iterable : Expr) (conditions : List Expr) (isAsync : Bool)

inductive Keyword
  | mk (span : Span) (name : Option Text) (value : Expr)

inductive Parameter
  | mk (span : Span) (name : Text) (typeHint : Option Expr) (typeComment : Option Text)

/-- The parameters of a function. Defaults belong to the last positional ones; every
keyword-only parameter has a place in `keywordDefaults`, absent where it has no default. -/
inductive Parameters
  | mk (positionalOnly positional : List Parameter) (rest : Option Parameter)
      (keywordOnly : List Parameter) (keywordDefaults : List (Option Expr))
      (keywordRest : Option Parameter) (defaults : List Expr)

end

instance : Inhabited Expr := ⟨.constant default .none false⟩

namespace Expr

def span : Expr → Span
  | boolOp s .. | named s .. | binary s .. | unary s .. | lambda s .. | conditional s ..
  | dict s .. | set s .. | listComp s .. | setComp s .. | dictComp s .. | generator s ..
  | await s .. | yield s .. | yieldFrom s .. | compare s .. | call s .. | formatted s ..
  | joined s .. | constant s .. | member s .. | subscript s .. | starred s .. | name s ..
  | list s .. | tuple s .. | slice s .. => s

end Expr

inductive Pattern
  | value (span : Span) (value : Expr)
  | singleton (span : Span) (value : Constant)
  | sequence (span : Span) (patterns : List Pattern)
  | mapping (span : Span) (keys : List Expr) (patterns : List Pattern) (rest : Option Text)
  | ofClass (span : Span) (cls : Expr) (patterns : List Pattern) (names : List Text)
      (namedPatterns : List Pattern)
  | star (span : Span) (name : Option Text)
  | capture (span : Span) (pattern : Option Pattern) (name : Option Text)
  | or (span : Span) (patterns : List Pattern)

structure Alias where
  span : Span
  name : Text
  asName : Option Text

structure WithItem where
  context : Expr
  target : Option Expr

mutual

inductive Stmt
  | functionDef (span : Span) (isAsync : Bool) (name : Text) (parameters : Parameters)
      (body : List Stmt) (decorators : List Expr) (returns : Option Expr)
      (typeComment : Option Text)
  | classDef (span : Span) (name : Text) (bases : List Expr) (keywords : List Keyword)
      (body : List Stmt) (decorators : List Expr)
  | returning (span : Span) (value : Option Expr)
  | delete (span : Span) (targets : List Expr)
  | assign (span : Span) (targets : List Expr) (value : Expr) (typeComment : Option Text)
  | augAssign (span : Span) (target : Expr) (op : BinaryOp) (value : Expr)
  /-- `isSimple` holds for a bare name outside parentheses. -/
  | annAssign (span : Span) (target typeHint : Expr) (value : Option Expr) (isSimple : Bool)
  | forLoop (span : Span) (isAsync : Bool) (target iterable : Expr) (body orElse : List Stmt)
      (typeComment : Option Text)
  | whileLoop (span : Span) (test : Expr) (body orElse : List Stmt)
  | conditional (span : Span) (test : Expr) (body orElse : List Stmt)
  | within (span : Span) (isAsync : Bool) (items : List WithItem) (body : List Stmt)
      (typeComment : Option Text)
  | matching (span : Span) (subject : Expr) (cases : List MatchCase)
  | raise (span : Span) (exception cause : Option Expr)
  /-- `isStar` holds when the handlers are for groups of exceptions. -/
  | trying (span : Span) (isStar : Bool) (body : List Stmt) (handlers : List Handler)
      (orElse finalBody : List Stmt)
  | assert (span : Span) (test : Expr) (message : Option Expr)
  | importing (span : Span) (names : List Alias)
  | importFrom (span : Span) (origin : Option Text) (names : List Alias) (level : Nat)
  | global (span : Span) (names : List Text)
  | nonlocal (span : Span) (names : List Text)
  | expr (span : Span) (value : Expr)
  | pass (span : Span)
  | breaking (span : Span)
  | continuing (span : Span)

inductive Handler
  | mk (span : Span) (exception : Option Expr) (name : Option Text) (body : List Stmt)

inductive MatchCase
  | mk (pattern : Pattern) (guard : Option Expr) (body : List Stmt)

end

/-- A comment that asks a type checker to be silent about its line. -/
structure TypeIgnore where
  line : Nat
  tag : Text
  deriving DecidableEq, Repr

structure Module where
  body : List Stmt
  typeIgnores : List TypeIgnore

end SourceLedger.Syntax
