import SourceLedger.Grammar.Rules

/-!
# Targets

What can stand to the left of an assignment is first read as an expression and then turned into
a target: names, attributes, subscripts, and displays of these.
-/

namespace SourceLedger.Syntax.Expr

mutual

/-- The expression as a target of an assignment. An unpacked target must not be unpacked
twice. -/
def asTarget? : Expr → Option Expr
  | .name s id _ => some (.name s id .store)
  | .member s value attr _ => some (.member s value attr .store)
  | .subscript s value index _ => some (.subscript s value index .store)
  | .starred _ (.starred ..) _ => none
  | .starred s value _ => (asTarget? value).map fun v => .starred s v .store
  | .list s items _ => (asTargets? items).map fun es => .list s es .store
  | .tuple s items _ => (asTargets? items).map fun es => .tuple s es .store
  | _ => none

def asTargets? : List Expr → Option (List Expr)
  | [] => some []
  | e :: es => do return (← asTarget? e) :: (← asTargets? es)

end

mutual

/-- The expression as something to delete. -/
def asDeleted? : Expr → Option Expr
  | .name s id _ => some (.name s id .delete)
  | .member s value attr _ => some (.member s value attr .delete)
  | .subscript s value index _ => some (.subscript s value index .delete)
  | .list s items _ => (allDeleted? items).map fun es => .list s es .delete
  | .tuple s items _ => (allDeleted? items).map fun es => .tuple s es .delete
  | _ => none

def allDeleted? : List Expr → Option (List Expr)
  | [] => some []
  | e :: es => do return (← asDeleted? e) :: (← allDeleted? es)

end

/-- The expression as the target of an assignment that takes a single one. -/
def asSingleTarget? : Expr → Option Expr
  | .name s id _ => some (.name s id .store)
  | .member s value attr _ => some (.member s value attr .store)
  | .subscript s value index _ => some (.subscript s value index .store)
  | _ => none

end SourceLedger.Syntax.Expr

namespace SourceLedger.Grammar

open Syntax (Expr)

def ofOption (e : Option α) : Rule α :=
  match e with
  | some a => pure a
  | none => mismatch

/-- A target that ends before `in`: its parts are read as primaries. -/
def target (r : Rules) : Rule Expr := do
  let start ← here
  if ← acceptSymbol .star then
    let value ← r.primary
    match value.asTarget? with
    | some v => return .starred (← spanFrom start) v .store
    | none => mismatch
  else ofOption (← r.primary).asTarget?

/-- One or more targets; several of them make a tuple. -/
def targets (r : Rules) : Rule Expr := do
  let start ← here
  let first ← target r
  let (items, isTuple) ← commaSeparated beginsItem (target r) first
  if isTuple then return .tuple (← spanFrom start) items .store else return first

end SourceLedger.Grammar
