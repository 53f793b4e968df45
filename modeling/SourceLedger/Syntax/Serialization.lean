import SourceLedger.Syntax.Outline
import SourceLedger.Text.Quoted
import SourceLedger.Value.Basic

/-!
# Trees as values

A node becomes a table: its class name under `type`, then each part under its name, and with
`locations` the span of a node that has one under `loc`. A part that is itself called `type`
takes the place of the class name. Constants without a counterpart among values are written as
literals.

Two limits apply. A tree of more than `maxHeight` nodes in depth is refused before it is
serialised, and serialising it may not descend more than `maxDescent` steps.
-/

namespace SourceLedger.Syntax

namespace Constant

/-- The value of a constant; a constant that values cannot express becomes its literal. -/
def toValue : Constant → Value
  | .none => .null
  | .bool b => .bool b
  | .int n => .int n
  | .real x => if x.isFinite then .real x else .text x.toText
  | .imaginary x => .text (x.render .imaginary ++ "j")
  | .text t => .text t
  | .bytes bs => .text (Quoted.bytes bs)
  | .ellipsis => .text "Ellipsis"

end Constant

namespace Position

def toValue (p : Position) : Value :=
  .table [("line", .int p.line), ("column", .int p.column)]

end Position

namespace Span

def toValue (s : Span) : Value :=
  .table [("start", s.start.toValue), ("end", s.stop.toValue)]

end Span

namespace Outline

/-- The entry for the place of a node, if it is wanted and known. -/
def withPlace (locations : Bool) (place : Option Span) (es : Value.Table) :
    Value.Table :=
  match locations, place with
  | true, some s => Entries.put es "loc" s.toValue
  | _, _ => es

mutual

def toValue (locations : Bool) : Outline → Value
  | .constant c => c.toValue
  | .many items => .list (itemValues locations items)
  | .node className place parts =>
    .table <| withPlace locations place <|
      Entries.update [("type", .text className)] (partValues locations parts)

def itemValues (locations : Bool) : List Outline → List Value
  | [] => []
  | item :: rest => toValue locations item :: itemValues locations rest

def partValues (locations : Bool) : List (String × Outline) → List (Text × Value)
  | [] => []
  | (name, part) :: rest => (name, toValue locations part) :: partValues locations rest

end

mutual

/-- The greatest number of nodes below one another. -/
def height : Outline → Nat
  | .constant _ => 0
  | .many items => itemsHeight items
  | .node _ _ parts => partsHeight parts + 1

def itemsHeight : List Outline → Nat
  | [] => 0
  | item :: rest => max (height item) (itemsHeight rest)

def partsHeight : List (String × Outline) → Nat
  | [] => 0
  | (_, part) :: rest => max (height part) (partsHeight rest)

end

mutual

/-- The number of steps by which serialising descends: two for a node and two for a list. -/
def descent : Outline → Nat
  | .constant _ => 2
  | .many items => itemsDescent items + 2
  | .node _ _ parts => partsDescent parts + 2

def itemsDescent : List Outline → Nat
  | [] => 0
  | item :: rest => max (descent item) (itemsDescent rest)

def partsDescent : List (String × Outline) → Nat
  | [] => 0
  | (_, part) :: rest => max (descent part) (partsDescent rest)

end

/-- The greatest height of a tree that can be built at all. -/
def maxHeight : Nat := 2970

/-- The greatest descent within which a tree is serialised. -/
def maxDescent : Nat := 985

end Outline

end SourceLedger.Syntax
