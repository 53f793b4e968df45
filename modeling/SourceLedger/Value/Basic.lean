import SourceLedger.Binary64.Shortest
import SourceLedger.Entries
import SourceLedger.Moment

/-!
# Values

The values that configuration files and documents are made of. One type serves both, so that
a configuration can be kept in a document; moments can be read from a configuration but have
no form in a document.
-/

namespace SourceLedger

inductive Value
  | null
  | bool (b : Bool)
  | int (n : Int)
  | real (x : Binary64)
  | text (t : Text)
  | moment (m : Moment)
  | list (items : List Value)
  | table (entries : List (Text × Value))
  deriving Inhabited

namespace Value

abbrev Table := Entries Value

instance : Coe Text Value := ⟨.text⟩

def isTable : Value → Bool
  | .table _ => true
  | _ => false

def asTable? : Value → Option Table
  | .table es => some es
  | _ => none

def asText? : Value → Option Text
  | .text t => some t
  | _ => none

mutual

/-- How many lists and tables stand one within the other. -/
def nesting : Value → Nat
  | .list items => nestingOfItems items + 1
  | .table entries => nestingOfEntries entries + 1
  | _ => 0

def nestingOfItems : List Value → Nat
  | [] => 0
  | v :: rest => max (nesting v) (nestingOfItems rest)

def nestingOfEntries : List (Text × Value) → Nat
  | [] => 0
  | (_, v) :: rest => max (nesting v) (nestingOfEntries rest)

end

/-- Zero, the empty text, the empty containers, `null` and `false` count as empty. -/
def isEmpty : Value → Bool
  | .null => true
  | .bool b => !b
  | .int n => n == 0
  | .real x => x.equals (Binary64.zero false)
  | .text t => t.isEmpty
  | .moment _ => false
  | .list items => items.isEmpty
  | .table entries => entries.isEmpty

end Value

end SourceLedger
