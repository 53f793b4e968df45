import SourceLedger.Item

/-!
# Identities

An identity is a text of twelve hexadecimal digits that no item had before. Identities come
from a supply that never gives the same one twice within its period.
-/

namespace SourceLedger

/-- A supply of identities: those from the number `next` on. -/
structure IdSupply where
  next : Nat
  deriving Repr

namespace IdSupply

def width : Nat := 12

-- Powers are those of the core library, whatever else is imported.
attribute [local instance (high)] instPowNat

/-- The number of different identities. -/
def period : Nat := 16 ^ width

def idOf (n : Nat) : Text := Text.ofChars (Numeral.hex width (n % period))

def take (s : IdSupply) : Text × IdSupply := (idOf s.next, ⟨s.next + 1⟩)

end IdSupply

namespace Items

/-- Writes a new item for each path over earlier ones of the same path. -/
def createOver (workingDirectory : Text) (items : Items) (supply : IdSupply) :
    List Text → Items × IdSupply
  | [] => (items, supply)
  | path :: rest =>
    let (id, supply) := supply.take
    createOver workingDirectory (items.put path (Item.create id workingDirectory path)) supply
      rest

/-- New items for paths that were found from a working directory, each with a new identity. -/
def create (workingDirectory : Text) (paths : List Text) (supply : IdSupply) :
    Items × IdSupply :=
  createOver workingDirectory [] supply paths

end Items

end SourceLedger
