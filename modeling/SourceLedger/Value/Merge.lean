import SourceLedger.Value.Basic

/-!
# Deep merge

Where both sides hold a table the tables are merged; anywhere else the override replaces the
base. Keys keep the order of the base, and new keys follow in the order of the override.
-/

namespace SourceLedger.Value

mutual

/-- The value that results from laying `override` over `base`. -/
def overlay (base : Option Value) (override : Value) : Value :=
  match base, override with
  | some (.table es), .table later => .table (overlayEntries es later)
  | _, other => other

/-- Lays the entries of a table over those of another, one after another. -/
def overlayEntries (base : List (Text × Value)) : List (Text × Value) → List (Text × Value)
  | [] => base
  | (k, v) :: rest =>
    overlayEntries (Entries.put base k (overlay (Entries.get? base k) v)) rest

end

/-- Deep merge of two tables. Whether they can be copied for it is up to the caller. -/
def merge (base override : Table) : Table := overlayEntries base override

end SourceLedger.Value
