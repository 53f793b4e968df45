import SourceLedger.Proofs.Value.Inherited

/-!
# Scalar values

A text of a literal or a document can have half of a surrogate pair in it, and then it has no bytes.
A value is scalar if that is so of none of its texts, keys included.
-/

namespace SourceLedger

theorem Text.isScalar_ofChars (cs : List Char) : (Text.ofChars cs).isScalar = true := by
  rw [isScalar, ofChars, List.all_map, List.all_eq_true]
  intro c _
  rfl

namespace Value

mutual

/-- No text in a value has a surrogate. -/
def Scalar : Value → Prop
  | .text t => t.isScalar = true
  | .list items => ScalarItems items
  | .table entries => ScalarEntries entries
  | _ => True

def ScalarItems : List Value → Prop
  | [] => True
  | v :: rest => Scalar v ∧ ScalarItems rest

def ScalarEntries : List (Text × Value) → Prop
  | [] => True
  | (key, v) :: rest => (key.isScalar = true ∧ Scalar v) ∧ ScalarEntries rest

end

theorem scalar_list {items : List Value} : (Value.list items).Scalar ↔ ∀ v ∈ items, v.Scalar := by
  rw [Scalar]
  induction items with
  | nil => simp [ScalarItems]
  | cons v rest ih => simp [ScalarItems, ih]

theorem scalar_table {entries : List (Text × Value)} :
    (Value.table entries).Scalar ↔ ∀ e ∈ entries, e.1.isScalar = true ∧ e.2.Scalar := by
  rw [Scalar]
  induction entries with
  | nil => simp [ScalarEntries]
  | cons e rest ih =>
      obtain ⟨key, v⟩ := e
      simp [ScalarEntries, ih]

theorem scalar_inherited : Inherited (fun t => t.isScalar = true) Scalar where
  list := scalar_list
  empty := trivial
  put {es key v} table name value := by
    refine scalar_table.mpr fun e he => ?_
    rcases Entries.mem_put he with he | rfl
    · exact scalar_table.mp table e he
    · exact ⟨name, value⟩
  entry table mem := scalar_table.mp table _ mem

end Value

end SourceLedger
