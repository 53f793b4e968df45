import SourceLedger.Proofs.Value.Inherited

/-!
# How deeply values are nested

Copying and writing a value go down into it, and there is a limit to that. A merge puts values only
where one of its two sides has one, so it is nested no more deeply than both.
-/

namespace SourceLedger.Value

variable {n : Nat}

theorem nestingOfEntries_le_iff {entries : List (Text × Value)} :
    nestingOfEntries entries ≤ n ↔ ∀ e ∈ entries, e.2.nesting ≤ n := by
  induction entries with
  | nil => simp [nestingOfEntries]
  | cons e rest ih =>
      obtain ⟨key, v⟩ := e
      rw [nestingOfEntries, Nat.max_le, ih, List.forall_mem_cons]

theorem nesting_of_mem {entries : List (Text × Value)} {e : Text × Value}
    (table : (Value.table entries).nesting ≤ n + 1) (mem : e ∈ entries) : e.2.nesting ≤ n := by
  rw [nesting, Nat.add_le_add_iff_right] at table
  exact nestingOfEntries_le_iff.mp table e mem

theorem nesting_layered : Layered (fun _ => True) fun n v => v.nesting ≤ n where
  put {n es key v} table _ value := by
    rw [nesting] at table ⊢
    have old := nestingOfEntries_le_iff.mp (Nat.le_sub_of_add_le table)
    have all : nestingOfEntries (Entries.put es key v) ≤ n - 1 := by
      refine nestingOfEntries_le_iff.mpr fun e he => ?_
      rcases Entries.mem_put he with mem | rfl
      · exact old e mem
      · exact value
    omega
  entry {n es _} table mem := by
    have room : (Value.table es).nesting ≤ n - 1 + 1 := by omega
    exact ⟨trivial, nesting_of_mem room mem⟩

end SourceLedger.Value
