import SourceLedger.Proofs.Value.Inherited
import SourceLedger.Value.Lookup

/-!
# Distinct keys

In memory a table is a list of entries, and nothing in its type keeps a key from occurring twice.
No value that the program makes does so: `Distinct` says that at every depth the keys of a table
are different, and the operations on tables keep it.
-/

namespace SourceLedger

namespace Value

mutual

/-- In every table of a value no key occurs twice. -/
def Distinct : Value → Prop
  | .list items => DistinctItems items
  | .table entries => (Entries.keys entries).Nodup ∧ DistinctEntries entries
  | _ => True

def DistinctItems : List Value → Prop
  | [] => True
  | v :: rest => Distinct v ∧ DistinctItems rest

def DistinctEntries : List (Text × Value) → Prop
  | [] => True
  | (_, v) :: rest => Distinct v ∧ DistinctEntries rest

end

theorem distinctItems_iff {items : List Value} :
    DistinctItems items ↔ ∀ v ∈ items, v.Distinct := by
  induction items with
  | nil => exact iff_of_true trivial nofun
  | cons v rest ih =>
      rw [List.forall_mem_cons, ← ih]
      rfl

theorem distinctEntries_iff {entries : List (Text × Value)} :
    DistinctEntries entries ↔ ∀ e ∈ entries, e.2.Distinct := by
  induction entries with
  | nil => exact iff_of_true trivial nofun
  | cons e rest ih =>
      rw [List.forall_mem_cons, ← ih]
      rfl

@[simp] theorem distinct_list {items : List Value} :
    (Value.list items).Distinct ↔ ∀ v ∈ items, v.Distinct :=
  distinctItems_iff

@[simp] theorem distinct_table {entries : List (Text × Value)} :
    (Value.table entries).Distinct ↔
      (Entries.keys entries).Nodup ∧ ∀ e ∈ entries, e.2.Distinct :=
  and_congr_right fun _ => distinctEntries_iff

@[simp] theorem distinct_text (t : Text) : (Value.text t).Distinct := trivial

@[simp] theorem distinct_null : Value.null.Distinct := trivial

end Value

namespace Value.Table

/-- The keys of a table and of all tables within it are different. -/
def Distinct (es : Value.Table) : Prop := (Value.table es).Distinct

variable {es later : Value.Table}

theorem Distinct.nodup (h : Distinct es) : (Entries.keys es).Nodup := (distinct_table.mp h).1

theorem Distinct.value (h : Distinct es) {e : Text × Value} (he : e ∈ es) : e.2.Distinct :=
  (distinct_table.mp h).2 e he

theorem Distinct.get? (h : Distinct es) {key : Text} {v : Value}
    (hv : Entries.get? es key = some v) : v.Distinct := h.value (Entries.mem_of_get? hv)

@[simp] theorem distinct_nil : Distinct [] := by simp [Distinct]

theorem Distinct.put (h : Distinct es) (key : Text) {v : Value} (hv : v.Distinct) :
    Distinct (Entries.put es key v) := by
  refine distinct_table.mpr ⟨Entries.nodup_put h.nodup key v, fun e he => ?_⟩
  rcases Entries.mem_put he with he | rfl
  · exact h.value he
  · exact hv

theorem Distinct.update (h : Distinct es) (hl : ∀ e ∈ later, e.2.Distinct) :
    Distinct (Entries.update es later) := by
  refine distinct_table.mpr ⟨Entries.nodup_update h.nodup later, fun e he => ?_⟩
  rcases Entries.mem_update he with he | he
  · exact h.value he
  · exact hl e he

theorem distinct_ofList (hl : ∀ e ∈ later, e.2.Distinct) : Distinct (Entries.ofList later) :=
  distinct_nil.update hl

theorem Distinct.putDefault (h : Distinct es) (key : Text) {v : Value} (hv : v.Distinct) :
    Distinct (Entries.putDefault es key v) := by
  unfold Entries.putDefault
  split_ifs
  · exact h
  · exact h.put key hv

end Value.Table

namespace Value

theorem distinct_inherited : Inherited (fun _ => True) Distinct where
  list := distinct_list
  empty := Table.distinct_nil
  put table _ value := Table.Distinct.put table _ value
  entry table mem := ⟨trivial, Table.Distinct.value table mem⟩

end Value

end SourceLedger
