import SourceLedger.Proofs.Entries
import SourceLedger.Value.Merge

/-!
# Inherited properties

A property of values is inherited if a container has it whenever what is in the container has it,
and passes it on to that. Whatever puts values together entry by entry keeps such a property. A
merge also keeps one that changes from level to level, such as a bound on the nesting.
-/

namespace SourceLedger.Value

/-- A property that containers have from their items and entries, where the keys are of a kind. -/
structure Inherited (named : Text → Prop) (P : Value → Prop) : Prop where
  list {items : List Value} : P (.list items) ↔ ∀ v ∈ items, P v
  empty : P (.table [])
  put {es : Table} {key : Text} {v : Value} (table : P (.table es)) (name : named key)
    (value : P v) : P (.table (Entries.put es key v))
  entry {es : Table} {e : Text × Value} (table : P (.table es)) (mem : e ∈ es) : named e.1 ∧ P e.2

variable {named : Text → Prop} {P : Value → Prop}

namespace Inherited

theorem get? (inherited : Inherited named P) {es : Table} {key : Text} {v : Value}
    (table : P (.table es)) (found : Entries.get? es key = some v) : P v :=
  (inherited.entry table (Entries.mem_of_get? found)).2

end Inherited

/-- A property with a number of levels, which a table has where its entries have it with one level
less. -/
structure Layered (named : Text → Prop) (P : ℕ → Value → Prop) : Prop where
  put {n : ℕ} {es : Table} {key : Text} {v : Value} (table : P n (.table es)) (name : named key)
    (value : P (n - 1) v) : P n (.table (Entries.put es key v))
  entry {n : ℕ} {es : Table} {e : Text × Value} (table : P n (.table es)) (mem : e ∈ es) :
    named e.1 ∧ P (n - 1) e.2

theorem Inherited.layered (inherited : Inherited named P) : Layered named fun _ => P where
  put := inherited.put
  entry := inherited.entry

theorem eq_table_of_asTable? {v : Value} {es : Table} (h : v.asTable? = some es) :
    v = .table es := by
  cases v with
  | table later => exact congrArg table (Option.some.inj h)
  | _ => cases h

theorem overlay_table (base : Option Value) (later : List (Text × Value)) :
    overlay base (.table later) =
      .table ((base.bind asTable?).elim later (overlayEntries · later)) := by
  rcases base with _ | v
  · simp [overlay]
  · cases v <;> simp [overlay, asTable?]

theorem overlay_atom (base : Option Value) {override : Value} (h : override.asTable? = none) :
    overlay base override = override := by
  unfold overlay
  split
  · cases h
  · rfl

namespace Layered

variable {Q : ℕ → Value → Prop}

mutual

/-- What results from laying one value over another has a property that both have. -/
theorem overlay (layered : Layered named Q) (n : ℕ) (base : Option Value) (override : Value)
    (hb : ∀ v ∈ base, Q n v) (ho : Q n override) : Q n (Value.overlay base override) := by
  match override with
  | .table later =>
      rw [overlay_table]
      cases isTable : base.bind asTable? with
      | none => exact ho
      | some es =>
          obtain ⟨v, hv, hes⟩ := Option.bind_eq_some_iff.mp isTable
          obtain rfl := eq_table_of_asTable? hes
          exact layered.overlayEntries n es later (hb _ hv) fun e he => layered.entry ho he
  | .null | .bool _ | .int _ | .real _ | .text _ | .moment _ | .list _ =>
      rw [overlay_atom base rfl]
      exact ho

theorem overlayEntries (layered : Layered named Q) (n : ℕ) (base later : List (Text × Value))
    (hb : Q n (.table base)) (hl : ∀ e ∈ later, named e.1 ∧ Q (n - 1) e.2) :
    Q n (.table (Value.overlayEntries base later)) := by
  match later with
  | [] => rwa [Value.overlayEntries]
  | (k, v) :: rest =>
      rw [Value.overlayEntries]
      obtain ⟨name, hv⟩ := hl _ List.mem_cons_self
      have old : ∀ v ∈ Entries.get? base k, Q (n - 1) v := fun _ found =>
        (layered.entry hb (Entries.mem_of_get? found)).2
      have value := layered.overlay (n - 1) _ v old hv
      exact layered.overlayEntries n _ rest (layered.put hb name value) fun e he =>
        hl e (List.mem_cons_of_mem _ he)

end

theorem merge (layered : Layered named Q) (n : ℕ) {base override : Table}
    (hb : Q n (.table base)) (ho : Q n (.table override)) :
    Q n (.table (merge base override)) :=
  layered.overlayEntries n base override hb fun _ he => layered.entry ho he

end Layered

theorem Inherited.merge (inherited : Inherited named P) {base override : Table}
    (hb : P (.table base)) (ho : P (.table override)) : P (.table (merge base override)) :=
  inherited.layered.merge 0 hb ho

end SourceLedger.Value
