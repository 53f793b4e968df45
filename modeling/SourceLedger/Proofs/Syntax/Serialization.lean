import SourceLedger.Parsing
import SourceLedger.Proofs.Results
import SourceLedger.Proofs.Value.Distinct

/-!
# What serialising trees makes

The parts of a node are written into its table one after another, the class name among them, so
that a part of the same name takes its place. The tables of a tree have distinct keys for that
reason alone.
-/

namespace SourceLedger

open Value (distinct_list)

namespace Syntax

theorem Constant.distinct_toValue (c : Constant) : c.toValue.Distinct := by
  cases c with
  | real x =>
      rw [Constant.toValue]
      split_ifs <;> simp [Value.Distinct]
  | _ => simp [Constant.toValue, Value.Distinct]

theorem Position.distinct_toValue (p : Position) : p.toValue.Distinct := by
  have apart : ("line" : Text) ≠ "column" := by decide
  simp [Position.toValue, Value.Distinct, Entries.keys, apart]

theorem Span.distinct_toValue (s : Span) : s.toValue.Distinct := by
  have start := s.start.distinct_toValue
  have stop := s.stop.distinct_toValue
  have apart : ("start" : Text) ≠ "end" := by decide
  simp [Span.toValue, Entries.keys, apart, start, stop]

namespace Outline

variable {locations : Bool}

theorem distinct_withPlace {place : Option Span} {es : Value.Table}
    (h : Value.Table.Distinct es) : Value.Table.Distinct (withPlace locations place es) := by
  unfold withPlace
  split
  · exact h.put "loc" (Span.distinct_toValue _)
  · exact h

theorem withPlace_ne_nil {place : Option Span} {es : Value.Table} (h : es ≠ []) :
    withPlace locations place es ≠ [] := by
  unfold withPlace
  split
  · exact Entries.put_ne_nil _ _ _
  · exact h

mutual

theorem distinct_toValue (locations : Bool) (o : Outline) : (o.toValue locations).Distinct := by
  match o with
  | .constant c =>
      rw [toValue]
      exact c.distinct_toValue
  | .many items =>
      rw [toValue]
      exact distinct_list.mpr (distinct_itemValues locations items)
  | .node className place parts =>
      rw [toValue]
      refine distinct_withPlace
        (Value.Table.Distinct.update ?_ (distinct_partValues locations parts))
      simp [Value.Table.Distinct, Entries.keys]

theorem distinct_itemValues (locations : Bool) (items : List Outline) :
    ∀ v ∈ itemValues locations items, v.Distinct := by
  match items with
  | [] => simp [itemValues]
  | item :: rest =>
      rw [itemValues, List.forall_mem_cons]
      exact ⟨distinct_toValue locations item, distinct_itemValues locations rest⟩

theorem distinct_partValues (locations : Bool) (parts : List (String × Outline)) :
    ∀ e ∈ partValues locations parts, e.2.Distinct := by
  match parts with
  | [] => simp [partValues]
  | (name, part) :: rest =>
      rw [partValues, List.forall_mem_cons]
      exact ⟨distinct_toValue locations part, distinct_partValues locations rest⟩

end

end Outline

end Syntax

namespace Parsing

variable {options : ParseOptions} {source filename : Text} {v : Value}

/-- The value of a source is that of its tree. -/
theorem parse_eq_ok (h : parse options source filename = .ok v) :
    ∃ m : Syntax.Module, tree options source filename = .ok m ∧
      v = m.outline.toValue options.locations := by
  obtain ⟨m, read, h⟩ := bind_eq_ok h
  simp only at h
  split_ifs at h
  cases h
  exact ⟨m, read, rfl⟩

theorem distinct_parse (h : parse options source filename = .ok v) : v.Distinct := by
  obtain ⟨m, -, rfl⟩ := parse_eq_ok h
  exact Syntax.Outline.distinct_toValue _ _

/-- A tree is a table that is not empty, and so it is told from one that is not set. -/
theorem exists_table_of_parse (h : parse options source filename = .ok v) :
    ∃ es : Value.Table, v = .table es ∧ es ≠ [] := by
  obtain ⟨m, -, rfl⟩ := parse_eq_ok h
  rw [Syntax.Module.outline, Syntax.Outline.toValue]
  exact ⟨_, rfl, Syntax.Outline.withPlace_ne_nil (Entries.update_ne_nil (List.cons_ne_nil _ _) _)⟩

theorem parse_ne_null (h : parse options source filename = .ok v) : v ≠ .null := by
  obtain ⟨es, rfl, _⟩ := exists_table_of_parse h
  exact nofun

end Parsing

end SourceLedger
