import SourceLedger.Proofs.Json.RoundTrip
import SourceLedger.Proofs.Results

/-!
# What the reader of documents fails with

The reader of documents refuses an integer only for having more digits than are read, as the reader
of configurations does. That its items are read by a reader that does so is all that a container
asks for. And a text of so many digits is refused.
-/

namespace SourceLedger.Json

/-- Integers that are refused have more digits than are read. -/
def Fault.Due : Fault → Prop
  | .longInteger digits => Numeral.maxDigits < digits
  | _ => True

variable {α : Type}

@[simp] theorem failsBy_failAt (complaint : Complaint) (rest : List Char) :
    FailsBy Fault.Due (failAt complaint rest : Except Fault α) := trivial

@[simp] theorem due_malformed (complaint : Complaint) (remaining : Nat) :
    (Fault.malformed complaint remaining).Due := trivial

@[simp] theorem due_tooDeep : Fault.tooDeep.Due := trivial

namespace Read

theorem escape_due (opening s : List Char) : FailsBy Fault.Due (escape opening s) := by
  unfold escape
  split
  · simp
  · split_ifs
    · split <;> simp
    · simp
  · split <;> simp

theorem characters_due (opening s : List Char) : FailsBy Fault.Due (characters opening s) := by
  fun_induction characters opening s with
  | case3 rest f failed => exact (escape_due opening rest).of_eq failed
  | case4 _ _ _ _ ih => simpa using ih
  | case6 => simpa
  | _ => simp

theorem text_due (s : List Char) : FailsBy Fault.Due (text s) :=
  failsBy_map.mpr (characters_due _ _)

theorem integer_due (negative : Bool) (digits : List Char) :
    FailsBy Fault.Due (integer negative digits) := by
  unfold integer
  split
  · next long => exact long
  · exact failsBy_ok _

theorem unsigned_due (negative : Bool) (start s : List Char) :
    FailsBy Fault.Due (unsigned negative start s) := by
  unfold unsigned
  dsimp only
  split_ifs
  · simp
  · exact failsBy_bind (integer_due _ _) fun _ => failsBy_ok _
  · exact failsBy_ok _

theorem atom_due (s : List Char) : FailsBy Fault.Due (atom s) := by
  unfold atom
  split
  · exact failsBy_map.mpr (text_due _)
  · split
    · simp
    · unfold number
      split <;> exact unsigned_due _ _ _

section Containers

variable {item : Reader α} (due : ∀ s, FailsBy Fault.Due (item s)) (close : Char)
include due

theorem separated_due (s : List Char) : FailsBy Fault.Due (separated item close s) := by
  fun_induction separated item close s with
  | case1 s f failed => exact (due s).of_eq failed
  | case4 => simpa
  | _ => simp

theorem enclosed_due (s : List Char) : FailsBy Fault.Due (enclosed item close s) := by
  unfold enclosed
  split
  · exact failsBy_map.mpr (due _)
  · split_ifs
    · simp
    · exact separated_due due close _

end Containers

theorem entry_due {value : Reader Value} (due : ∀ s, FailsBy Fault.Due (value s)) (s : List Char) :
    FailsBy Fault.Due (entry value s) := by
  unfold entry
  split
  · refine failsBy_bind (text_due _) fun ⟨key, rest⟩ => ?_
    dsimp only
    split
    · exact failsBy_bind (due _) fun _ => failsBy_ok _
    · simp
  · simp

theorem value_due (depth : Nat) (s : List Char) : FailsBy Fault.Due (value depth s) := by
  induction depth using Nat.strongRecOn generalizing s with
  | ind depth ih =>
      unfold value
      split
      · simp
      · simp
      · next depth tail => exact failsBy_map.mpr (enclosed_due (ih depth (by omega)) _ _)
      · next depth tail =>
        exact failsBy_map.mpr (enclosed_due (entry_due (ih depth (by omega))) _ _)
      · exact atom_due _

end Read

/-- An integer that is refused for its length has more digits than are read. -/
theorem lt_of_longInteger {s : List Char} {digits : Nat}
    (h : read s = .error (.longInteger digits)) : Numeral.maxDigits < digits := by
  have due : FailsBy Fault.Due (read s) := by
    unfold read
    split
    · simp
    · refine failsBy_bind (Read.value_due maxDepth _) fun ⟨v, rest⟩ => ?_
      dsimp only
      split <;> simp [pure, Except.pure]
  exact due.of_eq h

section Many

open Numeral (digitChar)

variable {ds : List ℕ}

theorem Read.unsigned_of_many (lt : ∀ d ∈ ds, d < 10) (leading : ds.head? ≠ some 0)
    (many : Numeral.maxDigits < ds.length) (negative : Bool) (start : List Char) :
    unsigned negative start (ds.map digitChar) = .error (.longInteger ds.length) := by
  have whole : wholeLength (ds.map digitChar) = ds.length := by
    rw [← List.append_nil (ds.map digitChar)]
    exact wholeLength_eq lt (Or.inr leading) nofun
  have all : (ds.map digitChar).length = ds.length := List.length_map _
  have some : ds.length ≠ 0 := by
    rintro none
    rw [none] at many
    exact Nat.not_lt_zero _ many
  have behind : (ds.map digitChar).drop ds.length = [] := by simp
  have digits : (ds.map digitChar).take ds.length = ds.map digitChar := by simp
  simp only [unsigned, whole, if_neg some, behind, fractionLength, Nat.add_zero, exponentLength,
    if_true, digits, integer, all, if_pos many]
  rfl

/-- An integer of more digits than are read is refused. -/
theorem read_of_many (lt : ∀ d ∈ ds, d < 10) (leading : ds.head? ≠ some 0)
    (many : Numeral.maxDigits < ds.length) :
    read (ds.map digitChar) = .error (.longInteger ds.length) := by
  have refused := Read.unsigned_of_many lt leading many false (ds.map digitChar)
  cases ds with
  | nil => exact absurd many (Nat.not_lt_zero _)
  | cons d ds =>
      have small : d < 10 := lt d List.mem_cons_self
      have apart : ∀ d < 10, digitChar d ≠ '[' ∧ digitChar d ≠ '\x7b' ∧ digitChar d ≠ '\ufeff' := by
        decide
      obtain ⟨bracket, brace, mark⟩ := apart d small
      rw [List.map_cons] at refused ⊢
      rw [← Read.atom_digit d small, ← Read.value_eq_atom maxDepth] at refused
      · unfold read
        split
        · next same => exact absurd (List.cons.inj same).1 mark
        · rw [skipBlanks_of_start (Read.starts_digit d small).1.not_blank, refused]
          rfl
      · rintro c ⟨rfl⟩
        exact ⟨bracket, brace⟩

end Many

end SourceLedger.Json
