import Mathlib.Tactic.SplitIfs
import SourceLedger.Proofs.Results
import SourceLedger.Toml.Reading

/-!
# What the reader of configurations fails with

A reader complains about a place, or it stops because of the nesting, or it has come to an integer
of more digits than are read. No other integer is refused. Each reader fails with what the readers
that it goes through fail with, or with a complaint of its own, so `Due` goes up from `integer` to
the whole document.
-/

namespace SourceLedger.Toml

/-- Integers that are refused have more digits than are read. -/
def Fault.Due : Fault → Prop
  | .longInteger digits => Numeral.maxDigits < digits
  | _ => True

variable {α : Type}

@[simp] theorem failsBy_failAt (complaint : Complaint) (rest : List Char) :
    FailsBy Fault.Due (failAt complaint rest : Except Fault α) := trivial

@[simp] theorem due_tooDeep : Fault.tooDeep.Due := trivial

section Texts

theorem readUntil_due (delimiter : List Char) (isWrong : Char → Bool) (s : List Char) :
    FailsBy Fault.Due (readUntil delimiter isWrong s) := by
  unfold readUntil
  split
  · simp
  · split <;> simp

theorem skipComment_due (s : List Char) : FailsBy Fault.Due (skipComment s) := by
  unfold skipComment
  split
  · dsimp only
    split <;> simp
  · simp

theorem skipLines_due (s : List Char) : FailsBy Fault.Due (skipLines s) := by
  fun_induction skipLines s with
  | case1 => simp
  | case2 _ _ _ _ _ ih => exact ih
  | case3 => simp

theorem numbered_due (count : Nat) (s : List Char) : FailsBy Fault.Due (numbered count s) := by
  unfold numbered
  dsimp only
  split_ifs
  · simp
  · split
    · simp
    · split <;> simp

theorem escape_due (isLong : Bool) (s : List Char) : FailsBy Fault.Due (escape isLong s) := by
  unfold escape
  split
  · simp
  · split_ifs
    · unfold joinLines
      split <;> simp
    · exact numbered_due 4 _
    · exact numbered_due 8 _
    · split <;> simp

theorem basic_due (isLong : Bool) (s : List Char) : FailsBy Fault.Due (basic isLong s) := by
  fun_induction basic isLong s with
  | case2 rest f failed => exact (escape_due isLong rest).of_eq failed
  | case3 _ _ _ _ ih => simpa using ih
  | case6 _ _ _ ih => simpa using ih
  | case8 _ _ _ _ _ ih => simpa using ih
  | _ => simp

theorem basicText_due (s : List Char) : FailsBy Fault.Due (basicText s) :=
  failsBy_map.mpr (basic_due false _)

theorem literalText_due (s : List Char) : FailsBy Fault.Due (literalText s) :=
  failsBy_bind (readUntil_due _ _ _) fun _ => failsBy_ok _

theorem quotation_due {s : List Char} {r : Except Fault (Text × List Char)}
    (h : quotation? s = some r) : FailsBy Fault.Due r := by
  unfold quotation? at h
  split at h
  · cases h
    exact failsBy_bind (basic_due true _) fun _ => failsBy_ok _
  · cases h
    exact basicText_due _
  · cases h
    exact failsBy_bind (readUntil_due _ _ _) fun _ => failsBy_ok _
  · cases h
    exact literalText_due _
  · cases h

theorem keyPart_due (s : List Char) : FailsBy Fault.Due (keyPart s) := by
  unfold keyPart
  split
  · exact literalText_due _
  · exact basicText_due _
  · dsimp only
    split_ifs <;> simp

theorem key_due (s : List Char) : FailsBy Fault.Due (key s) := by
  fun_induction key s with
  | case1 s f failed => exact (keyPart_due s).of_eq failed
  | case2 _ _ _ _ _ _ _ _ ih => simpa using ih
  | _ => simp

end Texts

section Values

theorem integer_due (negative : Bool) (digits : List Char) :
    FailsBy Fault.Due (integer negative digits) := by
  unfold integer
  split
  · next long => exact long
  · exact failsBy_ok _

theorem number_due {s rest : List Char} {r : Except Fault Value}
    (h : number? s = some (r, rest)) : FailsBy Fault.Due r := by
  unfold number? at h
  split at h
  · cases h
    simp
  · split at h
    · next found =>
      cases h
      unfold decimal? at found
      simp only at found
      split_ifs at found <;> cases found
      · exact integer_due _ _
      · simp
    · obtain ⟨_, _, same⟩ := Option.map_eq_some_iff.mp h
      cases same
      simp

theorem moment_due {s rest : List Char} {r : Except Fault Value}
    (h : moment? s = some (r, rest)) : FailsBy Fault.Due r := by
  unfold moment? at h
  split at h
  · dsimp only at h
    cases h
    split_ifs <;> simp
  · obtain ⟨_, _, same⟩ := Option.map_eq_some_iff.mp h
    cases same
    simp

theorem atom_due (s : List Char) : FailsBy Fault.Due (atom s) := by
  unfold atom
  split
  · next found quoted => exact failsBy_map.mpr (quotation_due quoted)
  · split
    · next r rest found =>
      rw [failsBy_map]
      simp only [Option.orElse_eq_or, Option.orElse_eq_orElse, Option.or_eq_some_iff] at found
      rcases found with (found | ⟨_, found⟩) | ⟨_, found⟩
      · obtain ⟨_, _, same⟩ := Option.map_eq_some_iff.mp found
        cases same
        simp
      · exact moment_due found
      · exact number_due found
    · simp

variable {read : Reader Value} (due : ∀ s, FailsBy Fault.Due (read s))
include due

theorem arrayItems_due (s : List Char) : FailsBy Fault.Due (arrayItems read s) := by
  fun_induction arrayItems read s with
  | case1 s f failed => exact (due s).of_eq failed
  | case2 s v rest _ f failed => exact (skipLines_due rest).of_eq failed
  | case4 s v rest _ after _ f failed => exact (skipLines_due after).of_eq failed
  | case6 _ _ _ _ _ _ _ _ _ _ ih => simpa using ih
  | _ => simp

theorem array_due (s : List Char) : FailsBy Fault.Due (array read s) := by
  refine failsBy_bind (skipLines_due s) fun start => ?_
  split
  · exact failsBy_ok _
  · exact failsBy_bind (arrayItems_due due start) fun _ => failsBy_ok _

theorem pair_due (s : List Char) : FailsBy Fault.Due (pair read s) := by
  refine failsBy_bind (key_due s) fun ⟨k, rest⟩ => ?_
  dsimp only
  split
  · exact failsBy_bind (due _) fun _ => failsBy_ok _
  · simp

theorem inlineEntries_due (declared : Declarations) (t : Value.Table) (s : List Char) :
    FailsBy Fault.Due (inlineEntries read declared t s) := by
  fun_induction inlineEntries read declared t s with
  | case1 _ _ s f failed => exact (pair_due due s).of_eq failed
  | case4 => assumption
  | _ => simp

theorem inlineTable_due (s : List Char) : FailsBy Fault.Due (inlineTable read s) := by
  unfold inlineTable
  split
  · simp
  · exact failsBy_map.mpr (inlineEntries_due due _ _ _)

omit due in
theorem value_due (depth : Nat) (s : List Char) : FailsBy Fault.Due (value depth s) := by
  induction depth using Nat.strongRecOn generalizing s with
  | ind depth ih =>
      unfold value
      split
      · exact array_due (ih _ (by omega)) _
      · simp
      · exact inlineTable_due (ih _ (by omega)) _
      · simp
      · exact atom_due _

end Values

section Statements

theorem complainAt_due (r : Except Complaint α) (rest : List Char) :
    FailsBy Fault.Due (complainAt r rest) := by
  cases r <;> simp [complainAt]

theorem headerStatement_due (d : Draft) (s : List Char) (isList : Bool) :
    FailsBy Fault.Due (headerStatement d s isList) := by
  refine failsBy_bind (key_due _) fun ⟨k, rest⟩ => ?_
  dsimp only
  split_ifs
  · refine failsBy_bind (complainAt_due _ _) fun d => ?_
    split <;> simp [pure, Except.pure]
  · refine failsBy_bind (complainAt_due _ _) fun d => ?_
    split <;> simp [pure, Except.pure]

theorem statement_due (d : Draft) (s : List Char) : FailsBy Fault.Due (statement d s) := by
  unfold statement
  split
  · exact headerStatement_due _ _ _
  · exact headerStatement_due _ _ _
  · simp
  · split_ifs
    · refine failsBy_bind (pair_due (value_due maxDepth) _) fun ⟨⟨k, v⟩, rest⟩ => ?_
      exact failsBy_bind (complainAt_due _ _) fun _ => failsBy_ok _
    · simp
  · simp

theorem statements_due (d : Draft) (s : List Char) : FailsBy Fault.Due (statements d s) := by
  fun_induction statements d s with
  | case2 => assumption
  | case4 d s f _ _ failed => exact (statement_due d _).of_eq failed
  | case5 _ _ _ rest f failed => exact (skipComment_due _).of_eq failed
  | case7 => assumption
  | _ => simp

end Statements

/-- An integer that is refused for its length has more digits than are read. -/
theorem lt_of_longInteger {s : List Char} {digits : Nat}
    (h : read s = .error (.longInteger digits)) : Numeral.maxDigits < digits :=
  (statements_due .start s).of_eq h

end SourceLedger.Toml
