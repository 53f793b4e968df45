import SourceLedger.Pipeline

/-!
# Pipelines in parts

A pipeline of two parts runs the second part where the first one has passed a context on, and ends
with the first part otherwise.
-/

namespace SourceLedger.Pipeline

variable {σ κ : Type}

theorem bind_run {α β : Type} (x : StateM σ α) (f : α → StateM σ β) (s : σ) :
    (x >>= f).run s = (f (x s).1).run (x s).2 :=
  rfl

theorem runFrom_cons (notes : Notes σ κ) (completed : List Text) (c : κ) (stage : Stage σ κ)
    (rest : List (Stage σ κ)) (s : σ) :
    (runFrom notes completed c (stage :: rest)).run s =
      match stage.run c (notes.started stage.name s).2 with
      | (.error f, s') =>
        let f := StageFailure.of stage.name f
        (⟨some c, some f, completed⟩, (notes.failed f s').2)
      | (.ok none, s') =>
        (⟨none, none, completed ++ [stage.name]⟩,
          (notes.ended stage.name (notes.finished stage.name c s').2).2)
      | (.ok (some c'), s') =>
        (runFrom notes (completed ++ [stage.name]) c' rest).run
          (notes.finished stage.name c s').2 := by
  rw [runFrom, ExceptT.run, bind_run, bind_run]
  rcases stage.run c (notes.started stage.name s).2 with ⟨_ | _ | _, s'⟩ <;> rfl

/-- Where a part of a pipeline does not end it, the rest goes on from there. -/
theorem runFrom_append (notes : Notes σ κ) (completed : List Text) (c : κ)
    (stages rest : List (Stage σ κ)) (s : σ) :
    (runFrom notes completed c (stages ++ rest)).run s =
      match (runFrom notes completed c stages).run s with
      | (⟨some c', none, completed'⟩, s') => (runFrom notes completed' c' rest).run s'
      | ended => ended := by
  induction stages generalizing completed c s with
  | nil => rfl
  | cons stage stages ih =>
      rw [List.cons_append, runFrom_cons, runFrom_cons]
      rcases stage.run c (notes.started stage.name s).2 with ⟨_ | _ | c', s'⟩
      · rfl
      · rfl
      · exact ih _ _ _

@[simp] theorem StageFailure.of_stage (name : Text) (f : Failure) :
    (StageFailure.of name f).stage = name := by
  cases f <;> rfl

end SourceLedger.Pipeline
