import Mathlib.Data.List.Infix
import SourceLedger.Proofs.Run.Moments
import SourceLedger.Run.Stage

/-!
# Pipelines stage by stage

`Executes` says of stages which of them are executed and what each of these answers: one after
another, up to the first that does not pass a context on. The outcome of running them is read off
from the answers, and running two parts of a pipeline one after the other is running the whole.

Where a stage fails, the context of the outcome is the last one that was passed on. If it is the
first stage that fails, this is the context that the run was started with, although no stage has
produced it.
-/

namespace SourceLedger.Pipeline

variable {σ κ : Type} {notes : Notes σ κ} {stages : List (Stage σ κ)} {c : κ} {s s' s'' : σ}

/-- What a stage answers: a context to go on with, none, or its failure. -/
abbrev Answer (κ : Type) := Except Failure (Option κ)

/-- The stages that were executed, with their answers. -/
abbrev Executed (σ κ : Type) := List (Stage σ κ × Answer κ)

/-- Stages are executed from a context and a state, which leads to another state. A stage that
answers no context, or fails, is the last one. -/
inductive Executes (notes : Notes σ κ) :
    List (Stage σ κ) → κ → σ → Executed σ κ → σ → Prop
  | done (c : κ) (s : σ) : Executes notes [] c s [] s
  | passed {stage : Stage σ κ} {stages : List (Stage σ κ)} {c next : κ} {s s' s'' : σ}
      {later : Executed σ κ}
      (answer : stage.run c (notes.started stage.name s).2 = (.ok (some next), s'))
      (rest : Executes notes stages next (notes.finished stage.name c s').2 later s'') :
      Executes notes (stage :: stages) c s ((stage, .ok (some next)) :: later) s''
  | ended {stage : Stage σ κ} (stages : List (Stage σ κ)) {c : κ} {s s' : σ}
      (answer : stage.run c (notes.started stage.name s).2 = (.ok none, s')) :
      Executes notes (stage :: stages) c s [(stage, .ok none)]
        (notes.ended stage.name (notes.finished stage.name c s').2).2
  | failed {stage : Stage σ κ} (stages : List (Stage σ κ)) {c : κ} {s s' : σ} {f : Failure}
      (answer : stage.run c (notes.started stage.name s).2 = (.error f, s')) :
      Executes notes (stage :: stages) c s [(stage, .error f)]
        (notes.failed (.of stage.name f) s').2

/-- An outcome after other stages. -/
def Outcome.following (completed : List Text) (o : Outcome κ) : Outcome κ :=
  { o with completed := completed ++ o.completed }

/-- Goes on with the context of an outcome, if the run has neither ended nor failed. -/
def Outcome.andThen (o : Outcome κ) (next : κ → StateM σ (Outcome κ)) : StateM σ (Outcome κ) :=
  match o.context, o.failure with
  | some c, none => do return (← next c).following o.completed
  | _, _ => return o

@[simp] theorem Outcome.following_nil (o : Outcome κ) : o.following [] = o := rfl

@[simp] theorem Outcome.following_following (first second : List Text) (o : Outcome κ) :
    (o.following second).following first = o.following (first ++ second) := by
  simp [following]

/-- Stages are executed in one way only. -/
theorem Executes.unique {executed executed' : Executed σ κ}
    (h : Executes notes stages c s executed s') (h' : Executes notes stages c s executed' s'') :
    executed = executed' ∧ s' = s'' := by
  induction h generalizing executed' s'' with
  | done => cases h'; exact ⟨rfl, rfl⟩
  | passed answer _ ih =>
      cases h' with
      | passed answer' rest' =>
          cases answer.symm.trans answer'
          obtain ⟨rfl, rfl⟩ := ih rest'
          exact ⟨rfl, rfl⟩
      | ended _ answer' => cases answer.symm.trans answer'
      | failed _ answer' => cases answer.symm.trans answer'
  | ended _ answer =>
      cases h' with
      | passed answer' _ => cases answer.symm.trans answer'
      | ended _ answer' => cases answer.symm.trans answer'; exact ⟨rfl, rfl⟩
      | failed _ answer' => cases answer.symm.trans answer'
  | failed _ answer =>
      cases h' with
      | passed answer' _ => cases answer.symm.trans answer'
      | ended _ answer' => cases answer.symm.trans answer'
      | failed _ answer' => cases answer.symm.trans answer'; exact ⟨rfl, rfl⟩

namespace Executed

/-- The names of the stages that did not fail. -/
def completed (executed : Executed σ κ) : List Text :=
  (executed.filter (·.2.isOk)).map (·.1.name)

/-- The failure that is reported. -/
def failure? (executed : Executed σ κ) : Option StageFailure :=
  executed.findSome? fun (stage, answer) =>
    match answer with
    | .ok _ => none
    | .error f => some (.of stage.name f)

/-- What the last stage that did not fail has answered, or else the first context. -/
def context (c : κ) (executed : Executed σ κ) : Option κ :=
  (executed.filterMap (·.2.toOption)).getLastD (some c)

/-- The contexts that were passed on. -/
def passedOn (executed : Executed σ κ) : List κ := executed.filterMap (·.2.toOption.join)

/-- Some stage ended the run by answering no context. -/
def WasEnded (executed : Executed σ κ) : Prop := ∃ stage, (stage, .ok none) ∈ executed

/-- Stages that each passed a context on. -/
def passing (passed : List (Stage σ κ × κ)) : Executed σ κ :=
  passed.map fun (stage, c) => (stage, .ok (some c))

/-- The outcome of a run that was started with a context. -/
def outcome (c : κ) (executed : Executed σ κ) : Outcome κ :=
  ⟨executed.context c, executed.failure?, executed.completed⟩

@[simp] theorem outcome_nil (c : κ) : outcome c ([] : Executed σ κ) = ⟨some c, none, []⟩ := rfl

@[simp] theorem outcome_failed (c : κ) (stage : Stage σ κ) (f : Failure) :
    outcome c [(stage, .error f)] = ⟨some c, some (.of stage.name f), []⟩ :=
  rfl

@[simp] theorem outcome_ended (c : κ) (stage : Stage σ κ) :
    outcome c [(stage, .ok none)] = ⟨none, none, [stage.name]⟩ :=
  rfl

theorem outcome_passed (c next : κ) (stage : Stage σ κ) (later : Executed σ κ) :
    outcome c ((stage, .ok (some next)) :: later) =
      (later.outcome next).following [stage.name] := by
  have last : context c ((stage, .ok (some next)) :: later) = later.context next :=
    List.getLastD_cons ..
  rw [outcome, last]
  rfl

end Executed

/-- What running stages comes to is read off from those that are executed. -/
theorem exists_executes (notes : Notes σ κ) (completed : List Text) (c : κ)
    (stages : List (Stage σ κ)) (s : σ) :
    ∃ executed s', Executes notes stages c s executed s' ∧
      (runFrom notes completed c stages).run s =
        ((executed.outcome c).following completed, s') := by
  induction stages generalizing completed c s with
  | nil =>
      refine ⟨[], s, .done c s, ?_⟩
      simp only [Executed.outcome_nil, Outcome.following, List.append_nil]
      rfl
  | cons stage stages ih =>
      rw [runFrom_cons]
      rcases answer : stage.run c (notes.started stage.name s).2 with ⟨f | _ | next, s'⟩
      · exact ⟨_, _, .failed stages answer, by simp [Outcome.following]⟩
      · exact ⟨_, _, .ended stages answer, by simp [Outcome.following]⟩
      · obtain ⟨later, s'', rest, run⟩ :=
          ih (completed ++ [stage.name]) next (notes.finished stage.name c s').2
        refine ⟨_, s'', .passed answer rest, run.trans ?_⟩
        rw [Executed.outcome_passed, Outcome.following_following]

/-- Stages completed before only stand before those that are completed now. -/
theorem runFrom_eq_following (notes : Notes σ κ) (completed : List Text) (c : κ)
    (stages : List (Stage σ κ)) (s : σ) :
    (runFrom notes completed c stages).run s =
      (((run notes stages c).run s).1.following completed, ((run notes stages c).run s).2) := by
  obtain ⟨executed, s', executes, eq⟩ := exists_executes notes completed c stages s
  obtain ⟨executed', s'', executes', eq'⟩ := exists_executes notes [] c stages s
  obtain ⟨rfl, rfl⟩ := executes.unique executes'
  rw [eq, run, eq', Outcome.following_nil]

/-- Running two parts of a pipeline is running the first, and the second from where it ends. -/
theorem run_append (notes : Notes σ κ) (first rest : List (Stage σ κ)) (c : κ) (s : σ) :
    (run notes (first ++ rest) c).run s =
      (run notes first c >>= (·.andThen (run notes rest))).run s := by
  rw [run, runFrom_append, bind_run]
  rcases eq : run notes first c s with ⟨⟨_ | c', _ | f, completed⟩, s'⟩ <;>
    rw [show (runFrom notes [] c first).run s = _ from eq]
  · rfl
  · rfl
  · exact runFrom_eq_following notes completed c' rest s'
  · rfl

/-- Stages are executed as long as each passes a context on. If not all of them do, one more has
been executed, which ended the run or failed. -/
theorem Executes.parts {executed : Executed σ κ} (h : Executes notes stages c s executed s') :
    ∃ passed left last, stages = passed.map (·.1) ++ left ∧
      executed = Executed.passing passed ++ last ∧
      (left = [] ∧ last = [] ∨
        ∃ stage later answer, left = stage :: later ∧ last = [(stage, answer)] ∧
          ∀ next, answer ≠ .ok (some next)) := by
  induction h with
  | done => exact ⟨[], [], [], rfl, rfl, .inl ⟨rfl, rfl⟩⟩
  | @passed stage _ _ next _ _ _ _ _ _ ih =>
      obtain ⟨passed, left, last, rfl, rfl, stopped⟩ := ih
      exact ⟨(stage, next) :: passed, left, last, rfl, rfl, stopped⟩
  | ended stages => exact ⟨[], _, _, rfl, rfl, .inr ⟨_, stages, _, rfl, rfl, by simp⟩⟩
  | failed stages => exact ⟨[], _, _, rfl, rfl, .inr ⟨_, stages, _, rfl, rfl, by simp⟩⟩

namespace Executed

/-- Stages that passed their contexts on come before what the others come to. -/
theorem outcome_passing_append (passed : List (Stage σ κ × κ)) (last : Executed σ κ) (c : κ) :
    outcome c (passing passed ++ last) =
      (last.outcome ((passed.map (·.2)).getLastD c)).following (passed.map (·.1.name)) := by
  induction passed generalizing c with
  | nil => rfl
  | cons e passed ih =>
      rw [passing, List.map_cons, List.cons_append, outcome_passed, ← passing, ih,
        Outcome.following_following, List.map_cons, List.map_cons, List.getLastD_cons]
      rfl

theorem passedOn_passing_append (passed : List (Stage σ κ × κ)) (last : Executed σ κ) :
    passedOn (passing passed ++ last) = passed.map (·.2) ++ last.passedOn := by
  simp [passedOn, passing, List.filterMap_map, Except.toOption]

theorem mem_passing {passed : List (Stage σ κ × κ)} {e : Stage σ κ × Answer κ}
    (h : e ∈ passing passed) : ∃ next, e.2 = .ok (some next) := by
  obtain ⟨⟨stage, next⟩, -, rfl⟩ := List.mem_map.1 h
  exact ⟨next, rfl⟩

end Executed

/-- An outcome tells of the stages that were executed what running them one after another has
come to. -/
structure Sequential (stages : List (Stage σ κ)) (executed : Executed σ κ) (o : Outcome κ) :
    Prop where
  inOrder : executed.map (·.1) <+: stages
  passing : ∀ e ∈ executed.dropLast, ∃ next, e.2 = .ok (some next)
  /-- Stages are left out only where one has not passed a context on. -/
  whole : (∀ e ∈ executed, ∃ next, e.2 = .ok (some next)) → executed.map (·.1) = stages
  completed : o.completed = executed.completed
  isOk : o.isOk ↔ ∀ e ∈ executed, e.2.isOk
  reported : ∀ stage kind message, (stage, .error (.reported kind message)) ∈ executed →
    o.failure = some ⟨stage.name, kind, message, none⟩
  wrapped : ∀ stage what, (stage, .error (.unexpected what)) ∈ executed →
    o.failure = some ⟨stage.name, .pipeline,
      "Stage " ++ stage.name ++ " failed: " ++ what.describe, some what⟩

section

variable {executed : Executed σ κ}

theorem Executes.inOrder (h : Executes notes stages c s executed s') :
    executed.map (·.1) <+: stages := by
  induction h with
  | done => exact List.nil_prefix
  | passed _ _ ih => exact List.cons_prefix_cons.2 ⟨rfl, ih⟩
  | ended stages | failed stages => exact ⟨stages, rfl⟩

theorem Executes.whole (h : Executes notes stages c s executed s')
    (passing : ∀ e ∈ executed, ∃ next, e.2 = .ok (some next)) : executed.map (·.1) = stages := by
  induction h with
  | done => rfl
  | @passed stage _ _ _ _ _ _ _ _ _ ih =>
      exact congrArg (stage :: ·) (ih fun e mem => passing e (.tail _ mem))
  | ended | failed => obtain ⟨_, ⟨⟩⟩ := passing _ (.head _)

theorem Executes.passing (h : Executes notes stages c s executed s') :
    ∀ e ∈ executed.dropLast, ∃ next, e.2 = .ok (some next) := by
  obtain ⟨passed, _, last, -, rfl, ⟨-, rfl⟩ | ⟨_, _, _, -, rfl, -⟩⟩ := h.parts
  · intro e mem
    rw [List.append_nil] at mem
    exact Executed.mem_passing (List.mem_of_mem_dropLast mem)
  · intro e mem
    rw [List.dropLast_concat] at mem
    exact Executed.mem_passing mem

theorem Executes.failure? (h : Executes notes stages c s executed s') {stage : Stage σ κ}
    {f : Failure} (mem : (stage, .error f) ∈ executed) :
    executed.failure? = some (.of stage.name f) := by
  induction h with
  | done => cases mem
  | passed _ _ ih =>
      cases mem with
      | tail _ mem => exact ih mem
  | ended => simp at mem
  | failed =>
      obtain ⟨rfl, rfl⟩ : stage = _ ∧ f = _ := by simpa using mem
      rfl

theorem Executed.failure?_eq_none : executed.failure? = none ↔ ∀ e ∈ executed, e.2.isOk := by
  rw [failure?, List.findSome?_eq_none_iff]
  refine forall₂_congr fun e _ => ?_
  rcases e with ⟨_, _ | _⟩ <;> simp [Except.isOk, Except.toBool]

theorem Executes.sequential (h : Executes notes stages c s executed s') :
    Sequential stages executed (executed.outcome c) where
  inOrder := h.inOrder
  passing := h.passing
  whole := h.whole
  completed := rfl
  isOk := by rw [Outcome.isOk, Option.isNone_iff_eq_none]; exact Executed.failure?_eq_none
  reported _ _ _ mem := h.failure? mem
  wrapped _ _ mem := h.failure? mem

end

theorem Executed.wasEnded_passing_append (passed : List (Stage σ κ × κ)) (last : Executed σ κ) :
    WasEnded (passing passed ++ last) ↔ last.WasEnded := by
  simp [WasEnded, passing]

/-- What the context of an outcome is, by whether a stage has ended the run. -/
theorem Executes.context_cases {executed : Executed σ κ}
    (h : Executes notes stages c s executed s') :
    executed.WasEnded ∧ executed.context c = none ∨
      ¬ executed.WasEnded ∧ executed.context c = some (executed.passedOn.getLastD c) := by
  obtain ⟨passed, _, last, -, rfl, stopped⟩ := h.parts
  have context := congrArg Outcome.context (Executed.outcome_passing_append passed last c)
  simp only [Executed.outcome, Outcome.following] at context
  rw [context, Executed.wasEnded_passing_append, Executed.passedOn_passing_append]
  obtain ⟨-, rfl⟩ | ⟨stage, _, answer, -, rfl, stops⟩ := stopped
  · exact .inr ⟨by simp [Executed.WasEnded], by simp [Executed.passedOn]; rfl⟩
  · rcases answer with f | _ | next
    · exact .inr ⟨by simp [Executed.WasEnded], by simp [Executed.passedOn, Except.toOption]; rfl⟩
    · exact .inl ⟨⟨stage, .head _⟩, rfl⟩
    · exact absurd rfl (stops next)

/-- The context of an outcome is none exactly if a stage ended the run by answering none. Otherwise
it is the last context that was passed on, or the one that the run was started with if there is
none: so it is that one where the first stage fails. -/
theorem context_of_run (notes : Notes σ κ) (stages : List (Stage σ κ)) (c : κ) (s : σ) :
    ∃ executed, Executes notes stages c s executed ((run notes stages c).run s).2 ∧
      (((run notes stages c).run s).1.context = none ↔ executed.WasEnded) ∧
      (¬ executed.WasEnded →
        ((run notes stages c).run s).1.context = some (executed.passedOn.getLastD c)) ∧
      ∀ stage f, executed = [(stage, .error f)] →
        ((run notes stages c).run s).1.context = some c := by
  obtain ⟨executed, s', executes, eq⟩ := exists_executes notes [] c stages s
  rw [run, eq]
  refine ⟨executed, executes, ?_, ?_, ?_⟩
  · obtain ⟨was, none⟩ | ⟨was, some⟩ := executes.context_cases
    · exact iff_of_true none was
    · exact iff_of_false (by simp [Executed.outcome, some]) was
  · intro was
    obtain ⟨was', -⟩ | ⟨-, some⟩ := executes.context_cases
    · exact absurd was' was
    · exact some
  · rintro stage f rfl
    rfl

/-- A run whose first stage fails keeps the context that it was started with. -/
theorem first_failure_keeps_context :
    let r := DefaultRun.plain [] []
    let fails := Run.Stage.failing "fails" (.reported .parse "bad source")
    let o := (Run.run r.configuration r.directory r.patterns [fails] r.workspace).1
    o.failure.map (·.stage) = some fails.name ∧ o.completed = [] ∧
      o.context = some Run.firstHandle :=
  ⟨rfl, rfl, rfl⟩

end SourceLedger.Pipeline
