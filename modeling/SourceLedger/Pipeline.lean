import SourceLedger.Failure

/-!
# Pipelines

A pipeline runs stages strictly one after another. Each stage is given the context that the
stage before it produced; a stage that produces none ends the run early, and a stage that fails
stops it. Running a pipeline itself never fails.
-/

namespace SourceLedger.Pipeline

variable {σ κ : Type}

/-- A stage changes a state and produces the context for the next one, or none. -/
structure Stage (σ κ : Type) where
  name : Text
  run : κ → ExceptT Failure (StateM σ) (Option κ)

/-- The failure of a stage as it is reported. A failure that nobody looked out for is wrapped,
and `cause` keeps it. -/
structure StageFailure where
  stage : Text
  kind : ErrorKind
  message : Text
  cause : Option Unexpected

def StageFailure.of (stage : Text) : Failure → StageFailure
  | .reported kind message => ⟨stage, kind, message, none⟩
  | .unexpected what =>
    ⟨stage, .pipeline, "Stage " ++ stage ++ " failed: " ++ what.describe, some what⟩

/-- The outcome of a run. -/
structure Outcome (κ : Type) where
  /-- The last context that was produced; none if the run was ended early. -/
  context : Option κ
  failure : Option StageFailure
  /-- The names of the stages that were completed. -/
  completed : List Text

def Outcome.isOk (o : Outcome κ) : Bool := o.failure.isNone

/-- What is noted in the state while a run goes on. -/
structure Notes (σ κ : Type) where
  started : Text → StateM σ Unit
  finished : Text → κ → StateM σ Unit
  ended : Text → StateM σ Unit
  failed : StageFailure → StateM σ Unit

/-- Runs stages from a context on, some stages having been completed before. -/
def runFrom (notes : Notes σ κ) (completed : List Text) (context : κ) :
    List (Stage σ κ) → StateM σ (Outcome κ)
  | [] => return ⟨some context, none, completed⟩
  | stage :: rest => do
    notes.started stage.name
    match ← (stage.run context).run with
    | .error f =>
      let f := StageFailure.of stage.name f
      notes.failed f
      return ⟨some context, some f, completed⟩
    | .ok produced =>
      notes.finished stage.name context
      match produced with
      | none =>
        notes.ended stage.name
        return ⟨none, none, completed ++ [stage.name]⟩
      | some next => runFrom notes (completed ++ [stage.name]) next rest

def run (notes : Notes σ κ) (stages : List (Stage σ κ)) (context : κ) : StateM σ (Outcome κ) :=
  runFrom notes [] context stages

end SourceLedger.Pipeline
