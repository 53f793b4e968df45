import SourceLedger.FileSystem.Script
import SourceLedger.Identity
import SourceLedger.Level

/-!
# Workspaces and jobs

A workspace is everything that work changes: the files, the document that is held in memory,
the supply of identities and the log. A job changes a workspace and answers a value or fails;
what it changed before it failed stays changed.
-/

namespace SourceLedger

/-- A document: the namespaces by name. -/
abbrev Document := Value.Table

/-- The document of a file, once it has been read. -/
structure Store where
  path : Path
  cached : Option Document

namespace Store

def new (path : Path) : Store := ⟨path, none⟩

end Store

/-- When each of several pieces of work that go on at once is finished: the smaller, the
earlier. -/
abbrev Schedule := Nat → Nat

structure Workspace where
  files : FileSystem
  faults : Faults
  schedule : Schedule
  store : Store
  ids : IdSupply
  log : List Message

abbrev Job (α : Type) := ExceptT Failure (StateM Workspace) α

namespace Job

variable {α β : Type}

def fail (f : Failure) : Job α := throw f

def ofExcept (r : Except Failure α) : Job α :=
  match r with
  | .ok a => pure a
  | .error f => fail f

/-- A result whose failure nobody looked out for. -/
def ofUnexpected (r : Except Unexpected α) : Job α := ofExcept (r.mapError .unexpected)

def say (level : Level) (text : Text) : Job Unit :=
  modify fun w => { w with log := w.log ++ [⟨level, text⟩] }

/-- Runs a script on the files of the workspace. -/
def script (s : Script α) : Job α := do
  let w ← get
  let r := s.run w.faults w.files
  set { w with files := r.final w.files, faults := r.faults }
  return r.result

/-- The earliest failure among results that were worked out at once, each with its number. -/
def earliestFailure? (schedule : Schedule) (results : List (Except Failure α × Nat)) :
    Option Failure :=
  let failures := results.filterMap fun (r, n) =>
    match r with
    | .ok _ => none
    | .error f => some (f, schedule n)
  (failures.foldl (fun best (f, time) =>
    match best with
    | some (_, earliest) => if time < earliest then some (f, time) else best
    | none => some (f, time)) none).map Prod.fst

/-- The results of work that goes on at once. If some of it fails, then the failure that came
first is the failure of the whole. -/
def gather (results : List (Except Failure α)) : Job (List α) := do
  match earliestFailure? (← get).schedule results.zipIdx with
  | some f => fail f
  | none => return results.filterMap (·.toOption)

end Job

end SourceLedger
