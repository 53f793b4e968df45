import SourceLedger.FileSystem.Change

/-!
# Scripts of changes

A script is a sequence of single steps on a file system, each chosen with knowledge of how the
earlier ones went. Running it shows every state that the file system passes through, which is
what remains when the script is cut short. The system may refuse any step for a reason of its
own; `Faults` says which.
-/

namespace SourceLedger

/-- A single change. -/
inductive Step
  | makeDirectory (path : Text)
  | createFile (path : Text)
  | append (path : Text) (bytes : Bytes)
  | replace (path newPath : Text)
  | removeFile (path : Text)
  deriving DecidableEq

def Step.apply (fs : FileSystem) : Step → Except Refusal FileSystem
  | makeDirectory path => fs.makeDirectory path
  | createFile path => fs.createFile path
  | append path bytes => fs.append path bytes
  | replace path newPath => fs.replace path newPath
  | removeFile path => fs.removeFile path

/-- What each of the coming steps meets: a refusal of the system, or nothing. Behind the end
of the list nothing more happens. -/
abbrev Faults := List (Option SystemError)

inductive Script (α : Type)
  | done (a : α)
  /-- Looks at the file system without changing it. -/
  | look (next : FileSystem → Script α)
  | step (s : Step) (next : Except Refusal Unit → Script α)

namespace Script

variable {α β : Type}

def bind (f : α → Script β) : Script α → Script β
  | done a => f a
  | look next => look fun fs => (next fs).bind f
  | step s next => step s fun r => (next r).bind f

instance : Monad Script where
  pure := done
  bind x f := x.bind f

/-- What running a script gives. -/
structure Ran (α : Type) where
  result : α
  /-- The states that the file system went through, without the first one. -/
  states : List FileSystem
  faults : Faults

namespace Ran

/-- The state at the end, for a run that started in `fs`. -/
def final (r : Ran α) (fs : FileSystem) : FileSystem := r.states.getLastD fs

end Ran

def run : Script α → Faults → FileSystem → Ran α
  | done a, faults, _ => ⟨a, [], faults⟩
  | look next, faults, fs => (next fs).run faults fs
  | step s next, faults, fs =>
    match faults.head?.join with
    | some e => (next (.error (.system e))).run faults.tail fs
    | none =>
      match s.apply fs with
      | .error r => (next (.error r)).run faults.tail fs
      | .ok fs =>
        let r := (next (.ok ())).run faults.tail fs
        { r with states := fs :: r.states }

end Script

end SourceLedger
