import SourceLedger.Proofs.Pipeline
import SourceLedger.Proofs.Results
import SourceLedger.Proofs.Workspace
import SourceLedger.Run.Basic

/-!
# The moments of a run

A default run is looked at after each of its stages. It gets to the next moment if the stage
succeeds, and ends there otherwise.
-/

namespace SourceLedger

open Run

/-- The counters that a default run reads off from the document: of the files that were read, of
those that were not, and of the trees. -/
def Stats.counts (s : Stats) : Nat × Nat × Nat := (s.loaded, s.skipped, s.parsed)

@[simp] theorem Stats.counts_finish (s : Stats) (stage : Text) :
    (s.finish stage).counts = s.counts := by
  unfold finish
  split_ifs <;> rfl

/-- A run with the default stages. -/
structure DefaultRun where
  configuration : Configuration
  directory : Text
  patterns : List Text
  workspace : Workspace

namespace DefaultRun

/-- A run that is started in a directory, with the configuration that is found for it. -/
def startedIn (files : FileSystem) (faults : Faults) (directory : Text) (patterns : List Text) :
    Except Failure DefaultRun :=
  (Configuration.load files (Path.ofText directory)).map fun configuration =>
    { configuration, directory, patterns
      workspace :=
        { files, faults, schedule := id, store := Store.new (Path.ofText directory), ids := ⟨0⟩
          log := [] } }

/-- A file that holds a text. -/
def textFile (s : String) : Node := .file (Utf8.encodeChars s.toList)

/-- A run in the root directory with the default configuration. -/
def plain (nodes : List (Location × Node)) (patterns : List Text) : DefaultRun where
  configuration := { values := Configuration.defaults, root := Path.ofText "/", source := none }
  directory := "/"
  patterns := patterns
  workspace :=
    { files := ⟨nodes, []⟩, faults := [], schedule := id, store := Store.new (Path.ofText "/")
      ids := ⟨0⟩, log := [] }

/-- The path of the document. -/
def path (r : DefaultRun) : Path := Document.pathIn r.configuration.outDirectory

/-- The outcome, and the state that the run ends in. -/
def ended (r : DefaultRun) : Pipeline.Outcome Handle × State :=
  run r.configuration r.directory r.patterns defaultStages r.workspace

def outcome (r : DefaultRun) : Pipeline.Outcome Handle := r.ended.1

/-- The workspace that the run leaves behind. -/
def final (r : DefaultRun) : Workspace := r.ended.2.workspace

/-- The paths that the patterns were resolved to: none if the run did not get that far. -/
def paths (r : DefaultRun) : List Text := (contextAt r.ended.2 firstHandle).paths

/-- The counters of the run once it is over. -/
def stats (r : DefaultRun) : Stats := (contextAt r.ended.2 firstHandle).stats

/-- The workspace after so many stages. -/
def after (r : DefaultRun) (n : Nat) : Workspace :=
  (run r.configuration r.directory r.patterns (defaultStages.take n) r.workspace).2.workspace

/-- What the patterns resolve to, once the document has been loaded. -/
def resolved (r : DefaultRun) : Except Failure (List Text) :=
  (Resolution.resolve r.directory r.patterns (r.after 1)).1

/-- The files from which the contents are read. -/
def sourceFiles (r : DefaultRun) : FileSystem := (r.after 4).files

/-- What a new store reads once the run is over. -/
def left (r : DefaultRun) : Except Failure Document :=
  (Store.load { r.final with store := Store.new r.path }).1

/-- The parse options of the configuration. -/
def options (r : DefaultRun) : Except ParseOptions.Fault ParseOptions :=
  ParseOptions.ofValue (r.configuration.get Configuration.optionsKey)

/-- The names of the stages, in order. -/
def stageNames : List Text := defaultStages.map (·.name)

variable {r : DefaultRun} {n : Nat} {name : Text} {s s' : State}

theorem startedIn_eq_ok {files : FileSystem} {faults : Faults} {directory : Text}
    {patterns : List Text} (started : startedIn files faults directory patterns = .ok r) :
    Configuration.load files (Path.ofText directory) = .ok r.configuration ∧
      r.workspace.files = files ∧ r.workspace.faults = faults := by
  obtain ⟨c, loaded, rfl⟩ := map_eq_ok started
  exact ⟨loaded, rfl, rfl⟩

/-- What the first stages come to, the document still in memory. -/
def reach (r : DefaultRun) (n : Nat) : Pipeline.Outcome Handle × State :=
  (Pipeline.run notes (defaultStages.take n) firstHandle).run
    (start r.configuration r.directory r.patterns r.workspace)

/-- The run has gone through so many stages and goes on in a state. -/
def Came (r : DefaultRun) (n : Nat) (s : State) : Prop :=
  r.reach n = (⟨some firstHandle, none, stageNames.take n⟩, s)

/-- The run ends in a state, with so many stages completed. -/
structure Ends (r : DefaultRun) (n : Nat) (failed : Option Text) (s : State) : Prop where
  completed : r.outcome.completed = stageNames.take n
  failed : r.outcome.failure.map (·.stage) = failed
  files : r.final.files = s.workspace.files
  paths : r.paths = (contextAt s firstHandle).paths
  counts : r.stats.counts = (contextAt s firstHandle).stats.counts

theorem came_zero (r : DefaultRun) :
    r.Came 0 (start r.configuration r.directory r.patterns r.workspace) :=
  rfl

theorem after_zero (r : DefaultRun) : (r.after 0).files = r.workspace.files := rfl

theorem Came.after (came : r.Came n s) :
    r.after n = { s.workspace with store := { s.workspace.store with cached := none } } := by
  rw [Came, reach] at came
  rw [DefaultRun.after, run, came]

theorem Came.after_files (came : r.Came n s) : (r.after n).files = s.workspace.files := by
  rw [came.after]

/-- The stages that follow run in the state that was reached. -/
theorem Came.reach_add (came : r.Came n s) (more : Nat) :
    r.reach (n + more) = (Pipeline.runFrom notes (stageNames.take n) firstHandle
      ((defaultStages.drop n).take more)).run s := by
  rw [reach, List.take_add, Pipeline.run, Pipeline.runFrom_append]
  rw [Came, reach, Pipeline.run] at came
  rw [came]

theorem take_succ_stageNames {next : Stage} {rest : List Stage}
    (left : defaultStages.drop n = next :: rest) :
    stageNames.take (n + 1) = stageNames.take n ++ [next.name] := by
  rw [List.take_add, stageNames, ← List.map_drop, left]
  rfl

theorem paths_finished (name : Text) (s : State) :
    (contextAt (notes.finished name firstHandle s).2 firstHandle).paths =
      (contextAt s firstHandle).paths := by
  obtain ⟨workspace, configuration, contexts⟩ := s
  cases contexts <;> rfl

theorem counts_finished (name : Text) (s : State) :
    (contextAt (notes.finished name firstHandle s).2 firstHandle).stats.counts =
      (contextAt s firstHandle).stats.counts := by
  obtain ⟨workspace, configuration, contexts⟩ := s
  cases contexts with
  | nil => rfl
  | cons c contexts => exact Stats.counts_finish c.stats name

/-- What is left to do when a stage is next. -/
theorem Came.reach_all (came : r.Came n s) {next : Stage} {rest : List Stage}
    (left : defaultStages.drop n = next :: rest) :
    r.reach defaultStages.length =
      (Pipeline.runFrom notes (stageNames.take n) firstHandle (next :: rest)).run s := by
  have reached := came.reach_add (next :: rest).length
  have length := congrArg List.length left
  rw [List.length_drop, List.length_cons] at length
  rw [left, List.take_length, List.length_cons,
    show n + (rest.length + 1) = defaultStages.length by omega] at reached
  exact reached

/-- The whole run is what all stages come to, with the document in memory forgotten. -/
theorem ended_of_reach {o : Pipeline.Outcome Handle}
    (h : r.reach defaultStages.length = (o, s)) :
    r.ended = (o, { s with workspace :=
      { s.workspace with store := { s.workspace.store with cached := none } } }) := by
  rw [reach, List.take_length] at h
  rw [ended, run, h]

theorem ends_of_reach {o : Pipeline.Outcome Handle}
    (h : r.reach defaultStages.length = (o, s)) (completed : o.completed = stageNames.take n) :
    r.Ends n (o.failure.map (·.stage)) s := by
  have ended := ended_of_reach h
  refine ⟨?_, ?_, ?_, ?_, ?_⟩
  · rw [outcome, ended, completed]
  · rw [outcome, ended]
  · rw [final, ended]
  · rw [DefaultRun.paths, ended]
    rfl
  · rw [stats, ended]
    rfl

variable {next : Stage} {rest : List Stage}

/-- A stage that passes its context on leads to the next moment. -/
theorem Came.step (came : r.Came n s) (left : defaultStages.drop n = next :: rest)
    (run : next.run firstHandle (notes.started next.name s).2 = (.ok (some firstHandle), s')) :
    r.Came (n + 1) (notes.finished next.name firstHandle s').2 := by
  have reached := came.reach_add 1
  rw [left, List.take_succ_cons, List.take_zero, Pipeline.runFrom_cons, run] at reached
  rw [Came, take_succ_stageNames left]
  exact reached

theorem Came.fails (came : r.Came n s) (left : defaultStages.drop n = next :: rest)
    {failure : Failure}
    (run : next.run firstHandle (notes.started next.name s).2 = (.error failure, s')) :
    r.Ends n (some next.name) s' := by
  have all := came.reach_all left
  rw [Pipeline.runFrom_cons, run] at all
  have ends := ends_of_reach (n := n) all rfl
  simp only [Option.map_some, Pipeline.StageFailure.of_stage] at ends
  exact ⟨ends.completed, ends.failed, ends.files, ends.paths, ends.counts⟩

/-- A stage that fails is what the run fails with. -/
theorem Came.failure (came : r.Came n s) (left : defaultStages.drop n = next :: rest)
    {failure : Failure}
    (run : next.run firstHandle (notes.started next.name s).2 = (.error failure, s')) :
    r.outcome.failure = some (Pipeline.StageFailure.of next.name failure) := by
  have all := came.reach_all left
  rw [Pipeline.runFrom_cons, run] at all
  rw [outcome, ended_of_reach all]

theorem Came.ends (came : r.Came n s) (left : defaultStages.drop n = next :: rest)
    (run : next.run firstHandle (notes.started next.name s).2 = (.ok none, s')) :
    r.Ends (n + 1) none s' := by
  have all := came.reach_all left
  rw [Pipeline.runFrom_cons, run] at all
  have ends := ends_of_reach (n := n + 1) all (take_succ_stageNames left).symm
  exact ⟨ends.completed, ends.failed, ends.files,
    ends.paths.trans (paths_finished next.name s'),
    ends.counts.trans (counts_finished next.name s')⟩

end DefaultRun

end SourceLedger
