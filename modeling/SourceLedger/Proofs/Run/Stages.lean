import SourceLedger.Proofs.Configuration
import SourceLedger.Proofs.Loading.Trees
import SourceLedger.Proofs.Resolution
import SourceLedger.Proofs.Run.Moments

/-!
# What the default stages do

Each stage is described by what the run has got to when it succeeds. Four of the six write a
document to disk, and whether that succeeds decides whether the stage does.
-/

namespace SourceLedger

open Run Store

/-- What a run has got to: the document in memory, the paths that were resolved and the new items
for them, and the identities that are left. -/
structure Progress where
  document : Document
  paths : List Text
  items : Items
  ids : IdSupply

/-- The same with another document. -/
def Progress.holding (p : Progress) (document : Document) : Progress := { p with document }

@[simp] theorem Progress.holding_document (p : Progress) (d : Document) :
    (p.holding d).document = d := rfl

@[simp] theorem Progress.holding_paths (p : Progress) (d : Document) :
    (p.holding d).paths = p.paths := rfl

namespace Run

variable {r : DefaultRun} {p : Progress} {s : State}

theorem stage_run (name : Text) (job : Handle → Action Unit) (h : Handle) (s : State) :
    (stage name job).run h s = ((job h s).1.map fun _ => some h, (job h s).2) := by
  refine (Job.bind_apply (job h) (fun _ => pure (some h)) s).trans ?_
  rcases job h s with ⟨_ | _, _⟩ <;> rfl

theorem stage_of_run {name : Text} {job : Handle → Action Unit} {h : Handle} {s s' : State}
    {r : Except Failure Unit} (run : job h s = (r, s')) :
    (stage name job).run h s = (r.map fun _ => some h, s') := by
  rw [stage_run, run]

theorem work_apply {α : Type} (job : Job α) (s : State) :
    work job s = ((job s.workspace).1, { s with workspace := (job s.workspace).2 }) := rfl

theorem work_of_eq {α : Type} {job : Job α} {result : Except Failure α} {w : Workspace}
    (h : job s.workspace = (result, w)) : work job s = (result, { s with workspace := w }) := by
  rw [work_apply, h]

/-- Writing a document has led from some files to others. -/
def Wrote (path : Path) (d : Document) (fs : FileSystem) (result : Except WriteProblem Unit)
    (fs' : FileSystem) : Prop :=
  ∃ w : Workspace, w.files = fs ∧ w.store.path = path ∧ (writing w d).result = result ∧
    fs' = (written w d).files

/-- The files are as they were, but for what a document that was not written left behind. -/
def Spared (path : Path) (fs fs' : FileSystem) : Prop :=
  fs' = fs ∨ ∃ d problem, Wrote path d fs (.error problem) fs'

/-- A run goes on with what it has got to. -/
structure Stands (r : DefaultRun) (p : Progress) (s : State) : Prop where
  configuration : s.configuration = r.configuration
  contexts : ∃ stats, s.contexts = [⟨r.patterns, r.directory, p.paths, p.items, stats⟩]
  store : s.workspace.store = ⟨r.path, some p.document⟩
  ids : s.workspace.ids = p.ids

/-- A stage fails, and its context is left as it was. -/
def FailsIn (r : DefaultRun) (s : State) (run : Except Failure (Option Handle) × State) : Prop :=
  ∃ failure, run.1 = .error failure ∧ run.2.contexts = s.contexts ∧
    Spared r.path s.workspace.files run.2.workspace.files

/-- A stage ends with writing a document to disk, and it succeeds if that does. -/
def EndsWriting (r : DefaultRun) (answer : Option Handle) (p : Progress) (s : State)
    (run : Except Failure (Option Handle) × State) : Prop :=
  FailsIn r s run ∨
  (run.1 = .ok answer ∧ Stands r p run.2 ∧
    Wrote r.path p.document s.workspace.files (.ok ()) run.2.workspace.files)

theorem failsIn_of_eq {failure : Failure} (s : State) :
    FailsIn r s (.error failure, s) :=
  ⟨failure, rfl, rfl, Or.inl rfl⟩

theorem gather_congr {α : Type} (results : List (Except Failure α)) {w w' : Workspace}
    (h : w'.schedule = w.schedule) : (Job.gather results w').1 = (Job.gather results w).1 := by
  rw [Job.gather_run, Job.gather_run, h]
  cases Job.earliestFailure? w.schedule results.zipIdx <;> rfl

/-- Resolving only speaks, and what it answers does not depend on the log. -/
theorem resolve_cases (root : Text) (patterns : List Text) (w : Workspace) :
    (∃ failure, Resolution.resolve root patterns w = (.error failure, w)) ∨
      ∃ paths, (∃ log, Resolution.resolve root patterns w = (.ok paths, { w with log })) ∧
        ∀ w', w'.files = w.files → w'.schedule = w.schedule →
          (Resolution.resolve root patterns w').1 = .ok paths := by
  rcases Job.gather_cases (patterns.map (Resolution.expand w.files root)) w with
    ⟨failure, failed⟩ | ⟨groups, gathered, _⟩
  · exact Or.inl ⟨failure, (Job.get_bind _ w).trans (Job.bind_of_error failed)⟩
  · refine Or.inr ⟨_, Resolution.resolve_of_gather gathered, fun w' files schedule => ?_⟩
    have same := gather_congr (patterns.map (Resolution.expand w.files root)) schedule
    rw [gathered] at same
    rcases Job.gather_cases (patterns.map (Resolution.expand w'.files root)) w' with
      ⟨failure, failed⟩ | ⟨groups', gathered', _⟩
    · rw [← files, failed] at same
      cases same
    · rw [← files, gathered'] at same
      cases same
      obtain ⟨log, resolved⟩ := Resolution.resolve_of_gather gathered'
      rw [resolved]

section Stands

variable (stands : Stands r p s)
include stands

theorem Stands.cached : s.workspace.store.cached = some p.document := by
  rw [stands.store]

theorem Stands.started (name : Text) : Stands r p (notes.started name s).2 :=
  ⟨stands.configuration, stands.contexts, stands.store, stands.ids⟩

theorem Stands.finished (name : Text) : Stands r p (notes.finished name firstHandle s).2 := by
  obtain ⟨stats, contexts⟩ := stands.contexts
  refine ⟨stands.configuration, ⟨stats.finish name, ?_⟩, stands.store, stands.ids⟩
  change s.contexts.modify firstHandle _ = _
  rw [contexts]
  rfl

theorem Stands.paths : (contextAt s firstHandle).paths = p.paths := by
  obtain ⟨stats, contexts⟩ := stands.contexts
  rw [contextAt, contexts]
  rfl

/-- What is said leaves everything else as it stands. -/
theorem Stands.saying (log : List Message) :
    Stands r p { s with workspace := { s.workspace with log } } :=
  ⟨stands.configuration, stands.contexts, stands.store, stands.ids⟩

/-- Merging a table into a namespace writes the merged document. -/
theorem Stands.merge (name : Text) (entries : Value.Table) :
    ∃ result workspace, Store.merge name (.table entries) s.workspace =
        (result.mapError (·.failure r.path), workspace) ∧
      workspace.store = ⟨r.path, some (merged p.document name entries)⟩ ∧
      workspace.ids = p.ids ∧
      Wrote r.path (merged p.document name entries) s.workspace.files result
        workspace.files := by
  have path : s.workspace.store.path = r.path := by rw [stands.store]
  have run := merge_of_ok name (.table entries) (load_of_cached stands.cached)
  refine ⟨_, written s.workspace (merged p.document name entries), ?_, ?_, stands.ids,
    s.workspace, rfl, path, rfl, rfl⟩
  · rw [run, path]
    rfl
  · change (⟨s.workspace.store.path, _⟩ : Store) = _
    rw [path]

end Stands

section Cases

variable {name : Text} {job : Handle → Action Unit}

theorem Stands.endsWriting (stands : Stands r p s) (name : Text) (s₀ : State)
    (contexts : s₀.contexts = s.contexts) (files : s₀.workspace.files = s.workspace.files)
    {key : Text} {entries : Value.Table}
    (run : job firstHandle s₀ = work (Store.merge key (.table entries)) s) :
    EndsWriting r (some firstHandle) (p.holding (merged p.document key entries)) s₀
      ((stage name job).run firstHandle s₀) := by
  obtain ⟨result, workspace, merge, store, ids, wrote⟩ := stands.merge key entries
  rw [stage_run, run, work_apply, merge]
  rw [← files] at wrote
  cases result with
  | error problem => exact Or.inl ⟨_, rfl, contexts.symm, Or.inr ⟨_, problem, wrote⟩⟩
  | ok => exact Or.inr ⟨rfl, ⟨stands.configuration, stands.contexts, store, ids⟩, wrote⟩

/-- A run before its first stage. -/
structure Begins (r : DefaultRun) (s : State) : Prop where
  configuration : s.configuration = r.configuration
  contexts : ∃ stats, s.contexts = [⟨r.patterns, r.directory, [], [], stats⟩]
  store : s.workspace.store = Store.new r.path
  ids : s.workspace.ids = r.workspace.ids

/-- The configuration is merged into the document that is read. -/
theorem initializeStore_cases (begins : Begins r s) :
    FailsIn r s (initializeStore.run firstHandle s) ∨
      ∃ d, Document.read s.workspace.files r.path = .ok d ∧
        EndsWriting r (some firstHandle)
          ⟨merged d Document.configName r.configuration.values, [], [], r.workspace.ids⟩ s
          (initializeStore.run firstHandle s) := by
  have path : s.workspace.store.path = r.path := by rw [begins.store]; rfl
  have load := load_of_none (w := s.workspace) (by rw [begins.store]; rfl)
  rw [path] at load
  cases hr : Document.read s.workspace.files r.path with
  | error failure =>
      rw [hr] at load
      have loaded : work Store.load s = (.error failure, s) := work_of_eq load
      refine Or.inl ?_
      rw [initializeStore, stage_of_run (r := .error failure) (Job.bind_of_error loaded)]
      exact failsIn_of_eq s
  | ok d =>
      rw [hr] at load
      have loaded : work Store.load s = (.ok d, { s with workspace := holding s.workspace d }) :=
        work_of_eq load
      have stands : Stands r ⟨d, [], [], r.workspace.ids⟩
          { s with workspace := holding s.workspace d } :=
        ⟨begins.configuration, begins.contexts, by rw [← path]; rfl, begins.ids⟩
      refine Or.inr ⟨d, rfl, ?_⟩
      rw [initializeStore]
      refine stands.endsWriting _ s rfl rfl ((Job.bind_of_ok loaded).trans ?_)
      rw [← begins.configuration]
      rfl

theorem resolvePatterns_cases (stands : Stands r p s) :
    FailsIn r s (resolvePatterns.run firstHandle s) ∨
      ∃ paths s', resolvePatterns.run firstHandle s = (.ok (some firstHandle), s') ∧
        Stands r { p with paths } s' ∧ s'.workspace.files = s.workspace.files ∧
        ∀ w, w.files = s.workspace.files → w.schedule = s.workspace.schedule →
          (Resolution.resolve r.directory r.patterns w).1 = .ok paths := by
  obtain ⟨workspace, configuration, contexts⟩ := s
  obtain ⟨stats, rfl⟩ := stands.contexts
  let c : Context := ⟨r.patterns, r.directory, p.paths, p.items, stats⟩
  rcases resolve_cases r.directory r.patterns workspace with
    ⟨failure, failed⟩ | ⟨paths, ⟨log, resolved⟩, always⟩
  · have resolve := work_of_eq (s := ⟨workspace, configuration, [c]⟩) failed
    refine Or.inl ?_
    rw [resolvePatterns,
      stage_of_run (r := .error failure) ((Job.get_bind _ _).trans (Job.bind_of_error resolve))]
    exact failsIn_of_eq _
  · have resolve := work_of_eq (s := ⟨workspace, configuration, [c]⟩) resolved
    refine Or.inr ⟨paths, ⟨{ workspace with log }, configuration, [{ c with
      paths
      stats := { stats with patterns := r.patterns.length, tracked := paths.length } }]⟩, ?_,
      ⟨stands.configuration, ⟨_, rfl⟩, stands.store, stands.ids⟩, rfl, always⟩
    rw [resolvePatterns]
    exact stage_of_run (r := .ok ()) ((Job.get_bind _ _).trans (Job.bind_of_ok resolve))

theorem assignIdentities_run (stands : Stands r p s) :
    ∃ s', assignIdentities.run firstHandle s = (.ok (some firstHandle), s') ∧
      Stands r { p with
        items := (Items.create r.directory p.paths p.ids).1
        ids := (Items.create r.directory p.paths p.ids).2 } s' ∧
      s'.workspace.files = s.workspace.files := by
  obtain ⟨workspace, configuration, contexts⟩ := s
  obtain ⟨stats, rfl⟩ := stands.contexts
  have ids : workspace.ids = p.ids := stands.ids
  rw [← ids]
  exact ⟨_, rfl, ⟨stands.configuration, ⟨stats, rfl⟩, stands.store, rfl⟩, rfl⟩

/-- The new items are merged into the document. -/
theorem commitFiles_cases (stands : Stands r p s) :
    EndsWriting r (some firstHandle) (p.holding (withItems p.document p.items)) s
      (commitFiles.run firstHandle s) := by
  obtain ⟨stats, contexts⟩ := stands.contexts
  have found : (contextAt s firstHandle).items = p.items := by
    rw [contextAt, contexts]
    rfl
  rw [commitFiles]
  refine stands.endsWriting _ _ rfl rfl ((Job.get_bind _ _).trans ?_)
  rw [found]
  rfl

/-- The counters that a run stands with. -/
def counted (s : State) : Nat × Nat × Nat := (contextAt s firstHandle).stats.counts

theorem Stands.changeStats (stands : Stands r p s) (f : Context → Stats) :
    Stands r p (changeContext firstHandle (fun c => { c with stats := f c }) s).2 ∧
      counted (changeContext firstHandle (fun c => { c with stats := f c }) s).2 =
        (f (contextAt s firstHandle)).counts := by
  obtain ⟨workspace, configuration, contexts⟩ := s
  obtain ⟨stats, rfl⟩ := stands.contexts
  exact ⟨⟨stands.configuration, ⟨_, rfl⟩, stands.store, stands.ids⟩, rfl⟩

/-- Work that merges items last: where it succeeds, something is done with its answer. -/
theorem Stands.mergeItems (stands : Stands r p s) (tracked : Items) (n : Nat) :
    (∃ failure problem s', work (do Store.mergeItems tracked; return n) s = (.error failure, s') ∧
      s'.contexts = s.contexts ∧
      Wrote r.path (withItems p.document tracked) s.workspace.files (.error problem)
        s'.workspace.files) ∨
    ∃ s', work (do Store.mergeItems tracked; return n) s = (.ok n, s') ∧
      s'.contexts = s.contexts ∧ Stands r (p.holding (withItems p.document tracked)) s' ∧
      Wrote r.path (withItems p.document tracked) s.workspace.files (.ok ())
        s'.workspace.files := by
  obtain ⟨result, workspace, merge, store, ids, wrote⟩ :=
    stands.merge Document.filesName tracked.toTable
  have merge : Store.mergeItems tracked s.workspace = _ := merge
  cases result with
  | error problem =>
      have failed := Job.bind_of_error (f := fun _ => (return n : Job Nat)) merge
      exact Or.inl ⟨problem.failure r.path, problem, { s with workspace }, work_of_eq failed, rfl,
        wrote⟩
  | ok =>
      have done := Job.bind_of_ok (f := fun _ => (return n : Job Nat)) merge
      exact Or.inr ⟨{ s with workspace }, work_of_eq done, rfl,
        ⟨stands.configuration, stands.contexts, store, ids⟩, wrote⟩

/-- Counting looks at the document once more: what was not loaded has been skipped. -/
theorem Stands.count (stands : Stands r p s) (loaded : Nat) :
    ∃ s', (do
        changeContext firstHandle fun c => { c with stats := { c.stats with loaded } }
        let files ← work (Store.getNamespace Document.filesName)
        let tracked := (files.asTable?.getD []).length
        changeContext firstHandle fun c =>
          { c with stats := { c.stats with skipped := tracked - loaded } } : Action Unit) s =
        (.ok (), s') ∧ Stands r p s' ∧ s'.workspace.files = s.workspace.files ∧
      ∃ parsed, counted s' =
        (loaded, (tableIn p.document Document.filesName).length - loaded, parsed) := by
  obtain ⟨stands', first⟩ := stands.changeStats fun c => { c.stats with loaded }
  have looked := work_apply (getNamespace Document.filesName)
    (changeContext firstHandle (fun c => { c with stats := { c.stats with loaded } }) s).2
  rw [getNamespace_of_load (load_cached stands'.cached)] at looked
  obtain ⟨stands'', second⟩ := stands'.changeStats fun c => { c.stats with
    skipped := ((namespaceOf p.document Document.filesName).asTable?.getD []).length - loaded }
  refine ⟨_, Job.bind_of_ok looked, stands'', rfl, (contextAt s firstHandle).stats.parsed,
    second.trans ?_⟩
  rw [asTable?_namespaceOf]
  have read := congrArg (·.1) first
  have parsed := congrArg (·.2.2) first
  exact Prod.ext read (Prod.ext rfl parsed)

/-- The counters once items with their contents are merged into a document. -/
def Counts (d : Document) (items : Items) (s : State) : Prop :=
  ∃ parsed, counted s = ((items.fullPathsOf Item.hasContent).length,
    (tableIn (withItems d items) Document.filesName).length -
      (items.fullPathsOf Item.hasContent).length, parsed)

/-- Contents are loaded from the files as they are before anything is written. -/
theorem loadFileContents_cases (stands : Stands r p s) :
    FailsIn r s (loadFileContents.run firstHandle s) ∨
    ∃ tracked, Tracks p.document tracked ∧
      (∀ e ∈ tracked, ∃ c, Loading.readContent s.workspace.files e.2.fullPath = .ok c) ∧
      EndsWriting r (some firstHandle)
        (p.holding (withItems p.document
          (tracked.mapValues (Loading.reread s.workspace.files)))) s
        (loadFileContents.run firstHandle s) ∧
      ((loadFileContents.run firstHandle s).1 = .ok (some firstHandle) →
        Counts p.document (tracked.mapValues (Loading.reread s.workspace.files))
          (loadFileContents.run firstHandle s).2) := by
  rw [loadFileContents]
  rcases Loading.loadContents_cases stands.cached with
    ⟨failure, log, failed, -⟩ | ⟨tracked, log, tracks, read, run⟩
  · have failed : work Loading.loadContents s =
        (.error failure, { s with workspace := { s.workspace with log } }) := work_of_eq failed
    rw [stage_of_run (r := .error failure) (Job.bind_of_error failed)]
    exact Or.inl ⟨failure, rfl, rfl, Or.inl rfl⟩
  · refine Or.inr ⟨tracked, tracks, read, ?_⟩
    let items : Items := tracked.mapValues (Loading.reread s.workspace.files)
    have start : work Loading.loadContents s = work (do
        Store.mergeItems items
        return (items.fullPathsOf Item.hasContent).length)
        { s with workspace := { s.workspace with log } } := by
      rw [work_apply, run]
      rfl
    rcases (stands.saying log).mergeItems items (items.fullPathsOf Item.hasContent).length with
      ⟨failure, problem, s', failed, contexts, wrote⟩ | ⟨s', done, _, stands', wrote⟩
    · rw [stage_of_run (r := .error failure) (Job.bind_of_error (start.trans failed))]
      exact ⟨Or.inl ⟨failure, rfl, contexts, Or.inr ⟨_, problem, wrote⟩⟩, nofun⟩
    · obtain ⟨s'', counted, stands'', files, counts⟩ := stands'.count _
      rw [stage_of_run (r := .ok ()) ((Job.bind_of_ok (start.trans done)).trans counted)]
      exact ⟨Or.inr ⟨rfl, stands'', files ▸ wrote⟩, fun _ => counts⟩

/-- Where the options are not accepted, the last stage fails and does nothing. -/
theorem loadFileTrees_rejects (stands : Stands r p s) {fault : ParseOptions.Fault}
    (rejected : Loading.optionsOf p.document = .error fault) :
    loadFileTrees.run firstHandle s = (.error fault.failure, s) := by
  have stored := Loading.storedOptions_of_load (load_cached stands.cached)
  rw [rejected] at stored
  exact Job.bind_of_error (work_of_eq (Job.bind_of_error stored))

/-- The last stage makes trees of all contents and ends the run. -/
theorem loadFileTrees_cases (stands : Stands r p s) :
    FailsIn r s (loadFileTrees.run firstHandle s) ∨
    ∃ options tracked trees, Loading.optionsOf p.document = .ok options ∧
      Tracks p.document tracked ∧ Loading.MadeTrees options tracked trees ∧
      EndsWriting r none
        (p.holding (withItems p.document
          (tracked.mapValues (Loading.withTree (Entries.ofList trees))))) s
        (loadFileTrees.run firstHandle s) ∧
      ((loadFileTrees.run firstHandle s).1 = .ok none →
        counted (loadFileTrees.run firstHandle s).2 =
          ((counted s).1, (counted s).2.1, trees.length)) := by
  rcases Loading.loadTrees_cases stands.cached with
    ⟨failure, log, failed⟩ | ⟨options, tracked, trees, log, hoptions, tracks, made, run⟩
  · have failed : work (Loading.loadTrees none) s =
        (.error failure, { s with workspace := { s.workspace with log } }) := work_of_eq failed
    have all : loadFileTrees.run firstHandle s = _ := Job.bind_of_error failed
    rw [all]
    exact Or.inl ⟨failure, rfl, rfl, Or.inl rfl⟩
  · refine Or.inr ⟨options, tracked, trees, hoptions, tracks, made, ?_⟩
    have start : work (Loading.loadTrees none) s = work (do
        Store.mergeItems (tracked.mapValues (Loading.withTree (Entries.ofList trees)))
        return trees.length) { s with workspace := { s.workspace with log } } := by
      rw [work_apply, run]
      rfl
    rcases (stands.saying log).mergeItems
        (tracked.mapValues (Loading.withTree (Entries.ofList trees))) trees.length with
      ⟨failure, problem, s', failed, contexts, wrote⟩ | ⟨s', done, contexts, stands', wrote⟩
    · have all : loadFileTrees.run firstHandle s = (.error failure, s') :=
        Job.bind_of_error (start.trans failed)
      rw [all]
      exact ⟨Or.inl ⟨failure, rfl, contexts, Or.inr ⟨_, problem, wrote⟩⟩, nofun⟩
    · have all : loadFileTrees.run firstHandle s = (.ok none, (changeContext firstHandle
          (fun c => { c with stats := { c.stats with parsed := trees.length } }) s').2) :=
        Job.bind_of_ok (start.trans done)
      rw [all]
      obtain ⟨stands'', counts⟩ :=
        stands'.changeStats fun c => { c.stats with parsed := trees.length }
      refine ⟨Or.inr ⟨rfl, stands'', wrote⟩, fun _ => counts.trans ?_⟩
      rw [contextAt, contexts]
      rfl

end Cases

end Run

end SourceLedger
