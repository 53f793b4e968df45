import SourceLedger.Proofs.Run.Stages

/-!
# The course of a run

`Reached` says what a default run has got to after so many stages, and by which writings. Every run
gets to some moment and is over there: after the last stage, or because the next one failed.
-/

namespace SourceLedger

open Run Store

namespace DefaultRun

/-- A document was written from one moment to the next. -/
def Writes (r : DefaultRun) (n : Nat) (d : Document) : Prop :=
  Wrote r.path d (r.after n).files (.ok ()) (r.after (n + 1)).files

/-- What a run has got to after so many stages, for a document `disk` that was there before. -/
inductive Reached (r : DefaultRun) (disk : Document) : Nat → Progress → Prop
  | start : Reached r disk 0 ⟨disk, [], [], r.workspace.ids⟩
  | initialized {p : Progress} (before : Reached r disk 0 p)
      (read : Document.read r.workspace.files r.path = .ok p.document)
      (writes : r.Writes 0 (merged p.document Document.configName r.configuration.values)) :
      Reached r disk 1
        (p.holding (merged p.document Document.configName r.configuration.values))
  | resolved {p : Progress} {paths : List Text} (before : Reached r disk 1 p)
      (resolved : r.resolved = .ok paths) (files : (r.after 2).files = (r.after 1).files) :
      Reached r disk 2 { p with paths }
  | identified {p : Progress} (before : Reached r disk 2 p)
      (files : (r.after 3).files = (r.after 2).files) :
      Reached r disk 3 { p with
        items := (Items.create r.directory p.paths p.ids).1
        ids := (Items.create r.directory p.paths p.ids).2 }
  | committed {p : Progress} (before : Reached r disk 3 p)
      (writes : r.Writes 3 (withItems p.document p.items)) :
      Reached r disk 4 (p.holding (withItems p.document p.items))
  | loaded {p : Progress} {tracked : Items} (before : Reached r disk 4 p)
      (tracks : Tracks p.document tracked)
      (read : ∀ e ∈ tracked, ∃ c, Loading.readContent r.sourceFiles e.2.fullPath = .ok c)
      (writes : r.Writes 4 (withItems p.document
        (tracked.mapValues (Loading.reread r.sourceFiles)))) :
      Reached r disk 5 (p.holding (withItems p.document
        (tracked.mapValues (Loading.reread r.sourceFiles))))
  | parsed {p : Progress} {tracked : Items} {options : ParseOptions}
      {trees : List (Text × Value)} (before : Reached r disk 5 p)
      (tracks : Tracks p.document tracked)
      (asked : Loading.optionsOf p.document = .ok options)
      (made : Loading.MadeTrees options tracked trees)
      (writes : r.Writes 5 (withItems p.document
        (tracked.mapValues (Loading.withTree (Entries.ofList trees))))) :
      Reached r disk 6 (p.holding (withItems p.document
        (tracked.mapValues (Loading.withTree (Entries.ofList trees)))))

/-- A run is over after so many stages. Unless these are all, the next one has failed, and the
document was spared. -/
structure OverAfter (r : DefaultRun) (disk : Document) (n : Nat) (p : Progress) : Prop where
  reached : r.Reached disk n p
  completed : r.outcome.completed = stageNames.take n
  paths : r.paths = p.paths
  failed : r.outcome.failure.map (·.stage) = stageNames[n]?
  spared : Spared r.path (r.after n).files r.final.files

variable {r : DefaultRun} {n : Nat} {p p' : Progress} {s s' : State} {next : Stage}
  {rest : List Stage} {d disk : Document}

theorem after_all (r : DefaultRun) : (r.after 6).files = r.final.files := by
  rw [after, show defaultStages.take 6 = defaultStages from rfl]
  rfl

/-- A run has come to a moment and goes on there. -/
structure At (r : DefaultRun) (disk : Document) (n : Nat) (p : Progress) (s : State) : Prop where
  came : r.Came n s
  stands : Stands r p s
  reached : r.Reached disk n p

theorem getElem?_stageNames (left : defaultStages.drop n = next :: rest) :
    stageNames[n]? = some next.name := by
  have here := congrArg (·[0]?) left
  simp only [List.getElem?_drop, Nat.add_zero, List.getElem?_cons_zero] at here
  rw [stageNames, List.getElem?_map, here]
  rfl

theorem Came.overAfter (came : r.Came n s) (reached : r.Reached disk n p)
    (paths : (contextAt s firstHandle).paths = p.paths)
    (left : defaultStages.drop n = next :: rest)
    (failed : FailsIn r (notes.started next.name s).2
      (next.run firstHandle (notes.started next.name s).2)) : r.OverAfter disk n p := by
  obtain ⟨failure, error, contexts, spared⟩ := failed
  have ends := came.fails left (Prod.ext error rfl)
  have contexts : contextAt _ firstHandle = contextAt s firstHandle :=
    congrArg (·.getD firstHandle blank) contexts
  refine ⟨reached, ends.completed, ends.paths.trans (contexts ▸ paths), ?_, ?_⟩
  · rw [ends.failed, getElem?_stageNames left]
  · rw [ends.files, came.after_files]
    exact spared

theorem At.overAfter (at_ : r.At disk n p s) (left : defaultStages.drop n = next :: rest)
    (failed : FailsIn r (notes.started next.name s).2
      (next.run firstHandle (notes.started next.name s).2)) : r.OverAfter disk n p :=
  at_.came.overAfter at_.reached at_.stands.paths left failed

/-- A stage that succeeds leads to the next moment. -/
theorem Came.goesOn (came : r.Came n s) (left : defaultStages.drop n = next :: rest)
    (run : next.run firstHandle (notes.started next.name s).2 = (.ok (some firstHandle), s'))
    (stands : Stands r p' s')
    (reached : (r.after (n + 1)).files = s'.workspace.files → r.Reached disk (n + 1) p') :
    ∃ s'', r.At disk (n + 1) p' s'' ∧ counted s'' = counted s' := by
  have came' := came.step left run
  exact ⟨_, ⟨came', stands.finished next.name, reached came'.after_files⟩,
    counts_finished next.name s'⟩

theorem Came.writes (came : r.Came n s) {fs : FileSystem}
    (wrote : Wrote r.path d (notes.started next.name s).2.workspace.files (.ok ()) fs)
    (files : (r.after (n + 1)).files = fs) : r.Writes n d := by
  rw [Writes, came.after_files, files]
  exact wrote

/-- Where a stage ends with writing, the run is over or gets to the next moment. -/
theorem Came.endsWriting (came : r.Came n s) (reached : r.Reached disk n p)
    (paths : (contextAt s firstHandle).paths = p.paths)
    (left : defaultStages.drop n = next :: rest)
    (ends : EndsWriting r (some firstHandle) p' (notes.started next.name s).2
      (next.run firstHandle (notes.started next.name s).2))
    (reached' : r.Writes n p'.document → r.Reached disk (n + 1) p') :
    r.OverAfter disk n p ∨
      ((next.run firstHandle (notes.started next.name s).2).1 = .ok (some firstHandle) ∧
        ∃ s', r.At disk (n + 1) p' s' ∧
          counted s' = counted (next.run firstHandle (notes.started next.name s).2).2) := by
  rcases ends with failed | ⟨ok, stands, wrote⟩
  · exact Or.inl (came.overAfter reached paths left failed)
  · exact Or.inr ⟨ok, came.goesOn left (Prod.ext ok rfl) stands fun files =>
      reached' (came.writes wrote files)⟩

theorem begins (r : DefaultRun) : Begins r
    (notes.started initializeStore.name
      (start r.configuration r.directory r.patterns r.workspace)).2 :=
  ⟨rfl, ⟨.zero, rfl⟩, rfl, rfl⟩

theorem at_initialized (r : DefaultRun)
    (only : ∀ d, Document.read r.workspace.files r.path = .ok d → d = disk) :
    (∃ p, r.OverAfter disk 0 p) ∨ ∃ p s, r.At disk 1 p s := by
  have paths : (contextAt (start r.configuration r.directory r.patterns r.workspace)
    firstHandle).paths = [] := rfl
  rcases initializeStore_cases r.begins with failed | ⟨d, read, ends⟩
  · exact Or.inl ⟨_, r.came_zero.overAfter .start paths rfl failed⟩
  · obtain rfl := only d read
    let p : Progress := ⟨d, [], [], r.workspace.ids⟩
    rcases r.came_zero.endsWriting (p := p) .start paths rfl ends
      (fun writes => .initialized .start read writes) with stopped | ⟨_, s, there, _⟩
    · exact Or.inl ⟨_, stopped⟩
    · exact Or.inr ⟨_, s, there⟩

theorem At.resolve (there : r.At disk 1 p s) :
    r.OverAfter disk 1 p ∨ ∃ paths s', r.At disk 2 { p with paths } s' := by
  have left : defaultStages.drop 1 = resolvePatterns :: defaultStages.drop 2 := rfl
  rcases resolvePatterns_cases (there.stands.started resolvePatterns.name) with
    failed | ⟨paths, s', run, stands, files, always⟩
  · exact Or.inl (there.overAfter left failed)
  · have resolved : r.resolved = .ok paths := by
      rw [DefaultRun.resolved, there.came.after]
      exact always _ rfl rfl
    obtain ⟨s'', there', _⟩ := there.came.goesOn left run stands fun after =>
      .resolved there.reached resolved (by rw [after, files, there.came.after_files]; rfl)
    exact Or.inr ⟨paths, s'', there'⟩

theorem At.identify (there : r.At disk 2 p s) : ∃ s', r.At disk 3 { p with
    items := (Items.create r.directory p.paths p.ids).1
    ids := (Items.create r.directory p.paths p.ids).2 } s' := by
  have left : defaultStages.drop 2 = assignIdentities :: defaultStages.drop 3 := rfl
  obtain ⟨s', run, stands, files⟩ := assignIdentities_run
    (there.stands.started assignIdentities.name)
  obtain ⟨s'', there', _⟩ := there.came.goesOn left run stands fun after =>
    .identified there.reached (by rw [after, files, there.came.after_files]; rfl)
  exact ⟨s'', there'⟩

theorem At.commit (there : r.At disk 3 p s) :
    r.OverAfter disk 3 p ∨ ∃ s', r.At disk 4 (p.holding (withItems p.document p.items)) s' :=
  (there.came.endsWriting there.reached there.stands.paths rfl
    (commitFiles_cases (there.stands.started commitFiles.name))
    (.committed there.reached)).imp_right fun ⟨_, s', there', _⟩ => ⟨s', there'⟩

/-- The contents of what is tracked are loaded and counted. -/
theorem At.load (there : r.At disk 4 p s) :
    r.OverAfter disk 4 p ∨ ∃ tracked s', Tracks p.document tracked ∧
      r.At disk 5 (p.holding (withItems p.document
        (tracked.mapValues (Loading.reread r.sourceFiles)))) s' ∧
      Counts p.document (tracked.mapValues (Loading.reread r.sourceFiles)) s' := by
  have left : defaultStages.drop 4 = loadFileContents :: defaultStages.drop 5 := rfl
  rcases loadFileContents_cases (there.stands.started loadFileContents.name) with
    failed | ⟨tracked, tracks, read, ends, counts⟩
  · exact Or.inl (there.overAfter left failed)
  · have files : (notes.started loadFileContents.name s).2.workspace.files = r.sourceFiles :=
      there.came.after_files.symm
    rw [files] at read ends counts
    rcases there.came.endsWriting there.reached there.stands.paths left ends
      (.loaded there.reached tracks read) with stopped | ⟨ok, s', there', same⟩
    · exact Or.inl stopped
    · exact Or.inr ⟨tracked, s', tracks, there', by rw [Counts, same]; exact counts ok⟩

/-- The trees of what is tracked are made and counted. -/
theorem At.parse (there : r.At disk 5 p s) :
    r.OverAfter disk 5 p ∨ ∃ options tracked trees, Loading.optionsOf p.document = .ok options ∧
      Tracks p.document tracked ∧ Loading.MadeTrees options tracked trees ∧
      r.OverAfter disk 6 (p.holding (withItems p.document
        (tracked.mapValues (Loading.withTree (Entries.ofList trees))))) ∧
      r.stats.counts = ((counted s).1, (counted s).2.1, trees.length) := by
  have left : defaultStages.drop 5 = loadFileTrees :: [] := rfl
  rcases loadFileTrees_cases (there.stands.started loadFileTrees.name) with
    failed | ⟨options, tracked, trees, hoptions, tracks, made, failed | ⟨ok, stands, wrote⟩, counts⟩
  · exact Or.inl (there.overAfter left failed)
  · exact Or.inl (there.overAfter left failed)
  · have ends := there.came.ends left (Prod.ext ok rfl)
    have writes := there.came.writes wrote (r.after_all.trans ends.files)
    exact Or.inr ⟨options, tracked, trees, hoptions, tracks, made,
      ⟨.parsed there.reached tracks hoptions made writes, ends.completed,
        ends.paths.trans stands.paths, ends.failed, Or.inl rfl⟩, ends.counts.trans (counts ok)⟩

section Runs

variable (r : DefaultRun)
  (only : ∀ d, Document.read r.workspace.files r.path = .ok d → d = disk)
include only

theorem at_committed : (∃ n p, n < 4 ∧ r.OverAfter disk n p) ∨ ∃ p s, r.At disk 4 p s := by
  rcases r.at_initialized only with ⟨p, stopped⟩ | ⟨p, s, there⟩
  · exact Or.inl ⟨0, p, by omega, stopped⟩
  rcases there.resolve with stopped | ⟨paths, s, there⟩
  · exact Or.inl ⟨1, p, by omega, stopped⟩
  obtain ⟨s, there⟩ := there.identify
  rcases there.commit with stopped | ⟨s, there⟩
  · exact Or.inl ⟨3, _, by omega, stopped⟩
  · exact Or.inr ⟨_, s, there⟩

theorem at_loaded : (∃ n p, n < 5 ∧ r.OverAfter disk n p) ∨ ∃ p s, r.At disk 5 p s := by
  rcases r.at_committed only with ⟨n, p, early, stopped⟩ | ⟨p, s, there⟩
  · exact Or.inl ⟨n, p, by omega, stopped⟩
  rcases there.load with stopped | ⟨_, s, _, there, _⟩
  · exact Or.inl ⟨4, _, by omega, stopped⟩
  · exact Or.inr ⟨_, s, there⟩

/-- Every run is over after some of its stages. -/
theorem exists_overAfter : ∃ n p, r.OverAfter disk n p := by
  rcases r.at_loaded only with ⟨n, p, _, stopped⟩ | ⟨p, s, there⟩
  · exact ⟨n, p, stopped⟩
  rcases there.parse with stopped | ⟨_, _, _, _, _, _, stopped, _⟩
  · exact ⟨5, _, stopped⟩
  · exact ⟨6, _, stopped⟩

end Runs

end DefaultRun

end SourceLedger
