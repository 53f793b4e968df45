import SourceLedger.Proofs.Run.Course
import SourceLedger.Proofs.Store.Rewriting

/-!
# Documents that runs leave on disk

What a default run has got to is also what is on disk, as long as the path of the document does not
have a `..` behind a directory that is missing. After a run that went through, a new store reads the
last document that it wrote, whatever the path is. A stage that fails leaves the document as it was
when the stage before had finished.
-/

namespace SourceLedger

open FileSystem Run Store

variable {fs fs' : FileSystem} {path : Path} {d disk : Document} {problem : WriteProblem}

namespace Store

theorem onDisk_of_read {bytes : Bytes} (h : Document.read fs path = .ok d)
    (there : fs.read path.toText = .ok bytes) : OnDisk fs path d := by
  have found : fs.find? path.toText = .ok (some (.file bytes)) := by
    rw [find?, read_eq_ok_iff.mp there]
  obtain ⟨isThere, isPresent, h⟩ := bind_eq_ok h
  cases isThere with
  | false =>
      rw [present, found] at isPresent
      cases isPresent
  | true =>
      obtain ⟨bytes', read, h⟩ := bind_eq_ok h
      cases there.symm.trans (mapError_eq_ok read)
      obtain ⟨d', denotes, h⟩ := bind_eq_ok h
      cases h
      exact .present there (mapError_eq_ok denotes)

end Store

namespace Run

theorem Wrote.isTree {result : Except WriteProblem Unit} (wrote : Wrote path d fs result fs')
    (tree : fs.IsTree) : fs'.IsTree := by
  obtain ⟨w, rfl, _, _, rfl⟩ := wrote
  exact Script.isTree_final _ _ tree

section Settled

variable (tree : fs.IsTree) (proper : path.Proper) (settled : Settled fs path)
include tree proper settled

theorem Wrote.underway (wrote : Wrote path d fs (.error problem) fs') :
    Writing.Underway fs path (Json.write (.table d)) fs' := by
  obtain ⟨w, rfl, rfl, failed, rfl⟩ := wrote
  rcases writing_cases d tree proper settled with ⟨_, _, underway⟩ | ⟨done, _⟩
  · exact underway
  · cases failed.symm.trans done

theorem Wrote.finished (wrote : Wrote path d fs (.ok ()) fs') :
    Writing.Finished fs path (Json.write (.table d)) fs' := by
  obtain ⟨w, rfl, rfl, done, rfl⟩ := wrote
  rcases writing_cases d tree proper settled with ⟨_, failed, _⟩ | ⟨_, finished⟩
  · cases failed.symm.trans done
  · exact finished

theorem Spared.intact (spared : Spared path fs fs') : Writing.Intact fs path fs' := by
  rcases spared with rfl | ⟨d, problem, wrote⟩
  · exact .refl _ _
  · exact (wrote.underway tree proper settled).halfway.intact tree proper

end Settled

theorem Spared.onDisk (spared : Spared path fs fs') (tree : fs.IsTree) (proper : path.Proper)
    (disk : OnDisk fs path d) : OnDisk fs' path d := by
  rcases spared with rfl | ⟨d, problem, wrote⟩
  · exact disk
  · exact disk.underway (wrote.underway tree proper (disk.settled proper)) tree proper

section Ending

variable (tree : fs.IsTree) (ending : Ending path)
include tree ending

theorem Wrote.landed (wrote : Wrote path d fs (.ok ()) fs') :
    Writing.Landed fs path (Json.write (.table d)) fs' := by
  obtain ⟨w, rfl, rfl, done, rfl⟩ := wrote
  rcases landed_or_keeps d tree ending with ⟨_, landed⟩ | ⟨⟨_, failed⟩, _⟩
  · exact landed
  · cases failed.symm.trans done

theorem Spared.keeps (spared : Spared path fs fs') : Keeps fs fs' := by
  rcases spared with rfl | ⟨d, problem, w, rfl, rfl, failed, rfl⟩
  · exact .refl _
  · rcases landed_or_keeps d tree ending with ⟨done, _⟩ | ⟨_, keeps⟩
    · cases failed.symm.trans done
    · exact keeps

end Ending

end Run

namespace DefaultRun

variable {r : DefaultRun} {n : Nat} {p : Progress}

theorem ending_path (r : DefaultRun) : Ending r.path :=
  ending_child _ ⟨by decide, by decide⟩ (by decide) (by decide)

/-- A new store reads what is at the path of the document. -/
theorem left_eq_read (r : DefaultRun) : r.left = Document.read r.final.files r.path := by
  rw [left, load_of_none (w := { r.final with store := Store.new r.path }) rfl]
  cases read : Document.read r.final.files (Store.new r.path).path with
  | ok d => exact read.symm
  | error failure => exact read.symm

theorem Reached.isTree (reached : r.Reached disk n p) (tree : r.workspace.files.IsTree) :
    (r.after n).files.IsTree := by
  induction reached with
  | start => rwa [r.after_zero]
  | initialized _ _ writes ih => exact writes.isTree ih
  | resolved _ _ files ih => rwa [files]
  | identified _ files ih => rwa [files]
  | committed _ writes ih => exact writes.isTree ih
  | loaded _ _ _ writes ih => exact writes.isTree ih
  | parsed _ _ _ _ writes ih => exact writes.isTree ih

theorem Reached.le_six (reached : r.Reached disk n p) : n ≤ 6 := by
  cases reached <;> omega

theorem Reached.ids (reached : r.Reached disk n p) (early : n ≤ 2) : p.ids = r.workspace.ids := by
  induction reached with
  | start => rfl
  | initialized _ _ _ ih => exact ih (by omega)
  | resolved _ _ _ ih => exact ih (by omega)
  | identified | committed | loaded | parsed => omega

theorem Reached.read (reached : r.Reached disk n p) (late : 0 < n) :
    Document.read r.workspace.files r.path = .ok disk := by
  induction reached with
  | start => omega
  | initialized before read _ =>
      cases before
      exact read
  | resolved _ _ _ ih => exact ih (by omega)
  | identified _ _ ih => exact ih (by omega)
  | committed _ _ ih => exact ih (by omega)
  | loaded _ _ _ _ ih => exact ih (by omega)
  | parsed _ _ _ _ _ ih => exact ih (by omega)

theorem Reached.resolvedTo (reached : r.Reached disk n p) (late : 2 ≤ n) :
    r.resolved = .ok p.paths := by
  induction reached with
  | start | initialized => omega
  | resolved _ resolved _ ih => exact resolved
  | identified _ _ ih => exact ih (by omega)
  | committed _ _ ih => exact ih (by omega)
  | loaded _ _ _ _ ih => exact ih (by omega)
  | parsed _ _ _ _ _ ih => exact ih (by omega)

theorem Reached.items (reached : r.Reached disk 3 p) :
    p.items = (Items.create r.directory p.paths r.workspace.ids).1 := by
  cases reached with
  | identified before _ => rw [before.ids (by omega)]

/-- What holds of the document that was there before, and is kept by the four writings of a run,
holds of the document at every moment. -/
theorem Reached.keeps {P : Document → Prop} (reached : r.Reached disk n p) (start : P disk)
    (configured : ∀ p, r.Reached disk 0 p → P p.document →
      P (merged p.document Document.configName r.configuration.values))
    (committed : ∀ p, r.Reached disk 3 p → P p.document → P (withItems p.document p.items))
    (loaded : ∀ p tracked, r.Reached disk 4 p → Tracks p.document tracked → P p.document →
      P (withItems p.document (tracked.mapValues (Loading.reread r.sourceFiles))))
    (parsed : ∀ p tracked options trees, r.Reached disk 5 p → Tracks p.document tracked →
      Loading.MadeTrees options tracked trees → P p.document →
      P (withItems p.document (tracked.mapValues (Loading.withTree (Entries.ofList trees))))) :
    P p.document := by
  induction reached with
  | start => exact start
  | initialized before _ _ ih => exact configured _ before ih
  | resolved _ _ _ ih => exact ih
  | identified _ _ ih => exact ih
  | committed before _ ih => exact committed _ before ih
  | loaded before tracks _ _ ih => exact loaded _ _ before tracks ih
  | parsed before tracks _ made _ ih => exact parsed _ _ _ _ before tracks made ih

/-- Documents are complete at every moment. -/
theorem Reached.complete (reached : r.Reached disk n p) (complete : disk.Complete)
    (distinct : Value.Table.Distinct r.configuration.values) : p.document.Complete := by
  refine reached.keeps complete (fun _ _ h => merged_complete h _ distinct rfl)
    (fun p before h => ?_) (fun _ _ _ tracks h => ?_) fun _ _ _ _ _ tracks made h => ?_
  · rw [before.items]
    refine withItems_complete h (Items.nodup_create _ _ _) fun e he => ?_
    obtain ⟨_, id, heq⟩ := Items.eq_create_of_mem he
    exact heq ▸ Item.create_distinct _ _ _
  · exact tracks.complete_mapValues h fun _ _ => Loading.reread_distinct
  · exact tracks.complete_mapValues h fun _ _ => made.distinct_withTree

section OnDisk

variable (tree : r.workspace.files.IsTree) (proper : r.path.Proper)
  (distinct : Value.Table.Distinct r.configuration.values)
  (start : OnDisk r.workspace.files r.path disk)
include tree proper distinct start

/-- The document of a moment is on disk, and from the first writing on there is one. -/
theorem Reached.onDisk (reached : r.Reached disk n p) :
    OnDisk (r.after n).files r.path p.document ∧ (0 < n → ¬Missing (r.after n).files r.path) := by
  have written : ∀ {m next d} {p : Progress}, next = m + 1 → r.Reached disk m p →
      OnDisk (r.after m).files r.path p.document → r.Reached disk next (p.holding d) →
      r.Writes m d → OnDisk (r.after next).files r.path (p.holding d).document ∧
        (0 < next → ¬Missing (r.after next).files r.path) := by
    rintro m _ d p rfl before onDisk after writes
    have finished := writes.finished (before.isTree tree) proper (onDisk.settled proper)
    obtain ⟨filled, onDisk⟩ :=
      onDisk.finished finished (before.isTree tree) proper (after.complete start.complete distinct)
    exact ⟨onDisk, fun _ => filled⟩
  induction reached with
  | start =>
      rw [r.after_zero]
      exact ⟨start, nofun⟩
  | initialized before read writes ih =>
      exact written rfl before ih.1 (.initialized before read writes) writes
  | resolved _ _ files ih =>
      rw [files]
      exact ⟨ih.1, fun _ => ih.2 (by omega)⟩
  | identified _ files ih =>
      rw [files]
      exact ⟨ih.1, fun _ => ih.2 (by omega)⟩
  | committed before writes ih => exact written rfl before ih.1 (.committed before writes) writes
  | loaded before tracks read writes ih =>
      exact written rfl before ih.1 (.loaded before tracks read writes) writes
  | parsed before tracks asked made writes ih =>
      exact written rfl before ih.1 (.parsed before tracks asked made writes) writes

theorem OverAfter.onDisk (stopped : r.OverAfter disk n p) :
    OnDisk r.final.files r.path p.document :=
  stopped.spared.onDisk (stopped.reached.isTree tree) proper
    (stopped.reached.onDisk tree proper distinct start).1

/-- Where there was a document, or one was written, a new store reads the one that the run has got
to, whatever the run came to. -/
theorem OverAfter.left (stopped : r.OverAfter disk n p)
    (filled : 0 < n ∨ ¬Missing r.workspace.files r.path) : r.left = .ok p.document := by
  obtain ⟨onDisk, filled'⟩ := stopped.reached.onDisk tree proper distinct start
  have there : ¬Missing (r.after n).files r.path := by
    rcases n.eq_zero_or_pos with rfl | pos
    · rw [r.after_zero]
      exact filled.resolve_left (Nat.lt_irrefl 0)
    · exact filled' pos
  have tree' := stopped.reached.isTree tree
  have keeps := (stopped.spared.intact tree' proper (onDisk.settled proper)).keeps
  rw [left_eq_read]
  exact (stopped.onDisk tree proper distinct start).read fun missing =>
    absurd (missing.of_keeps keeps) there

end OnDisk

/-- A run without failure is over after the last stage. -/
theorem OverAfter.eq_six (stopped : r.OverAfter disk n p) (ok : r.outcome.failure = none) :
    n = 6 := by
  have none_left : stageNames[n]? = none := by
    rw [← stopped.failed, ok]
    rfl
  have most := stopped.reached.le_six
  have least : stageNames.length ≤ n := List.getElem?_eq_none_iff.mp none_left
  exact Nat.le_antisymm most least

/-- A stage is completed only if the run is over after it. -/
theorem OverAfter.lt_of_completed (stopped : r.OverAfter disk n p) {m : Nat} {name : Text}
    (there : stageNames[m]? = some name) (completed : name ∈ r.outcome.completed) : m < n := by
  have nodup : stageNames.Nodup := by decide
  rw [stopped.completed] at completed
  obtain ⟨k, hk, rfl⟩ := List.mem_take_iff_getElem.mp completed
  obtain ⟨hm, same⟩ := List.getElem?_eq_some_iff.mp there
  have index := (nodup.getElem_inj_iff).mp same
  omega

/-- A run that is over before the last stage has failed. -/
theorem OverAfter.fails (stopped : r.OverAfter disk n p) (early : n < 6) :
    ∃ failure, r.outcome.failure = some failure := by
  cases failed : r.outcome.failure with
  | none => exact absurd (stopped.eq_six failed) (Nat.ne_of_lt early)
  | some failure => exact ⟨failure, rfl⟩

/-- A run without failure has gone through all stages. -/
theorem OverAfter.all (stopped : r.OverAfter disk n p) (ok : r.outcome.failure = none) :
    r.Reached disk 6 p := by
  obtain rfl := stopped.eq_six ok
  exact stopped.reached

/-- A document that was loaded was written twice, so it is what is read then. -/
theorem Reached.read_loaded (reached : r.Reached disk 5 p) (tree : r.workspace.files.IsTree)
    (complete : disk.Complete) (distinct : Value.Table.Distinct r.configuration.values) :
    Document.read (r.after 5).files r.path = .ok p.document := by
  have complete := reached.complete complete distinct
  cases reached with
  | loaded before _ _ second =>
      cases before with
      | committed before first =>
          have tree := before.isTree tree
          have landed := first.landed tree r.ending_path
          exact read_of_landed landed (second.landed (first.isTree tree) r.ending_path) complete

/-- After a run that went through, a new store reads the document that was written last. -/
theorem Reached.left (reached : r.Reached disk 6 p) (tree : r.workspace.files.IsTree)
    (complete : disk.Complete) (distinct : Value.Table.Distinct r.configuration.values) :
    r.left = .ok p.document := by
  have complete := reached.complete complete distinct
  rw [left_eq_read, ← r.after_all]
  cases reached with
  | parsed before tracks asked made second =>
      cases before with
      | loaded before _ _ first =>
          have landed := first.landed (before.isTree tree) r.ending_path
          have landed' := second.landed (first.isTree (before.isTree tree)) r.ending_path
          exact read_of_landed landed landed' complete

/-- From the first writing on the document is found, or nothing is ever found at its path. -/
theorem Reached.found_or_lost (reached : r.Reached disk n p) (tree : r.workspace.files.IsTree)
    (late : 0 < n) :
    (∃ node, (r.after n).files.find false r.path.toText = .ok node) ∨
      Writing.Lost (r.after n).files r.path := by
  have written : ∀ {m d}, r.Writes m d → (r.after m).files.IsTree →
      (∃ node, (r.after (m + 1)).files.find false r.path.toText = .ok node) ∨
        Writing.Lost (r.after (m + 1)).files r.path :=
    fun writes tree => (writes.landed tree r.ending_path).found_or_lost.imp_left
      fun found => ⟨_, found false⟩
  induction reached with
  | start => omega
  | initialized before _ writes _ => exact written writes (before.isTree tree)
  | resolved _ _ files ih =>
      rw [files]
      exact ih (by omega)
  | identified _ files ih =>
      rw [files]
      exact ih (by omega)
  | committed before writes _ => exact written writes (before.isTree tree)
  | loaded before _ _ writes _ => exact written writes (before.isTree tree)
  | parsed before _ _ _ writes _ => exact written writes (before.isTree tree)

/-- At most one document is read before a run. -/
theorem exists_disk (r : DefaultRun) :
    ∃ disk, ∀ d, Document.read r.workspace.files r.path = .ok d → d = disk := by
  cases hr : Document.read r.workspace.files r.path with
  | ok disk => exact ⟨disk, fun _ h => (Except.ok.inj h).symm⟩
  | error => exact ⟨[], nofun⟩

/-- After a run that went through, the store is closed and still at the path of the document. -/
theorem final_store (ok : r.outcome.failure = none) : r.final.store = Store.new r.path := by
  obtain ⟨disk, only⟩ := r.exists_disk
  have goesOn : ∀ {n p}, n < 6 → ¬ r.OverAfter disk n p :=
    fun early stopped => absurd (stopped.eq_six ok) (Nat.ne_of_lt early)
  obtain ⟨n, p, early, stopped⟩ | ⟨p, s, there⟩ := r.at_loaded only
  · exact absurd stopped (goesOn (Nat.lt_succ_of_lt early))
  have left : defaultStages.drop 5 = loadFileTrees :: [] := rfl
  obtain failed | ⟨_, _, _, _, _, _, failed | ⟨done, stands, _⟩, _⟩ :=
    loadFileTrees_cases (there.stands.started loadFileTrees.name)
  · exact absurd (there.overAfter left failed) (goesOn (by omega))
  · exact absurd (there.overAfter left failed) (goesOn (by omega))
  · have run : loadFileTrees.run firstHandle (notes.started loadFileTrees.name s).2 =
        (.ok none, _) := Prod.ext done rfl
    have all := there.came.reach_all left
    rw [Pipeline.runFrom_cons, run] at all
    rw [final, ended_of_reach all]
    exact congrArg (fun store : Store => { store with cached := none }) stands.store

/-- A stage that fails writes nothing: the document is as it was when the last stage that was
completed had finished, or before the run if there was none. -/
theorem failed_stage_writes_nothing (tree : r.workspace.files.IsTree) (proper : r.path.Proper)
    (settled : r.outcome.completed = [] → Settled r.workspace.files r.path)
    {failure : Pipeline.StageFailure} (failed : r.outcome.failure = some failure) :
    ∃ n, r.outcome.completed = stageNames.take n ∧ stageNames[n]? = some failure.stage ∧
      Writing.Intact (r.after n).files r.path r.final.files := by
  obtain ⟨disk, only⟩ := r.exists_disk
  obtain ⟨n, p, stopped⟩ := r.exists_overAfter only
  have treeThen := stopped.reached.isTree tree
  refine ⟨n, stopped.completed, ?_, ?_⟩
  · rw [← stopped.failed, failed]
    rfl
  · rcases n.eq_zero_or_pos with rfl | late
    · exact stopped.spared.intact treeThen proper (settled stopped.completed)
    · rcases stopped.reached.found_or_lost tree late with ⟨node, found⟩ | lost
      · exact stopped.spared.intact treeThen proper (settled_of_find proper found)
      · have keeps := stopped.spared.keeps treeThen r.ending_path
        exact .of_vacant keeps (lost _ keeps)

section Examples

/-- A run whose configuration has no JSON form, since there is a date in it. -/
def dated : DefaultRun where
  configuration := ⟨[("d", .moment (.date ⟨2020, 1, 1⟩))], Path.ofText "/", none⟩
  directory := "/"
  patterns := []
  workspace := Store.opened [] "/"

theorem failed_stage_writes_nothing_dated :
    let r := dated
    (r.workspace.files.IsTree ∧ r.path.Proper ∧
      (r.outcome.completed = [] → Settled r.workspace.files r.path)) ∧
    ∃ failure, r.outcome.failure = some failure ∧
      ∃ n, r.outcome.completed = stageNames.take n ∧ stageNames[n]? = some failure.stage ∧
        Writing.Intact (r.after n).files r.path r.final.files := by
  intro r
  have tree : r.workspace.files.IsTree := isTree_empty
  have path : r.path = Path.ofText "/.syndox/db.json" := by decide +kernel
  have proper : r.path.Proper := path ▸ Path.ofText_proper _
  have settled : r.outcome.completed = [] → Settled r.workspace.files r.path :=
    fun _ => settled_of_notMem (by decide +kernel)
  have fails : r.outcome.failure.isSome = true := by decide +kernel
  obtain ⟨failure, failed⟩ := Option.isSome_iff_exists.mp fails
  exact ⟨⟨tree, proper, settled⟩, failure, failed,
    failed_stage_writes_nothing tree proper settled failed⟩

/-- The first stage can fail after it has made the directory before a `..`, behind which there is
another document. Or the system does not let it remove a temporary file, and the path of the
document is a link to it. -/
theorem failed_stage_shows :
    let shown (started : Except Failure DefaultRun) :
        Option (List Text × Option Bytes × Option Bytes) :=
      started.toOption.map fun r => (r.outcome.completed,
        (r.workspace.files.read r.path.toText).toOption,
        (r.final.files.read r.path.toText).toOption)
    let toml := textFile "d = 2020-01-01\nout = \"sub/../x\""
    let detour := startedIn
      ⟨[(["syndox.toml"], toml), (["x"], .directory), (["x", "db.json"], textFile "\x7b\x7d")], []⟩
      [] "/" []
    let stuck := startedIn
      ⟨[([".syndox"], .directory), ([".syndox", "db.json"], .link ".db.json.00000000")], []⟩
      [none, none, some .noSpace, some .inputOutput] "/" []
    shown detour = some ([], none, some (Utf8.encodeChars "\x7b\x7d".toList)) ∧
      shown stuck = some ([], none, some []) := by
  decide +kernel

end Examples

end DefaultRun

end SourceLedger
