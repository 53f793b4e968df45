import SourceLedger.Proofs.Run.Disk
import SourceLedger.Proofs.Store.Merged
import SourceLedger.Proofs.Store.Writable

/-!
# The cached configuration

The first stage merges the configuration into what the document has cached: a table of an earlier
run is written over entry by entry, so that its other entries remain. The stage succeeds exactly if
the merged document can be written.
-/

namespace SourceLedger

open FileSystem Run Store

namespace DefaultRun

variable {r : DefaultRun} {fs : FileSystem} {start : Path} {d : Document} {s : State}

/-- The workspace in which a run starts: its store has not loaded anything. -/
def opened (r : DefaultRun) : Workspace := { r.workspace with store := Store.new r.path }

/-- What the first stage comes to. -/
def initialized (r : DefaultRun) : Except Failure (Option Handle) × State :=
  initializeStore.run firstHandle (Run.start r.configuration r.directory r.patterns r.workspace)

/-- The document with the configuration of the run merged in. -/
def configured (r : DefaultRun) (d : Document) : Document :=
  merged d Document.configName r.configuration.values

/-- What a new store reads after the first stage. -/
def reopened (r : DefaultRun) : Except Failure Document :=
  (Store.load { r.initialized.2.workspace with store := Store.new r.path }).1

/-- The system takes whatever is written to the path of the document. -/
def Writable (r : DefaultRun) : Prop :=
  ∀ bytes, ((Writing.store r.path ⟨bytes, none⟩).run.run r.workspace.faults
    r.workspace.files).result = .ok ()

theorem initialized_of_read (read : Document.read r.workspace.files r.path = .ok d) :
    r.initialized =
      (((writing r.opened (r.configured d)).result.mapError (·.failure r.path)).map
        fun _ => some firstHandle,
      { Run.start r.configuration r.directory r.patterns r.workspace with
        workspace := written r.opened (r.configured d) }) := by
  let s := Run.start r.configuration r.directory r.patterns r.workspace
  have loaded : work Store.load s = (.ok d, { s with workspace := holding r.opened d }) :=
    work_of_eq (load_new read)
  have merge : Store.merge Document.configName (.table r.configuration.values)
      (holding r.opened d) =
        ((writing r.opened (r.configured d)).result.mapError (·.failure r.path),
          written r.opened (r.configured d)) :=
    merge_of_ok Document.configName (.table r.configuration.values) (load_of_cached rfl)
  exact stage_of_run ((Job.bind_of_ok loaded).trans ((Job.get_bind _ _).trans (work_of_eq merge)))

/-- The first stage succeeds only if there is a document to read and the merged one is written. -/
theorem initialized_eq_ok (ran : r.initialized = (.ok (some firstHandle), s)) :
    ∃ d, Document.read r.workspace.files r.path = .ok d ∧
      (writing r.opened (r.configured d)).result = .ok () ∧
      s.workspace = written r.opened (r.configured d) := by
  have begins : Begins r (Run.start r.configuration r.directory r.patterns r.workspace) :=
    ⟨rfl, ⟨.zero, rfl⟩, rfl, rfl⟩
  have ran' : initializeStore.run firstHandle _ = _ := ran
  rcases initializeStore_cases begins with ⟨failure, failed, _⟩ | ⟨d, read, _⟩
  · rw [ran'] at failed
    cases failed
  · rw [initialized_of_read read] at ran
    obtain ⟨result, rfl⟩ := Prod.mk.inj ran
    refine ⟨d, read, ?_, rfl⟩
    cases done : (writing r.opened (r.configured d)).result with
    | ok => rfl
    | error problem =>
        rw [done] at result
        cases result

/-- A run in which nothing is refused by chance can write whatever it has to if it can write an
empty file. -/
theorem writable_of_calm (tree : r.workspace.files.IsTree) (calm : r.workspace.faults = [])
    (one : ((Writing.store r.path ⟨[], none⟩).run.run [] r.workspace.files).result = .ok ()) :
    r.Writable := by
  intro bytes
  rw [calm]
  exact Writing.store_takes tree r.ending_path one bytes

section Loaded

variable (loaded : Configuration.load fs start = .ok r.configuration)
  (tree : r.workspace.files.IsTree)
include loaded

theorem configured_complete (read : Document.read r.workspace.files r.path = .ok d) :
    (r.configured d).Complete :=
  merged_complete (Document.complete_of_read read) _ (Configuration.distinct_of_load loaded) rfl

include tree

/-- A new store reads the document that the first stage has written. -/
theorem reopened_of_written (read : Document.read r.workspace.files r.path = .ok d)
    (done : (writing r.opened (r.configured d)).result = .ok ()) :
    Writing.UnlessPast r.workspace.files r.initialized.2.workspace.files r.path
      (r.reopened = .ok (r.configured d)) := by
  have ran := congrArg Prod.snd (initialized_of_read read)
  rw [reopened, ran]
  exact load_of_written (w := r.opened) tree r.ending_path (configured_complete loaded read) done

/-- What the first stage leaves cached, in memory as on disk, is the configuration over what an
earlier run had cached: an entry that the configuration does not have remains. So the configuration
is cached as it is exactly if it has every key that was cached before. -/
theorem initialized_cached (ran : r.initialized = (.ok (some firstHandle), s)) :
    ∃ d cached, Document.read r.workspace.files r.path = .ok d ∧
      s.workspace.store.cached = some (r.configured d) ∧
      Writing.UnlessPast r.workspace.files s.workspace.files r.path
        (r.reopened = .ok (r.configured d)) ∧
      namespaceOf (r.configured d) Document.configName = .table cached ∧
      (∀ key, Entries.get? cached key = (Entries.get? r.configuration.values key).or
        (Entries.get? (tableIn d Document.configName) key)) ∧
      ((∀ key, Entries.get? cached key = Entries.get? r.configuration.values key) ↔
        ∀ key ∈ Entries.keys (tableIn d Document.configName),
          key ∈ Entries.keys r.configuration.values) := by
  obtain ⟨d, read, done, workspace⟩ := initialized_eq_ok ran
  have nodup := (Configuration.distinct_of_load loaded).nodup
  have reopened := reopened_of_written loaded tree read done
  rw [ran] at reopened
  exact ⟨d, _, read, workspace ▸ rfl, reopened, namespaceOf_merged _ _ _,
    Entries.get?_update nodup, Entries.get?_update_eq_iff nodup⟩

/-- Texts of a loaded configuration are scalar, and what could be copied is not nested too deeply to
be written. So where the system takes whatever is written, the first stage succeeds exactly if there
is no moment in the configuration and no integer that is too long, and if what the document keeps
can be written. The configuration is read back then. -/
theorem initialized_iff (writable : r.Writable)
    (read : Document.read r.workspace.files r.path = .ok d) :
    (Value.table r.configuration.values).Scalar ∧
    (r.initialized.1 = .ok (some firstHandle) ↔
      KeptFits d Document.configName r.configuration.values ∧
        ∀ e ∈ r.configuration.values, e.2.HasForm) ∧
    (r.initialized.1 = .ok (some firstHandle) →
      Writing.UnlessPast r.workspace.files r.initialized.2.workspace.files r.path
        (∃ d' cached, r.reopened = .ok d' ∧ namespaceOf d' Document.configName = .table cached ∧
          ∀ key v, Entries.get? r.configuration.values key = some v →
            Entries.get? cached key = some v)) := by
  have nodup := (Configuration.distinct_of_load loaded).nodup
  have scalar := Configuration.scalar_of_load loaded
  have writes : r.initialized.1 = .ok (some firstHandle) ↔
      (writing r.opened (r.configured d)).result = .ok () := by
    rw [initialized_of_read read]
    cases (writing r.opened (r.configured d)).result with
    | ok => exact iff_of_true rfl rfl
    | error => exact iff_of_false nofun nofun
  refine ⟨scalar, ?_, fun ok => ?_⟩
  · rw [writes, writing_ok_iff (w := r.opened) tree r.ending_path writable]
    refine (fault_merged_iff (Document.complete_of_read read).distinct rfl nodup).trans ?_
    refine and_congr_right fun _ => forall₂_congr fun e he => ?_
    have nesting : e.2.nesting ≤ Configuration.maxNesting - 1 :=
      Value.nesting_of_mem (Configuration.nesting_of_load loaded) he
    have shallow : e.2.nesting ≤ Json.maxDepth - 2 := nesting.trans (by decide)
    rw [and_iff_right (Value.scalar_table.mp scalar e he).1, Value.fits_iff,
      and_iff_left shallow]
  · refine (reopened_of_written loaded tree read (writes.mp ok)).imp fun reopened => ?_
    refine ⟨_, _, reopened, namespaceOf_merged _ _ _, fun key v hv => ?_⟩
    rw [Entries.get?_update nodup, hv, Option.some_or]

end Loaded

section Examples

/-- Files with a configuration, and with a document in which another one is cached. -/
def staleFiles : FileSystem where
  nodes := [(["syndox.toml"], textFile "new = 1"), ([".syndox"], .directory),
    ([".syndox", "db.json"], textFile "\x7b\"config\": \x7b\"old\": 1\x7d\x7d")]
  current := []

/-- A run over them starts with what the two laws ask for. -/
private theorem exists_stale :
    ∃ r d s, startedIn staleFiles [] "/" [] = .ok r ∧
      Configuration.load staleFiles (Path.ofText "/") = .ok r.configuration ∧
      r.workspace.files.IsTree ∧ r.Writable ∧
      Document.read r.workspace.files r.path = .ok d ∧
      r.initialized = (.ok (some firstHandle), s) := by
  have runs : (startedIn staleFiles [] "/" []).toOption.map (fun r =>
      ((Document.read r.workspace.files r.path).toOption.isSome, r.initialized.1.toOption,
        ((Writing.store r.path ⟨[], none⟩).run.run [] r.workspace.files).result.toOption)) =
      some (true, some (some firstHandle), some ()) := by
    decide +kernel
  obtain ⟨r, started, shown⟩ := Option.map_eq_some_iff.mp runs
  obtain ⟨reads, shown⟩ := Prod.mk.inj shown
  obtain ⟨ran, stores⟩ := Prod.mk.inj shown
  obtain ⟨d, read⟩ := Option.isSome_iff_exists.mp reads
  have started := eq_ok_of_toOption started
  obtain ⟨loaded, files, calm⟩ := startedIn_eq_ok started
  have tree : r.workspace.files.IsTree := files ▸ isTree_of_nodes (by decide +kernel)
  exact ⟨r, d, _, started, loaded, tree, writable_of_calm tree calm (eq_ok_of_toOption stores),
    eq_ok_of_toOption read, Prod.ext (eq_ok_of_toOption ran) rfl⟩

theorem initialized_cached_stale :
    ∃ r s, startedIn staleFiles [] "/" [] = .ok r ∧
      (Configuration.load staleFiles (Path.ofText "/") = .ok r.configuration ∧
        r.workspace.files.IsTree ∧ r.initialized = (.ok (some firstHandle), s)) ∧
      ∃ d cached, Document.read r.workspace.files r.path = .ok d ∧
        s.workspace.store.cached = some (r.configured d) ∧
        Writing.UnlessPast r.workspace.files s.workspace.files r.path
          (r.reopened = .ok (r.configured d)) ∧
        namespaceOf (r.configured d) Document.configName = .table cached ∧
        (∀ key, Entries.get? cached key = (Entries.get? r.configuration.values key).or
          (Entries.get? (tableIn d Document.configName) key)) ∧
        ((∀ key, Entries.get? cached key = Entries.get? r.configuration.values key) ↔
          ∀ key ∈ Entries.keys (tableIn d Document.configName),
            key ∈ Entries.keys r.configuration.values) := by
  obtain ⟨r, _, s, started, loaded, tree, -, -, ran⟩ := exists_stale
  exact ⟨r, s, started, ⟨loaded, tree, ran⟩, initialized_cached loaded tree ran⟩

/-- A key that is taken out of the configuration file after a run is still cached after the next
one. -/
theorem removed_key_remains :
    let first := startedIn ⟨[(["syndox.toml"], textFile "extra = 1")], []⟩ [] "/" []
    let second := first.bind fun r =>
      startedIn (r.final.files.put ["syndox.toml"] (textFile "")) [] "/" []
    second.toOption.map (fun r => (r.initialized.1.toOption, Entries.keys r.configuration.values,
      r.reopened.toOption.map fun d => Entries.keys (tableIn d Document.configName))) =
        some (some (some firstHandle), [("out" : Text), "parse"],
          some [("out" : Text), "parse", "extra"]) := by
  decide +kernel

theorem initialized_iff_stale :
    ∃ r d, startedIn staleFiles [] "/" [] = .ok r ∧
      (Configuration.load staleFiles (Path.ofText "/") = .ok r.configuration ∧
        r.workspace.files.IsTree ∧ r.Writable ∧
        Document.read r.workspace.files r.path = .ok d) ∧
      (Value.table r.configuration.values).Scalar ∧
      (r.initialized.1 = .ok (some firstHandle) ↔
        KeptFits d Document.configName r.configuration.values ∧
          ∀ e ∈ r.configuration.values, e.2.HasForm) ∧
      (r.initialized.1 = .ok (some firstHandle) →
        Writing.UnlessPast r.workspace.files r.initialized.2.workspace.files r.path
          (∃ d' cached, r.reopened = .ok d' ∧ namespaceOf d' Document.configName = .table cached ∧
            ∀ key v, Entries.get? r.configuration.values key = some v →
              Entries.get? cached key = some v)) := by
  obtain ⟨r, d, _, started, loaded, tree, writable, read, -⟩ := exists_stale
  exact ⟨r, d, started, ⟨loaded, tree, writable, read⟩,
    initialized_iff loaded tree writable read⟩

/-- A date is accepted in a configuration and has no form in a document, so that the first stage
fails where there is nothing but the configuration. -/
theorem date_not_cached :
    let files : FileSystem := ⟨[(["syndox.toml"], textFile "d = 2020-01-01")], []⟩
    ∃ r, startedIn files [] "/" [] = .ok r ∧ r.Writable ∧
      (Document.read r.workspace.files r.path).toOption.isSome = true ∧
      r.outcome.failure.map (fun f => (f.stage, f.kind, f.message)) =
        some (initializeStore.name, ErrorKind.persistence,
          ("Cannot write /.syndox/db.json: Object of type date is not JSON serializable" : Text)) := by
  intro files
  have stores : (startedIn files [] "/" []).toOption.map (fun r =>
      ((Writing.store r.path ⟨[], none⟩).run.run [] r.workspace.files).result.toOption) =
        some (some ()) := by decide +kernel
  have fails : (startedIn files [] "/" []).toOption.map (fun r =>
      ((Document.read r.workspace.files r.path).toOption.isSome,
        r.outcome.failure.map fun f => (f.stage, f.kind, f.message))) =
      some (true, some (initializeStore.name, ErrorKind.persistence,
        ("Cannot write /.syndox/db.json: Object of type date is not JSON serializable" : Text))) := by
    decide +kernel
  obtain ⟨r, started, shown⟩ := Option.map_eq_some_iff.mp fails
  obtain ⟨reads, failed⟩ := Prod.mk.inj shown
  rw [started] at stores
  have started := eq_ok_of_toOption started
  obtain ⟨-, same, calm⟩ := startedIn_eq_ok started
  have tree : r.workspace.files.IsTree := same ▸ isTree_of_nodes (by decide +kernel)
  have writable := writable_of_calm tree calm (eq_ok_of_toOption (Option.some.inj stores))
  exact ⟨r, started, writable, reads, failed⟩

end Examples

end DefaultRun

end SourceLedger
