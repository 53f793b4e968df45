import SourceLedger.Proofs.ParseOptions
import SourceLedger.Proofs.Run.Refresh

/-!
# Options that are rejected late

A configuration is loaded whatever its parse options are, as long as they are a table. The last
stage is the first to look into that table. If it rejects the options, the new items are in the
document already, and their trees are empty.
-/

namespace SourceLedger

open FileSystem Run Store

namespace DefaultRun

variable {r : DefaultRun} {n : Nat} {p : Progress} {s : State} {disk : Document} {key : Text}
  {fs : FileSystem} {start : Path} {fault : ParseOptions.Fault}

/-- Once contents are loaded, the trees of what was resolved are still empty. -/
theorem Reached.tree_empty (reached : r.Reached disk 5 p) (complete : disk.Complete)
    (distinct : Value.Table.Distinct r.configuration.values) (hkey : key ∈ p.paths) :
    part p.document key "ast" = some (.table []) := by
  cases reached with
  | @loaded p tracked before tracks _ _ =>
      obtain ⟨k, _, _, stored⟩ := before.committed_item hkey
      have found := tracks.get?_of_stored (Item.create_plain _ _ _) stored
      have files := tracks.get?_withItems (before.complete complete distinct).distinct
        (Loading.reread r.sourceFiles)
      have entry : Entries.get? (filesOf (withItems p.document
          (tracked.mapValues (Loading.reread r.sourceFiles)))) key =
            some (Loading.reread r.sourceFiles
              (Item.create (IdSupply.idOf k) r.directory key)).toValue := by
        rw [filesOf, tableIn, files]
        change Entries.get? (Items.toTable _) key = _
        rw [Items.get?_toTable, Entries.get?_mapValues, found]
        rfl
      rw [Progress.holding_document, part, entry]
      simp [Item.toValue, Value.follow?, Loading.reread, Item.create]

/-- Rejected options are what the run fails with, and the last stage leaves the files alone. -/
theorem At.rejects (there : r.At disk 5 p s)
    (rejected : Loading.optionsOf p.document = .error fault) :
    r.outcome.failure = some (Pipeline.StageFailure.of loadFileTrees.name fault.failure) ∧
      r.final.files = (r.after 5).files ∧ r.paths = p.paths := by
  have left : defaultStages.drop 5 = loadFileTrees :: [] := rfl
  have stands := there.stands.started loadFileTrees.name
  have run := loadFileTrees_rejects stands rejected
  have ends := there.came.fails left run
  exact ⟨there.came.failure left run, ends.files.trans there.came.after_files.symm,
    ends.paths.trans stands.paths⟩

/-- The check of a configuration asks for a table of parse options, and the parser for one that
gives options. A run whose options are rejected fails. If it gets to the last stage, it fails there
for the options, and in the document that it leaves behind the trees of all items that it has
resolved are empty. -/
theorem rejected_options_empty_trees (loaded : Configuration.load fs start = .ok r.configuration)
    (tree : r.workspace.files.IsTree) :
    (∀ values source, Configuration.validate values source = .ok () ↔
      Configuration.Accepted values) ∧
    (∃ es, r.configuration.get Configuration.optionsKey = .table es ∧
      ∀ options, r.options = .ok options ↔ options.GivenBy es) ∧
    ∀ fault, r.options = .error fault →
      ∃ failure, r.outcome.failure = some failure ∧
        (loadFileContents.name ∈ r.outcome.completed →
          failure = .of loadFileTrees.name fault.failure ∧
          ∃ d, r.left = .ok d ∧ ∀ key ∈ r.paths, part d key "ast" = some (.table [])) := by
  obtain ⟨es, options⟩ := Configuration.exists_options loaded
  refine ⟨fun _ _ => Configuration.validate_eq_ok_iff, ⟨es, options, fun o => ?_⟩, ?_⟩
  · rw [DefaultRun.options, options]
    exact ParseOptions.ofValue_table_iff
  intro fault rejected
  obtain ⟨disk, only⟩ := r.exists_disk
  rcases r.at_loaded only with ⟨n, p, early, stopped⟩ | ⟨p, s, there⟩
  · obtain ⟨failure, failed⟩ := stopped.fails (by omega)
    refine ⟨failure, failed, fun completed => ?_⟩
    have late := stopped.lt_of_completed (m := 4) rfl completed
    omega
  · have reached := there.reached
    have complete := Document.complete_of_read (reached.read (by omega))
    have distinct := Configuration.distinct_of_load loaded
    have asked := (reached.optionsOf loaded (by omega)).trans rejected
    obtain ⟨failed, files, paths⟩ := there.rejects asked
    refine ⟨_, failed, fun _ => ⟨rfl, p.document, ?_, fun key hkey => ?_⟩⟩
    · rw [left_eq_read, files]
      exact reached.read_loaded tree complete distinct
    · exact reached.tree_empty complete distinct (paths ▸ hkey)

section Examples

/-- Files with a source, and with a configuration that asks for an option that there is not. -/
def wronglyConfigured : FileSystem where
  nodes := [(["syndox.toml"], textFile "[parse.options]\nwrong = true\n"),
    (["a.py"], textFile "x\n")]
  current := []

theorem rejected_options_empty_trees_wrong :
    ∃ r fault, startedIn wronglyConfigured [] "/" ["a.py"] = .ok r ∧
      (Configuration.load wronglyConfigured (Path.ofText "/") = .ok r.configuration ∧
        r.workspace.files.IsTree ∧ r.options = .error fault ∧
        loadFileContents.name ∈ r.outcome.completed) ∧
      (∀ values source, Configuration.validate values source = .ok () ↔
        Configuration.Accepted values) ∧
      (∃ es, r.configuration.get Configuration.optionsKey = .table es ∧
        ∀ options, r.options = .ok options ↔ options.GivenBy es) ∧
      ∃ failure, r.outcome.failure = some failure ∧
        failure = .of loadFileTrees.name fault.failure ∧
        ∃ d, r.left = .ok d ∧ ∀ key ∈ r.paths, part d key "ast" = some (.table []) := by
  have runs : (startedIn wronglyConfigured [] "/" ["a.py"]).toOption.map (fun r =>
      (r.options.toOption, decide (loadFileContents.name ∈ r.outcome.completed))) =
        some (none, true) := by decide +kernel
  obtain ⟨r, started, shown⟩ := Option.map_eq_some_iff.mp runs
  obtain ⟨rejected, completed⟩ := Prod.mk.inj shown
  have completed := of_decide_eq_true completed
  have started := eq_ok_of_toOption started
  obtain ⟨loaded, files, -⟩ := startedIn_eq_ok started
  have tree : r.workspace.files.IsTree := files ▸ isTree_of_nodes (by decide +kernel)
  cases options : r.options with
  | ok o =>
      rw [options] at rejected
      cases rejected
  | error fault =>
      obtain ⟨checked, given, late⟩ := rejected_options_empty_trees loaded tree
      obtain ⟨failure, failed, late⟩ := late fault options
      exact ⟨r, fault, started, ⟨loaded, tree, options, completed⟩, checked, given, failure, failed,
        late completed⟩

/-- A run with an option that there is not empties the tree that an earlier run has made. -/
theorem wrong_option_empties :
    let shown (answer : Except Failure Document) : Option (Option Bool) :=
      answer.toOption.map fun d => (part d "a.py" "ast").map (·.isEmpty)
    let first := plain [(["a.py"], textFile "x\n")] ["a.py"]
    let second := startedIn
      (first.final.files.put ["syndox.toml"] (textFile "[parse.options]\nwrong = true\n"))
      [] "/" ["a.py"]
    shown first.left = some (some false) ∧
    second.toOption.map (fun r => (r.options.toOption.isSome, shown r.left)) =
      some (false, some (some true)) ∧
    second.toOption.bind (fun r => r.outcome.failure.map fun f => (f.stage, f.kind, f.message)) =
      some (loadFileTrees.name, ErrorKind.config, ("Unknown parse options: wrong" : Text)) := by
  decide +kernel

end Examples

end DefaultRun

end SourceLedger
