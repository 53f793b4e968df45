import SourceLedger.Proofs.Run.Frame

/-!
# Runs one after another

Runs that go through and share a document can be started in different directories. Entries are kept
under the paths that patterns are resolved to, which are relative to the directory of a run, so one
run can take the entry of another one for its own: what a key stands for is decided by the last run
that resolved it.
-/

namespace SourceLedger

open FileSystem Run Store

namespace DefaultRun

/-- Runs without failure, one after another on the document at a path: what one of them leaves
behind is what the next one reads. -/
inductive Succession (path : Path) : Document → List DefaultRun → Document → Prop
  | nil (d : Document) : Succession path d [] d
  | cons {r : DefaultRun} {rs : List DefaultRun} {d d' d'' : Document} (at_path : r.path = path)
      (distinct : Value.Table.Distinct r.configuration.values) (tree : r.workspace.files.IsTree)
      (read : Document.read r.workspace.files path = .ok d) (ok : r.outcome.failure = none)
      (left : r.left = .ok d') (rest : Succession path d' rs d'') :
      Succession path d (r :: rs) d''

/-- The full path of the entry of a key, as runs one after another decide it. -/
def fullPathAfter (key : Text) : List DefaultRun → Option Value → Option Value
  | [], known => known
  | r :: rs, known =>
    fullPathAfter key rs
      (if key ∈ r.paths then some (.text (Path.resolve r.directory key)) else known)

variable {r : DefaultRun} {rs : List DefaultRun} {path : Path} {d d' : Document} {key : Text}
  {v : Value}

/-- A full path stays if every run that resolves the key means the same. -/
theorem fullPathAfter_of_same
    (same : ∀ r ∈ rs, key ∈ r.paths → Value.text (Path.resolve r.directory key) = v) :
    fullPathAfter key rs (some v) = some v := by
  induction rs with
  | nil => rfl
  | cons r rs ih =>
      rw [List.forall_mem_cons] at same
      rw [fullPathAfter]
      split_ifs with hkey
      · rw [same.1 hkey]
        exact ih same.2
      · exact ih same.2

/-- What one run that goes through does to the document that it reads. -/
theorem succession_step (distinct : Value.Table.Distinct r.configuration.values)
    (tree : r.workspace.files.IsTree) (read : Document.read r.workspace.files r.path = .ok d)
    (ok : r.outcome.failure = none) (left : r.left = .ok d') :
    Frames r.paths d d' ∧ ∀ key, part d' key "fullPath" =
      if key ∈ r.paths then some (.text (Path.resolve r.directory key))
      else part d key "fullPath" := by
  have complete := Document.complete_of_read read
  obtain ⟨n, p, stopped⟩ := r.exists_overAfter fun d' h => (Except.ok.inj (read.symm.trans h)).symm
  have reached := stopped.all ok
  obtain rfl := Except.ok.inj (left.symm.trans (reached.left tree complete distinct))
  rw [stopped.paths]
  exact ⟨reached.frames complete distinct fun _ => List.Subset.refl _,
    reached.fullPath complete distinct (by omega)⟩

/-- The document keeps all entries, in their order and before any new ones. The full path of an
entry is that of the last run that resolved its key, from the directory of this run, and stays as it
was where no run resolved it. So a file that was tracked is still tracked, unless a run has resolved
its key to another file. -/
theorem tracked_files_remain (succession : Succession path d rs d') :
    Entries.keys (filesOf d) <+: Entries.keys (filesOf d') ∧
      (∀ key, part d' key "fullPath" = fullPathAfter key rs (part d key "fullPath")) ∧
      ∀ key v, part d key "fullPath" = some v →
        (∀ r ∈ rs, key ∈ r.paths → Value.text (Path.resolve r.directory key) = v) →
        part d' key "fullPath" = some v := by
  have all : Entries.keys (filesOf d) <+: Entries.keys (filesOf d') ∧
      ∀ key, part d' key "fullPath" = fullPathAfter key rs (part d key "fullPath") := by
    induction succession with
    | nil d => exact ⟨List.prefix_refl _, fun _ => rfl⟩
    | cons at_path distinct tree read ok left rest ih =>
        subst at_path
        obtain ⟨frames, fullPath⟩ := succession_step distinct tree read ok left
        refine ⟨frames.order.trans ih.1, fun key => ?_⟩
        rw [ih.2 key, fullPath key, fullPathAfter]
  refine ⟨all.1, all.2, fun key v tracked same => ?_⟩
  rw [all.2 key, tracked]
  exact fullPathAfter_of_same same

section Examples

/-- A run in the root directory, over files of one name in two directories. -/
def above : DefaultRun :=
  plain [(["a.py"], textFile ""), (["sub"], .directory), (["sub", "a.py"], textFile "")] ["a.py"]

/-- The same run in the lower directory, on what the first one has left. -/
def below : DefaultRun := { above with directory := "/sub", workspace := above.final }

theorem tracked_files_remain_below :
    ∃ d d', Succession above.path d [above, below] d' ∧
      Entries.keys (filesOf d) <+: Entries.keys (filesOf d') ∧
      (∀ key, part d' key "fullPath" = fullPathAfter key [above, below] (part d key "fullPath")) ∧
      ∀ key v, part d key "fullPath" = some v →
        (∀ r ∈ [above, below], key ∈ r.paths → Value.text (Path.resolve r.directory key) = v) →
        part d' key "fullPath" = some v := by
  have answers : (Document.read above.workspace.files above.path).toOption.isSome = true ∧
      above.left.toOption.isSome = true ∧ below.left.toOption.isSome = true := by decide +kernel
  have oks : above.outcome.failure.isNone = true ∧ below.outcome.failure.isNone = true := by
    decide +kernel
  obtain ⟨d, read⟩ := Option.isSome_iff_exists.mp answers.1
  obtain ⟨d', left⟩ := Option.isSome_iff_exists.mp answers.2.1
  obtain ⟨d'', left'⟩ := Option.isSome_iff_exists.mp answers.2.2
  have left := eq_ok_of_toOption left
  have distinct := Configuration.distinct_defaults
  have last : Succession above.path d' [below] d'' :=
    .cons rfl distinct (isTree_of_nodes (by decide +kernel)) ((left_eq_read above).symm.trans left)
      (Option.isNone_iff_eq_none.mp oks.2) (eq_ok_of_toOption left') (.nil d'')
  have both : Succession above.path d [above, below] d'' :=
    .cons rfl distinct (isTree_of_nodes (by decide +kernel)) (eq_ok_of_toOption read)
      (Option.isNone_iff_eq_none.mp oks.1) left last
  exact ⟨d, d'', both, tracked_files_remain both⟩

/-- Two runs with the same configuration file, the second one in a lower directory: the file that
the first one tracked has no entry any more. -/
theorem lower_run_forgets :
    let nodes : List (Location × Node) := [(["syndox.toml"], textFile ""),
      (["a.py"], textFile ""), (["sub"], .directory), (["sub", "a.py"], textFile "")]
    let first := startedIn ⟨nodes, []⟩ [] "/" ["a.py"]
    let second := first.bind fun r => startedIn r.final.files [] "/sub" ["a.py"]
    let path : Text := "/.syndox/db.json"
    let shown (started : Except Failure DefaultRun) :
        Option (Text × Bool × Option (List Text)) :=
      started.toOption.map fun r => (r.path.toText, r.outcome.failure.isNone,
        (fullPaths { r.final with store := Store.new r.path }).1.toOption.map
          (List.filterMap Value.asText?))
    shown first = some (path, true, some [("/a.py" : Text)]) ∧
      shown second = some (path, true, some [("/sub/a.py" : Text)]) := by
  decide +kernel

end Examples

end DefaultRun

end SourceLedger
