import SourceLedger.Proofs.Store.Storing
import SourceLedger.Proofs.Workspace
import SourceLedger.Store.Basic

/-!
# Writing a document is atomic

Whenever the document is written to disk, every state in between leaves its path with what was
there before or with the whole new document, so that nothing is lost if the work ends there. A
failure leaves what was there before, and no temporary file unless the system refuses to remove it.

All this is about paths of which every `..` stands behind names that lead into a directory. Making
a directory before a `..` can open the way to a document that is elsewhere.
-/

namespace SourceLedger

open FileSystem Script

namespace Store

variable {w : Workspace}

/-- A workspace whose document is in memory. -/
def holding (w : Workspace) (d : Document) : Workspace :=
  { w with store := { w.store with cached := some d } }

/-- What writing a document runs. -/
def writing (w : Workspace) (d : Document) : Ran (Except WriteProblem Unit) :=
  (Writing.write w.store.path d).run.run w.faults w.files

/-- The workspace after a document was written, or not. -/
def written (w : Workspace) (d : Document) : Workspace :=
  { holding w d with files := (writing w d).final w.files, faults := (writing w d).faults }

theorem load_of_cached {d : Document} (h : w.store.cached = some d) :
    load w = (.ok d, holding w d) := by
  obtain ⟨files, faults, schedule, ⟨path, cached⟩, ids, log⟩ := w
  obtain rfl : cached = some d := h
  rfl

theorem load_of_none (h : w.store.cached = none) :
    load w = match Document.read w.files w.store.path with
      | .ok d => (.ok d, holding w d)
      | .error failure => (.error failure, w) := by
  obtain ⟨files, faults, schedule, ⟨path, cached⟩, ids, log⟩ := w
  obtain rfl : cached = none := h
  change (Job.ofExcept (Document.read files path) >>= _ : Job Document) _ = _
  cases Document.read files path <;> rfl

theorem load_cases (w : Workspace) :
    (∃ failure, load w = (.error failure, w)) ∨ ∃ d, load w = (.ok d, holding w d) := by
  cases h : w.store.cached with
  | some d => exact Or.inr ⟨d, load_of_cached h⟩
  | none =>
      rw [load_of_none h]
      cases Document.read w.files w.store.path with
      | error failure => exact Or.inl ⟨failure, rfl⟩
      | ok d => exact Or.inr ⟨d, rfl⟩

theorem flush_of_error {failure : Failure} (h : load w = (.error failure, w)) :
    flush w = (.error failure, w) :=
  Job.bind_of_error h

theorem flush_of_ok {d : Document} (h : load w = (.ok d, holding w d)) :
    flush w = ((writing w d).result.mapError (·.failure w.store.path), written w d) := by
  refine (Job.bind_of_ok h).trans ((Job.get_bind _ _).trans
    ((Job.bind_of_ok (a := (writing w d).result) rfl).trans ?_))
  cases (writing w d).result <;> rfl

/-- A document with entries merged into a namespace. -/
def merged (d : Document) (name : Text) (entries : Value.Table) : Document :=
  d.put name (.table ((((d.get? name).bind Value.asTable?).getD []).update entries))

theorem merge_of_ok {d : Document} (name : Text) (update : Value)
    (h : load w = (.ok d, holding w d)) :
    merge name update w = match update.updates with
      | .error e => (.error (.unexpected e), holding w d)
      | .ok entries =>
        ((writing w (merged d name entries)).result.mapError (·.failure w.store.path),
          written w (merged d name entries)) := by
  have loaded := Job.bind_of_ok (f := fun d => do
    let current := ((d.get? name).bind Value.asTable?).getD []
    let entries ← Job.ofUnexpected update.updates
    remember (d.put name (.table (current.update entries)))
    flush) h
  rw [merge, loaded]
  cases update.updates with
  | error e => rfl
  | ok entries => exact flush_of_ok (w := holding w (merged d name entries)) rfl

/-- Work that writes the document to disk. -/
inductive Saving
  | flush
  | merge (name : Text) (update : Value)

namespace Saving

variable {s : Saving} {d : Document}

def job : Saving → Job Unit
  | flush => Store.flush
  | merge name update => Store.merge name update

/-- The document that work comes to write: the one in memory, or else on disk, and for a merge with
what is to be merged in it. -/
inductive Saves (w : Workspace) : Saving → Document → Prop
  | flush {d : Document} (loaded : load w = (.ok d, holding w d)) : Saves w .flush d
  | merge {d : Document} {name : Text} {update : Value} {entries : Value.Table}
      (loaded : load w = (.ok d, holding w d)) (taken : update.updates = .ok entries) :
      Saves w (.merge name update) (merged d name entries)

theorem job_of_saves (saves : s.Saves w d) :
    s.job w = ((writing w d).result.mapError (·.failure w.store.path), written w d) := by
  cases saves with
  | flush loaded => exact flush_of_ok loaded
  | merge loaded taken => rw [job, merge_of_ok _ _ loaded, taken]

/-- Where there is no document to write, work fails and touches no file. -/
theorem job_of_unsaved (never : ∀ d, ¬s.Saves w d) :
    ∃ failure w', s.job w = (.error failure, w') ∧ w'.files = w.files := by
  rcases load_cases w with ⟨failure, unread⟩ | ⟨d, loaded⟩
  · refine ⟨failure, w, ?_, rfl⟩
    cases s with
    | flush => exact flush_of_error unread
    | merge => exact Job.bind_of_error unread
  · cases s with
    | flush => exact absurd (.flush loaded) (never d)
    | merge name update =>
        cases taken : update.updates with
        | error e =>
            exact ⟨.unexpected e, holding w d, by rw [job, merge_of_ok _ _ loaded, taken], rfl⟩
        | ok entries => exact absurd (.merge loaded taken) (never _)

end Saving

/-- The document is stored whole, as the text that stands for it. -/
def StoresWhole (fs : FileSystem) (path : Path) (d : Document) (fs' : FileSystem) : Prop :=
  ∃ text, Json.text? (.table d) = some text ∧ Writing.Replaced fs path text fs'

/-- What holds of every point at which the writing of a document can stop. -/
structure IsAtomic (w : Workspace) (d : Document) : Prop where
  states : ∀ s ∈ (writing w d).states,
    Writing.Intact w.files w.store.path s ∨ StoresWhole w.files w.store.path d s
  failed : ∀ problem, (writing w d).result = .error problem →
    Writing.Intact w.files w.store.path (written w d).files
  removed : ∀ problem, (writing w d).result = .error problem →
    (∀ temporary, Step.removeFile temporary ∉
      (Writing.write w.store.path d).run.refused w.faults w.files) →
    ∀ place node, (written w d).files.node? place = some node →
      w.files.node? place = some node ∨ node = .directory
  done : (writing w d).result = .ok () →
    StoresWhole w.files w.store.path d (written w d).files

theorem storesWhole_of_finished {fs fs' : FileSystem} {path : Path} {d : Document}
    (finished : Writing.Finished fs path (Json.write (.table d)) fs') (proper : path.Proper) :
    StoresWhole fs path d fs' := by
  refine ⟨(Json.write (.table d)).bytes, ?_, finished.replaced proper⟩
  obtain ⟨_, _, fault, _⟩ := finished
  rw [Json.text?, fault]

/-- A document that is written gets to its path whole, or else storing it stopped on the way. -/
theorem writing_cases (d : Document) (tree : w.files.IsTree) (proper : w.store.path.Proper)
    (settled : Settled w.files w.store.path) :
    (∃ problem, (writing w d).result = .error problem ∧
      Writing.Underway w.files w.store.path (Json.write (.table d)) (written w d).files) ∨
    ((writing w d).result = .ok () ∧
      Writing.Finished w.files w.store.path (Json.write (.table d)) (written w d).files) := by
  have meets := Writing.meets_store (fun _ => True) (Json.write (.table d)) tree proper settled
  rcases (meets.run w.faults fun _ _ => trivial).2 with
    ⟨problem, failed, climbed | ⟨_, underway⟩⟩ | finished
  · exact Or.inl ⟨problem, failed, Or.inl climbed⟩
  · exact Or.inl ⟨problem, failed, underway⟩
  · exact Or.inr finished

theorem isAtomic (d : Document) (tree : w.files.IsTree) (proper : w.store.path.Proper)
    (settled : Settled w.files w.store.path) : IsAtomic w d := by
  have meets (may) := Writing.meets_store may (Json.write (.table d)) tree proper settled
  have result := writing_cases d tree proper settled
  refine ⟨fun s hs => ?_, fun problem failed => ?_, fun problem failed removals => ?_,
    fun done => ?_⟩
  · rcases ((meets fun _ => True).run w.faults fun _ _ => trivial).1 s hs with underway | finished
    · exact Or.inl (underway.halfway.intact tree proper)
    · exact Or.inr (storesWhole_of_finished finished proper)
  · rcases result with ⟨_, _, underway⟩ | ⟨done, _⟩
    · exact underway.halfway.intact tree proper
    · cases failed.symm.trans done
  · have notRemoved := (meets fun s => ∀ t, s ≠ .removeFile t).run w.faults
      fun s hs t heq => removals t (heq ▸ hs)
    rcases notRemoved.2 with ⟨_, _, climbed | ⟨⟨t, refused⟩, _⟩⟩ | ⟨done, _⟩
    · exact climbed.grown.onlyDirectories
    · exact absurd rfl (refused t)
    · cases failed.symm.trans done
  · rcases result with ⟨_, failed, _⟩ | ⟨_, finished⟩
    · cases done.symm.trans failed
    · exact storesWhole_of_finished finished proper

/-- Writing a document is atomic, in a flush as in a merge. Where work does not come to it, since
the document cannot be read or the update is no table, it fails without touching the files. -/
theorem writes_atomic (s : Saving) (w : Workspace) (tree : w.files.IsTree)
    (proper : w.store.path.Proper) (settled : Settled w.files w.store.path) :
    (∀ d, s.Saves w d →
      s.job w = ((writing w d).result.mapError (·.failure w.store.path), written w d) ∧
        IsAtomic w d) ∧
    ((∀ d, ¬s.Saves w d) → ∃ failure w', s.job w = (.error failure, w') ∧ w'.files = w.files) :=
  ⟨fun d saves => ⟨Saving.job_of_saves saves, isAtomic d tree proper settled⟩,
    Saving.job_of_unsaved⟩

section Examples

/-- A document that cannot be written, since a lone surrogate has no bytes. -/
def unwritable : Document := [("k", .text [.surrogate 0])]

/-- A workspace without files but for those given, about to write that document. -/
def aboutToFail (nodes : List (Location × Node)) (faults : Faults) (path : Text) : Workspace where
  files := ⟨nodes, []⟩
  faults := faults
  schedule := id
  store := ⟨Path.ofText path, some unwritable⟩
  ids := ⟨0⟩
  log := []

theorem writes_atomic_fresh :
    let w := aboutToFail [] [] "db.json"
    (w.files.IsTree ∧ w.store.path.Proper ∧ Settled w.files w.store.path ∧
      Saving.flush.Saves w unwritable) ∧
    flush w = ((writing w unwritable).result.mapError (·.failure w.store.path),
      written w unwritable) ∧ IsAtomic w unwritable := by
  intro w
  have tree : w.files.IsTree := isTree_empty
  have proper : w.store.path.Proper := Path.ofText_proper _
  have settled : Settled w.files w.store.path := settled_of_notMem (by decide +kernel)
  have saves : Saving.flush.Saves w unwritable := .flush rfl
  exact ⟨⟨tree, proper, settled, saves⟩,
    (writes_atomic .flush w tree proper settled).1 unwritable saves⟩

/-- A failure makes the directory before a `..`, behind which there is another document, or leaves
a temporary file that the system does not let it remove. -/
theorem failed_flush_leaves :
    let old := Utf8.encodeChars "\x7b\"a\": 1\x7d".toList
    let detour := aboutToFail [(["db.json"], .file old)] [] "sub/../db.json"
    let stuck := aboutToFail [] [none, none, none, some .inputOutput] "db.json"
    ((detour.files.find false detour.store.path.toText).toOption = none ∧
      (flush detour).1.toOption = none ∧
      ((flush detour).2.files.read detour.store.path.toText).toOption = some old) ∧
    ((flush stuck).1.toOption = none ∧
      ((flush stuck).2.files.read ".db.json.00000000").isOk = true) := by
  decide +kernel

end Examples

end Store

end SourceLedger
