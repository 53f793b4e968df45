import SourceLedger.Proofs.FileSystem.Admission
import SourceLedger.Proofs.Loading.Trees
import SourceLedger.Proofs.Text.Utf8

/-!
# One bad item stops the batch

Contents are read, and sources parsed, all at once, and what fails first is the failure of the
whole. Whatever is bad about an item, and wherever it stands among the others, nothing has been
written by then: the document in memory and all files are as they were.
-/

namespace SourceLedger

namespace Loading

/-- A system that refuses paths that it can be asked about for reasons of its own only. -/
def Answers.Lawful (system : Answers) : Prop :=
  ∀ path r, IsOsPath path → system.node path = .error r → ∃ e, r = .system e

theorem lawful_answersOf (fs : FileSystem) : (answersOf fs).Lawful := by
  intro path r isOsPath refused
  change fs.find true path = .error r at refused
  cases walked : fs.walk true path with
  | ok place =>
      rw [FileSystem.find, walked] at refused
      simp only [bind, Except.bind] at refused
      cases found : fs.node? place with
      | none =>
          rw [found] at refused
          cases refused
          exact ⟨_, rfl⟩
      | some node =>
          rw [found] at refused
          cases refused
  | error r' =>
      rw [FileSystem.find, walked] at refused
      cases refused
      cases check : Route.check path with
      | error r' =>
          cases (FileSystem.walk_of_unchecked true check).symm.trans walked
          exact isOsPath.check_eq_error check
      | ok route =>
          rw [FileSystem.walk_checked true check] at walked
          split at walked
          · obtain ⟨e, _, rfl⟩ := mapError_eq_error walked
            exact ⟨e, rfl⟩
          · cases walked
            exact ⟨_, rfl⟩

/-- What is bad about a full path: it is not known what is there, or there is a regular file that
cannot be opened or whose bytes do not encode any text. -/
inductive Obstructed (system : Answers) (path : Text) : Prop
  | unknown {r : Refusal} (refused : system.node path = .error r)
  | unopened {node : Node} {r : Refusal} (there : system.node path = .ok node)
      (regular : node.isRegular = true) (refused : system.bytes path = .error r)
  | undecodable {node : Node} {bytes : Bytes} (there : system.node path = .ok node)
      (regular : node.isRegular = true) (opened : system.bytes path = .ok bytes)
      (noText : ∀ chars, Utf8.encodeChars chars ≠ bytes)

variable {system : Answers} {path : Text} {failure : Failure}

theorem decode_eq_error_iff {bytes : Bytes} :
    (∃ f, Utf8.decode bytes = .error f) ↔ ∀ chars, Utf8.encodeChars chars ≠ bytes := by
  constructor
  · rintro ⟨f, failed⟩ chars rfl
    cases (Utf8.decode_encodeChars chars).symm.trans failed
  · intro noText
    cases decoded : Utf8.decode bytes with
    | error f => exact ⟨f, rfl⟩
    | ok chars => exact absurd (Utf8.encodeChars_of_decode decoded) (noText chars)

theorem node_of_ofPath {place : Place} (placed : ofPath system path = .ok place) :
    ∃ node, system.node path = .ok node := by
  unfold ofPath at placed
  split at placed
  · next there => exact ⟨_, there⟩
  all_goals cases placed

theorem ofPath_of_regular {node : Node} (there : system.node path = .ok node)
    (regular : node.isRegular = true) : ofPath system path = .ok (.regular path) := by
  rw [ofPath, there]
  simp only [regular, if_true]

theorem regular_of_ofPath {path' : Text} (placed : ofPath system path = .ok (.regular path')) :
    ∃ node, system.node path = .ok node ∧ node.isRegular = true ∧ path = path' := by
  unfold ofPath at placed
  split at placed
  · next node there =>
    cases regular : node.isRegular <;> rw [regular] at placed <;> cases placed
    exact ⟨node, there, regular, rfl⟩
  all_goals cases placed

/-- Reading fails only where a path is obstructed, and then it is the file system that is blamed. -/
theorem readContentFrom_eq_error (lawful : system.Lawful) (isOsPath : IsOsPath path)
    (failed : readContentFrom system (.text path) = .error failure) :
    Obstructed system path ∧ ∃ message, failure = .reported .fileSystem message := by
  rcases bind_eq_error failed with placeless | ⟨place, placed, unread⟩
  · -- Nothing is known about the place.
    change ofPath system path = .error failure at placeless
    unfold ofPath at placeless
    split at placeless
    · cases placeless
    · next refused =>
      cases placeless
      exact ⟨.unknown refused, _, rfl⟩
    · next r unlawful refused =>
      obtain ⟨e, rfl⟩ := lawful path r isOsPath refused
      exact absurd rfl (unlawful e)
  · cases place with
    | other => cases unread
    | regular path' =>
        obtain ⟨node, there, regular, rfl⟩ := regular_of_ofPath placed
        rcases bind_eq_error unread with unread | ⟨r, _, returned⟩
        · rcases bind_eq_error unread with unopened | ⟨bytes, opened, undecoded⟩
          · obtain ⟨r, refused, rfl⟩ := mapError_eq_error unopened
            exact ⟨.unopened there regular refused, _, rfl⟩
          · rcases bind_eq_error undecoded with undecoded | ⟨chars, _, returned⟩
            · obtain ⟨f, noChars, rfl⟩ := mapError_eq_error undecoded
              exact ⟨.undecodable there regular (mapError_eq_ok opened)
                (decode_eq_error_iff.mp ⟨f, noChars⟩), _, rfl⟩
            · cases returned
        · cases returned

/-- Where a path is obstructed, reading fails. -/
theorem Obstructed.readContentFrom (obstructed : Obstructed system path) :
    ∃ failure, Loading.readContentFrom system (.text path) = .error failure := by
  cases read : Loading.readContentFrom system (.text path) with
  | error failure => exact ⟨failure, rfl⟩
  | ok r =>
      obtain ⟨place, placed, read⟩ := bind_eq_ok read
      change ofPath system path = .ok place at placed
      have opens {node : Node} (there : system.node path = .ok node)
          (regular : node.isRegular = true) :
          ∃ bytes chars, system.bytes path = .ok bytes ∧ Utf8.decode bytes = .ok chars := by
        cases (ofPath_of_regular there regular).symm.trans placed
        obtain ⟨_, read, _⟩ := bind_eq_ok read
        obtain ⟨bytes, opened, read⟩ := bind_eq_ok read
        obtain ⟨chars, decoded, _⟩ := bind_eq_ok read
        exact ⟨bytes, chars, mapError_eq_ok opened, mapError_eq_ok decoded⟩
      cases obstructed with
      | unknown refused =>
          obtain ⟨_, there⟩ := node_of_ofPath placed
          cases refused.symm.trans there
      | unopened there regular refused =>
          obtain ⟨_, _, opened, _⟩ := opens there regular
          cases opened.symm.trans refused
      | undecodable there regular opened noText =>
          obtain ⟨bytes, chars, opened', decoded⟩ := opens there regular
          cases opened.symm.trans opened'
          exact absurd (Utf8.encodeChars_of_decode decoded) (noText chars)

section Jobs

variable {w w' : Workspace} {d : Document} {items : Items} {answering : FileSystem → Answers}

/-- Contents are written if all could be read, or else one of the failures is the answer. -/
theorem loadContentsFrom_of_load (answering : FileSystem → Answers)
    (loaded : Store.load w = (.ok d, Store.holding w d)) (tracks : Store.Tracks d items) :
    (∃ e ∈ items, ∃ failure log,
      readContentFrom (answering w.files) e.2.fullPath = .error failure ∧
        loadContentsFrom answering w = (.error failure, { Store.holding w d with log })) ∨
    (∀ e ∈ items, ∃ r, readContentFrom (answering w.files) e.2.fullPath = .ok r) ∧
      ∃ new n log, loadContentsFrom answering w =
        (do Store.mergeItems new; return n : Job Nat) { Store.holding w d with log } := by
  have run := loadContentsFrom_eq answering loaded rfl tracks
  obtain ⟨log, reads⟩ := readContentsFrom_eq answering (items.map (·.2.fullPath))
    (Store.holding w d)
  rcases Job.gather_cases ((items.map (·.2.fullPath)).map (readContentFrom (answering w.files)))
    { Store.holding w d with log } with ⟨failure, failed⟩ | ⟨entries, gathered, read⟩
  · have mem := Job.mem_of_gather failed
    rw [List.map_map] at mem
    obtain ⟨e, he, unread⟩ := List.mem_map.mp mem
    have reads := reads.trans (Job.bind_of_error failed)
    exact .inl ⟨e, he, failure, log, unread, run.trans (Job.bind_of_error reads)⟩
  · have reads := reads.trans (Job.bind_of_ok gathered)
    refine .inr ⟨fun e he => ?_, _, _, log, run.trans (Job.bind_of_ok reads)⟩
    rw [List.map_map] at read
    obtain ⟨r, _, answer⟩ := exists_of_map_eq read he
    exact ⟨r, answer⟩

theorem kind_of_failure {problem : WriteProblem} {path : Path} {kind : ErrorKind} {message : Text}
    (h : problem.failure path = .reported kind message) : kind = .persistence := by
  unfold WriteProblem.failure at h
  split at h <;> cases h
  rfl

/-- What is reported about a merge is that the document could not be written, and never that a file,
a source or an option is bad. -/
theorem kind_of_mergeItems {n : Nat} {kind : ErrorKind} {message : Text}
    (cached : w.store.cached = some d)
    (failed : (do Store.mergeItems items; return n : Job Nat) w =
      (.error (.reported kind message), w')) : kind = .persistence := by
  have merges : Store.mergeItems items w =
      ((Store.writing w (Store.withItems d items)).result.mapError (·.failure w.store.path),
        Store.written w (Store.withItems d items)) :=
    Store.merge_of_ok Document.filesName (.table items.toTable) (Store.load_of_cached cached)
  cases result : (Store.writing w (Store.withItems d items)).result with
  | ok =>
      rw [result] at merges
      cases (Job.bind_of_ok merges).symm.trans failed
  | error problem =>
      rw [result] at merges
      have stopped := (Job.bind_of_error merges).symm.trans failed
      exact kind_of_failure (Except.error.inj (Prod.mk.inj stopped).1)

/-- Nothing has changed but what was said: the document that was in memory or on disk is in memory,
and all files are as they were. -/
def Untouched (w : Workspace) (d : Document) (w' : Workspace) : Prop :=
  ∃ log, w' = { Store.holding w d with log }

/-- Trees are loaded or nothing is touched, unless the document cannot be written. -/
theorem untouched_of_loadTreesWith {parser : SourceParser} {kind : ErrorKind} {message : Text}
    (loaded : Store.load w = (.ok d, Store.holding w d))
    (failed : loadTreesWith parser w = (.error (.reported kind message), w'))
    (unwritten : kind ≠ .persistence) : Untouched w d w' := by
  rcases loadTreesWith_of_load parser loaded with
    ⟨_, log, stopped, -⟩ | ⟨items, trees, log, -, -, -, run⟩
  · cases stopped.symm.trans failed
    exact ⟨log, rfl⟩
  · exact absurd (kind_of_mergeItems rfl (run.symm.trans failed)) unwritten

theorem untouched_of_loadTrees {options? : Option ParseOptions} {kind : ErrorKind} {message : Text}
    (loaded : Store.load w = (.ok d, Store.holding w d))
    (failed : loadTrees options? w = (.error (.reported kind message), w'))
    (unwritten : kind ≠ .persistence) : Untouched w d w' := by
  rcases loadTrees_of_load options? loaded with ⟨_, _, stopped⟩ | ⟨options, _, run⟩
  · obtain ⟨-, rfl⟩ := Prod.mk.inj (stopped.symm.trans failed)
    exact ⟨w.log, rfl⟩
  · exact untouched_of_loadTreesWith (w := Store.holding w d) rfl (run.symm.trans failed) unwritten

/-- The law of batches. For any system, any schedule and any items whose full paths can be handed to
the system, loading contents fails with an error of the file system just if some item, wherever it
stands, leads to nothing known or to a regular file that cannot be opened or decoded. Then nothing
is touched; nor is it when trees cannot be made because of a source or of the options, whatever
parser is used. -/
theorem failed_batch_touches_nothing (answering : FileSystem → Answers)
    (lawful : ∀ fs, (answering fs).Lawful) (loaded : Store.load w = (.ok d, Store.holding w d))
    (tracks : Store.Tracks d items)
    (isOsPath : ∀ e ∈ items, ∃ path, e.2.fullPath = .text path ∧ IsOsPath path) :
    ((∃ message w', loadContentsFrom answering w = (.error (.reported .fileSystem message), w')) ↔
      ∃ e ∈ items, ∃ path, e.2.fullPath = .text path ∧ Obstructed (answering w.files) path) ∧
    (∀ message w', loadContentsFrom answering w = (.error (.reported .fileSystem message), w') →
      Untouched w d w') ∧
    ∀ kind, kind = .parse ∨ kind = .config → ∀ message w',
      (∀ parser, loadTreesWith parser w = (.error (.reported kind message), w') →
        Untouched w d w') ∧
      ∀ options?, loadTrees options? w = (.error (.reported kind message), w') →
        Untouched w d w' := by
  have outcome := loadContentsFrom_of_load answering loaded tracks
  refine ⟨⟨?_, ?_⟩, ?_, ?_⟩
  · rintro ⟨message, w', failed⟩
    rcases outcome with ⟨e, he, failure, log, unread, -⟩ | ⟨-, new, n, log, run⟩
    · obtain ⟨path, fullPath, isOsPath⟩ := isOsPath e he
      rw [fullPath] at unread
      exact ⟨e, he, path, fullPath, (readContentFrom_eq_error (lawful _) isOsPath unread).1⟩
    · cases kind_of_mergeItems rfl (run.symm.trans failed)
  · rintro ⟨e, he, path, fullPath, obstructed⟩
    rcases outcome with ⟨e', he', failure, log, unread, stopped⟩ | ⟨read, -⟩
    · obtain ⟨path', fullPath', isOsPath⟩ := isOsPath e' he'
      rw [fullPath'] at unread
      obtain ⟨message, rfl⟩ := (readContentFrom_eq_error (lawful _) isOsPath unread).2
      exact ⟨message, _, stopped⟩
    · obtain ⟨failure, unread⟩ := obstructed.readContentFrom
      obtain ⟨r, read⟩ := read e he
      rw [fullPath] at read
      cases unread.symm.trans read
  · intro message w' failed
    rcases outcome with ⟨_, _, _, log, _, stopped⟩ | ⟨-, new, n, log, run⟩
    · cases stopped.symm.trans failed
      exact ⟨log, rfl⟩
    · cases kind_of_mergeItems rfl (run.symm.trans failed)
  · intro kind kinds message w'
    have unwritten : kind ≠ .persistence := by
      rcases kinds with rfl | rfl <;> decide
    exact ⟨fun parser failed => untouched_of_loadTreesWith loaded failed unwritten,
      fun options? failed => untouched_of_loadTrees loaded failed unwritten⟩

section Examples

/-- One item that can be read, one that cannot be opened, and one that is not there. -/
def goodLockedMissing : Items :=
  [("a.py", Item.create "0" "/" "a.py"), ("locked.py", Item.create "1" "/" "locked.py"),
    ("missing.py", Item.create "2" "/" "missing.py")]

theorem failed_batch_touches_nothing_locked :
    let d := Store.withItems (Document.withDefaults []) goodLockedMissing
    let w := Store.holding
      (Store.opened [(["a.py"], .file [0x78]), (["locked.py"], .locked)] "db.json") d
    ((∀ fs, (answersOf fs).Lawful) ∧ Store.load w = (.ok d, Store.holding w d) ∧
      Store.Tracks d goodLockedMissing ∧
      ∀ e ∈ goodLockedMissing, ∃ path, e.2.fullPath = .text path ∧ IsOsPath path) ∧
    Obstructed (answersOf w.files) "/locked.py" ∧
    ∃ message w', loadContents w = (.error (.reported .fileSystem message), w') ∧
      Untouched w d w' := by
  intro d w
  have tracks : Store.Tracks d goodLockedMissing := rfl
  have isOsPath : ∀ e ∈ goodLockedMissing, ∃ path, e.2.fullPath = .text path ∧ IsOsPath path := by
    simp only [goodLockedMissing, List.forall_mem_cons]
    exact ⟨⟨"/a.py", rfl, by decide⟩, ⟨"/locked.py", rfl, by decide⟩,
      ⟨"/missing.py", rfl, by decide⟩, nofun⟩
  have there : (answersOf w.files).node "/locked.py" = .ok .locked := by decide +kernel
  have refused : (answersOf w.files).bytes "/locked.py" = .error (.system .permission) := by
    decide +kernel
  have obstructed : Obstructed (answersOf w.files) "/locked.py" := .unopened there rfl refused
  obtain ⟨fails, touchesNothing, -⟩ :=
    failed_batch_touches_nothing answersOf lawful_answersOf (w := w) rfl tracks isOsPath
  obtain ⟨message, w', failed⟩ := fails.mpr
    ⟨_, List.mem_cons_of_mem _ List.mem_cons_self, "/locked.py", rfl, obstructed⟩
  exact ⟨⟨lawful_answersOf, rfl, tracks, isOsPath⟩, obstructed, message, w', failed,
    touchesNothing message w' failed⟩

end Examples

end Jobs

end Loading

end SourceLedger
