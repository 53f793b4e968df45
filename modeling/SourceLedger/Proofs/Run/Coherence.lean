import SourceLedger.Proofs.Run.Refresh

/-!
# Trees and contents over many runs

Contents and trees are written by two stages. So a run that fails between them can leave an item
with the tree of a content that it had before. An item is outdated then, until a later run goes
through or commits a new item in its place. The tree of every other item is that of its content, or
there is none.
-/

namespace SourceLedger

open FileSystem Run Store

variable {asked : Except ParseOptions.Fault ParseOptions}

/-- The tree of an item is not set, or empty, or that of its content under the options asked for. -/
def Item.Fits (asked : Except ParseOptions.Fault ParseOptions) (item : Item) : Prop :=
  item.tree = none ∨ item.tree = some (.table []) ∨
    ∃ options t path tree, asked = .ok options ∧ item.content = some (.text t) ∧
      item.fullPath = .text path ∧ Parsing.parse options t path = .ok tree ∧ item.tree = some tree

namespace Loading

variable {options : ParseOptions} {item : Item}

theorem fits_create (id workingDirectory path : Text) :
    (Item.create id workingDirectory path).Fits asked :=
  Or.inr (Or.inl rfl)

/-- An item whose content stays the same keeps a tree that fits. -/
theorem fits_reread (fs : FileSystem) (fits : item.Fits asked)
    (same : (reread fs item).content = item.content) : (reread fs item).Fits asked := by
  rw [Item.Fits, same]
  exact fits

theorem fits_reparse (hasked : asked = .ok options) (item : Item) :
    (reparse options item).Fits asked := by
  cases htree : treeOf options item with
  | none => exact Or.inl htree
  | some tree =>
      obtain ⟨t, path, content, fullPath, parsed⟩ := treeOf_eq_some htree
      exact Or.inr (Or.inr ⟨options, t, path, tree, hasked, content, fullPath, parsed, htree⟩)

end Loading

namespace Store

variable {d d' : Document} {items items' : Items} {item item' : Item} {key : Text}

/-- The content of an item is the part of its entry that is stored under `data`. -/
theorem content_of_part (tracks : Tracks d items) (tracks' : Tracks d' items')
    (found : Entries.get? items key = some item) (found' : Entries.get? items' key = some item')
    (same : part d' key "data" = part d key "data") : item'.content = item.content := by
  have stored : ∀ {d items item}, Tracks d items → Entries.get? items key = some item →
      ∃ es, part d key "data" = Entries.get? es "data" ∧
        item.content = Item.optional es "data" := by
    intro d items item tracks found
    obtain ⟨v, hv, made⟩ := Items.get?_of_ofTable tracks.ofTable found
    obtain ⟨es, rfl, _, _, _, content, _⟩ := Item.ofValue_eq_ok made
    refine ⟨es, ?_, content⟩
    rw [part, show Entries.get? (filesOf d) key = some (.table es) from hv]
    cases h : Entries.get? es "data" <;> simp [Value.follow?, h]
  obtain ⟨es, data, content⟩ := stored tracks found
  obtain ⟨es', data', content'⟩ := stored tracks' found'
  rw [content, content', Item.optional, Item.optional, ← data, ← data', same]

end Store

namespace DefaultRun

variable {r : DefaultRun} {rs : List DefaultRun} {n : Nat} {p : Progress} {disk d : Document}
  {items : Items} {path : Path} {fs : FileSystem} {key : Text}

/-- A run has changed the content of an entry. -/
def Changes (r : DefaultRun) (key : Text) : Prop :=
  ∃ d d', Document.read r.workspace.files r.path = .ok d ∧ r.left = .ok d' ∧
    part d' key "data" ≠ part d key "data"

/-- After some runs, the last one first, the tree of an entry may be that of an earlier content: the
last run has failed without committing a new item, and it has changed the content, or the entry was
outdated before. -/
def Outdated : List DefaultRun → Text → Prop
  | [], _ => False
  | r :: earlier, key =>
    r.outcome.failure.isSome ∧ ¬(commitFiles.name ∈ r.outcome.completed ∧ key ∈ r.paths) ∧
      (Outdated earlier key ∨ loadFileContents.name ∈ r.outcome.completed ∧ r.Changes key)

/-- Runs on one document, the last one first, and the files that they have left. At the start there
is no document, and nothing but runs changes it. -/
inductive History (path : Path) (asked : Except ParseOptions.Fault ParseOptions) :
    List DefaultRun → FileSystem → Prop
  | start {fs : FileSystem} (unwritten : Unwritten fs path) : History path asked [] fs
  | run {r : DefaultRun} {rs : List DefaultRun} {fs root : FileSystem} {start : Path}
      (before : History path asked rs fs) (at_path : r.path = path)
      (loaded : Configuration.load root start = .ok r.configuration) (options : r.options = asked)
      (tree : r.workspace.files.IsTree)
      (unchanged : ∀ d, OnDisk fs path d → OnDisk r.workspace.files path d) :
      History path asked (r :: rs) r.final.files

section Tracks

variable (tracks : Tracks disk items)
include tracks

theorem Reached.tracks_early (reached : r.Reached disk n p) (early : n < 4) :
    Tracks p.document items := by
  have apart : Document.configName ≠ Document.filesName := by decide
  induction reached with
  | start => exact tracks
  | @initialized p _ _ _ ih =>
      rw [Progress.holding_document, Tracks, namespaceOf_merged_of_ne apart]
      exact ih (by omega)
  | resolved _ _ _ ih => exact ih (by omega)
  | identified _ _ ih => exact ih (by omega)
  | committed | loaded | parsed => omega

theorem Reached.tracks_committed (reached : r.Reached disk 4 p) :
    Tracks p.document (items.update (Items.create r.directory p.paths r.workspace.ids).1) := by
  cases reached with
  | committed before writes =>
      rw [Progress.holding_document, Progress.holding_paths, ← before.items]
      refine (before.tracks_early tracks (by omega)).update fun e he => ?_
      rw [before.items] at he
      obtain ⟨_, id, heq⟩ := Items.eq_create_of_mem he
      exact heq ▸ Item.create_plain _ _ _

variable (complete : disk.Complete) (distinct : Value.Table.Distinct r.configuration.values)
include complete distinct

theorem Reached.tracks_loaded (reached : r.Reached disk 5 p) :
    Tracks p.document ((items.update (Items.create r.directory p.paths r.workspace.ids).1).mapValues
      (Loading.reread r.sourceFiles)) := by
  obtain ⟨p₄, tracked, committed, paths, tracks₄, _, tracks₅⟩ :=
    reached.loaded_items complete distinct
  rw [paths, tracks₄.unique (committed.tracks_committed tracks)]
  exact tracks₅

omit tracks in
/-- After the last stage all items are tracked with the trees of their contents. -/
theorem Reached.tracks_parsed {fs : FileSystem} {start : Path}
    (loaded : Configuration.load fs start = .ok r.configuration) (reached : r.Reached disk 6 p) :
    ∃ options items, r.options = .ok options ∧
      Tracks p.document (Entries.mapValues (Loading.reparse options) items) := by
  obtain ⟨options, hoptions⟩ := reached.exists_options loaded
  obtain ⟨_, tracked, _, _, tracks, _, _, files⟩ := reached.parsed_items complete distinct
    fun before => (before.optionsOf loaded (by omega)).trans hoptions
  refine ⟨options, _, hoptions, tracks_of_get? files ?_⟩
  rw [Entries.forall_mem_mapValues, Entries.forall_mem_mapValues]
  exact fun e he => Loading.reparse_plain (Loading.reread_plain (tracks.plain e he))

end Tracks

/-- All items that a document tracks have trees that fit, but for some keys. -/
def Coherent (asked : Except ParseOptions.Fault ParseOptions) (outdated : Text → Prop)
    (d : Document) : Prop :=
  ∃ items, Tracks d items ∧
    ∀ key item, Entries.get? items key = some item → ¬outdated key → item.Fits asked

theorem outdated_cons (failed : r.outcome.failure.isSome)
    (kept : ¬(commitFiles.name ∈ r.outcome.completed ∧ key ∈ r.paths))
    (current : ¬Outdated (r :: rs) key) :
    ¬Outdated rs key ∧ (loadFileContents.name ∈ r.outcome.completed → ¬r.Changes key) :=
  ⟨fun before => current ⟨failed, kept, Or.inl before⟩,
    fun completed changes => current ⟨failed, kept, Or.inr ⟨completed, changes⟩⟩⟩

/-- Items that were committed are new, or as they were. -/
theorem get?_committed {directory : Text} {paths : List Text} {ids : IdSupply} {item : Item}
    (found : Entries.get? (items.update (Items.create directory paths ids).1) key = some item) :
    (∃ id, key ∈ paths ∧ item = Item.create id directory key) ∨
      key ∉ paths ∧ Entries.get? items key = some item := by
  by_cases hkey : key ∈ paths
  · obtain ⟨n, _, _, created⟩ := Items.get?_create directory hkey ids
    rw [Entries.get?_update (Items.nodup_create directory paths ids), created] at found
    cases found
    exact Or.inl ⟨_, hkey, rfl⟩
  · rw [Entries.get?_update_of_notMem (mt Items.mem_keys_create.mp hkey)] at found
    exact Or.inr ⟨hkey, found⟩

/-- One run more keeps all trees fitting but for those of outdated items. -/
theorem OverAfter.coherent {root : FileSystem} {start : Path}
    (loaded : Configuration.load root start = .ok r.configuration) (options : r.options = asked)
    (tree : r.workspace.files.IsTree) (proper : r.path.Proper)
    (there : OnDisk r.workspace.files r.path disk) (stopped : r.OverAfter disk n p)
    (before : Coherent asked (Outdated rs) disk) :
    Coherent asked (Outdated (r :: rs)) p.document := by
  obtain ⟨items, tracks, fits⟩ := before
  have distinct := Configuration.distinct_of_load loaded
  have failed : n < 6 → r.outcome.failure.isSome := fun early =>
    Option.isSome_iff_exists.mpr (stopped.fails early)
  rcases Nat.lt_or_ge n 4 with early | late
  · refine ⟨items, stopped.reached.tracks_early tracks early, fun key item found current => ?_⟩
    refine fits key item found (outdated_cons (failed (by omega)) (fun committed => ?_) current).1
    have late := stopped.lt_of_completed (m := 3) rfl committed.1
    omega
  have kept : ∀ key, key ∉ p.paths → ¬(commitFiles.name ∈ r.outcome.completed ∧ key ∈ r.paths) :=
    fun key hkey committed => hkey (stopped.paths ▸ committed.2)
  obtain rfl | rfl | rfl : n = 4 ∨ n = 5 ∨ n = 6 := by
    have := stopped.reached.le_six
    omega
  · refine ⟨_, stopped.reached.tracks_committed tracks, fun key item found current => ?_⟩
    rcases get?_committed found with ⟨id, _, rfl⟩ | ⟨hkey, found⟩
    · exact Loading.fits_create _ _ _
    · exact fits key item found (outdated_cons (failed (by omega)) (kept key hkey) current).1
  · have tracks₅ := stopped.reached.tracks_loaded tracks there.complete distinct
    refine ⟨_, tracks₅, fun key item found current => ?_⟩
    obtain ⟨item, found₄, rfl⟩ :=
      Option.map_eq_some_iff.mp ((Entries.get?_mapValues _ _ _).symm.trans found)
    rcases get?_committed found₄ with ⟨id, _, rfl⟩ | ⟨hkey, found₀⟩
    · exact Or.inr (Or.inl rfl)
    · obtain ⟨current, unchanged⟩ := outdated_cons (failed (by omega)) (kept key hkey) current
      refine Loading.fits_reread _ (fits key item found₀ current) ?_
      refine content_of_part tracks tracks₅ found₀ found ?_
      by_contra changed
      refine unchanged ?_ ⟨disk, p.document, stopped.reached.read (by omega),
        stopped.left tree proper distinct there (Or.inl (by omega)), changed⟩
      rw [stopped.completed]
      decide
  · obtain ⟨options', items', hoptions, tracks'⟩ :=
      stopped.reached.tracks_parsed there.complete distinct loaded
    refine ⟨_, tracks', fun key item found _ => ?_⟩
    rw [Entries.get?_mapValues] at found
    obtain ⟨item, _, rfl⟩ := Option.map_eq_some_iff.mp found
    exact Loading.fits_reparse (options.symm.trans hoptions) item

theorem History.coherent (proper : path.Proper) (history : History path asked rs fs) :
    ∃ d, OnDisk fs path d ∧ Coherent asked (Outdated rs) d := by
  induction history with
  | start unwritten => exact ⟨_, .absent unwritten, [], rfl, nofun⟩
  | @run r rs fs root start before at_path loaded options tree unchanged ih =>
      subst at_path
      obtain ⟨disk, there, before⟩ := ih
      have there := unchanged disk there
      obtain ⟨n, p, stopped⟩ := r.exists_overAfter fun d read => there.eq_of_read read
      exact ⟨p.document, stopped.onDisk tree proper (Configuration.distinct_of_load loaded) there,
        stopped.coherent loaded options tree proper there before⟩

/-- Whatever runs come to, trees do not disagree with contents: after any runs on a document that
was not there at first, the tree of an item is not set, or empty, or that of its content, unless
the item is outdated. -/
theorem trees_fit_contents (proper : path.Proper) (history : History path asked rs fs)
    (read : Document.read fs path = .ok d) :
    ∃ items, Tracks d items ∧ ∀ key item, Entries.get? items key = some item →
      ¬Outdated rs key → item.Fits asked := by
  obtain ⟨d', there, coherent⟩ := history.coherent proper
  exact there.eq_of_read read ▸ coherent

section Examples

theorem trees_fit_contents_failing :
    let first := plain [(["a.py"], textFile "("), (["b.py"], textFile "x\n")] ["b.py"]
    let second := { first with patterns := ["a.py"], workspace := first.final }
    (first.path.Proper ∧ History first.path first.options [second, first] second.final.files) ∧
    ∃ d, Document.read second.final.files first.path = .ok d ∧
    ∃ items, Tracks d items ∧ ∀ key item, Entries.get? items key = some item →
      ¬Outdated [second, first] key → item.Fits first.options := by
  intro first second
  have path : first.path = Path.ofText "/.syndox/db.json" := by decide +kernel
  have proper : first.path.Proper := path ▸ Path.ofText_proper _
  have nothing : (first.workspace.files.find false first.path.toText).toOption.isNone = true := by
    decide +kernel
  have vacant : Vacant first.workspace.files first.path := by
    intro node found
    rw [found] at nothing
    cases nothing
  have settled : Settled first.workspace.files first.path :=
    settled_of_notMem (by decide +kernel)
  have tree : first.workspace.files.IsTree := isTree_of_nodes (by decide +kernel)
  have loaded : Configuration.load first.workspace.files (Path.ofText "/") =
    .ok first.configuration := rfl
  have once : History first.path first.options [first] first.final.files :=
    .run (.start (unwritten_of_vacant tree proper vacant settled)) rfl loaded rfl tree fun _ => id
  have twice : History first.path first.options [second, first] second.final.files :=
    .run once rfl loaded rfl (isTree_of_nodes (by decide +kernel)) fun _ => id
  have there : (Document.read second.final.files first.path).toOption.isSome = true := by
    decide +kernel
  obtain ⟨d, read⟩ := Option.isSome_iff_exists.mp there
  have read := eq_ok_of_toOption read
  exact ⟨⟨proper, twice⟩, d, read, trees_fit_contents proper twice read⟩

/-- A run that fails when it makes trees leaves an item that has lost its content with the tree of
it. And a run that fails at once can make the directory before a `..`, behind which another document
is, with items of any kind. -/
theorem failed_run_outdates :
    let shown (answer : Except Failure Document) (key : Text) : Option (Bool × Bool) :=
      answer.toOption.map fun d => ((part d key "data").isSome,
        match part d key "ast" with
        | some (.table (_ :: _)) => true
        | _ => false)
    let first := plain [(["b.py"], textFile "x = 1\n")] ["b.py"]
    let others := first.final.files.nodes.filter (·.1 != (["b.py"] : Location))
    let nodes : List (Location × Node) :=
      (["a.py"], textFile "(\n") :: (["b.py"], .directory) :: others
    let second := { first with
      patterns := ["a.py"], workspace := { first.final with files := ⟨nodes, []⟩ } }
    let detour := startedIn
      ⟨[(["syndox.toml"], textFile "d = 2020-01-01\nout = \"sub/../x\""), (["x"], .directory),
        (["x", "db.json"], textFile
          "\x7b\"files\": \x7b\"a\": \x7b\"fullPath\": \"/a\", \"index\": \"a\", \"id\": \"0\", \"ast\": \x7b\"k\": 1\x7d\x7d\x7d\x7d")], []⟩
      [] "/" []
    (first.outcome.failure.isNone = true ∧ shown first.left "b.py" = some (true, true) ∧
      second.outcome.failure.map (·.stage) = some loadFileTrees.name ∧
      shown second.left "b.py" = some (false, true)) ∧
    detour.toOption.map (fun r => ((r.workspace.files.read r.path.toText).toOption,
      shown r.left "a")) = some (none, some (false, true)) := by
  decide +kernel

end Examples

end DefaultRun

end SourceLedger
