import SourceLedger.Proofs.Run.Refresh

/-!
# Documents that can always be read

Runs write documents that a new store can read, whatever they come to. What is tracked in them is
sound: each item is found under its index, its full path is absolute and has no step up in it, and
its content and tree are of the kind that they should be of. Every writing of a run keeps this.

The path of the document has to be one that the system can look at. Where no document is there yet,
a `..` on it must not stand behind a directory that is missing, since a run can make that directory.
-/

namespace SourceLedger

open FileSystem Run Store

/-- What an item should be that is stored under a key. -/
structure Item.Sound (key : Text) (item : Item) : Prop where
  index : item.index = .text key
  id : ∃ id, item.id = .text id
  fullPath : ∃ p : Path, p.Normal ∧ item.fullPath = .text p.toText
  content : item.content = none ∨ ∃ t, item.content = some (.text t)
  tree : item.tree = none ∨ ∃ es, item.tree = some (.table es)

namespace Item

variable {key : Text} {item : Item}

theorem Sound.plain (sound : item.Sound key) : item.Plain where
  content := by
    obtain unset | ⟨t, set⟩ := sound.content
    · rw [unset]
      exact nofun
    · rw [set]
      exact nofun
  tree := by
    obtain unset | ⟨es, set⟩ := sound.tree
    · rw [unset]
      exact nofun
    · rw [set]
      exact nofun

theorem create_sound {workingDirectory : Text}
    (absolute : (Path.ofText workingDirectory).isAbsolute = true) (id path : Text) :
    (create id workingDirectory path).Sound path where
  index := rfl
  id := ⟨id, rfl⟩
  fullPath := by
    obtain ⟨p, normal, resolve⟩ := Path.exists_normal_resolve absolute path
    exact ⟨p, normal, congrArg Value.text resolve⟩
  content := .inr ⟨_, rfl⟩
  tree := .inr ⟨_, rfl⟩

theorem Sound.reread (sound : item.Sound key) (fs : FileSystem) :
    (Loading.reread fs item).Sound key where
  index := sound.index
  id := sound.id
  fullPath := sound.fullPath
  content := by
    cases h : Loading.textAt fs item.fullPath with
    | none => exact .inl (by rw [Loading.reread, h]; rfl)
    | some t => exact .inr ⟨t, by rw [Loading.reread, h]; rfl⟩
  tree := sound.tree

theorem Sound.withTree (sound : item.Sound key) {options : ParseOptions} {items : Items}
    {trees : List (Text × Value)} (made : Loading.MadeTrees options items trees) :
    (Loading.withTree (Entries.ofList trees) item).Sound key where
  index := sound.index
  id := sound.id
  fullPath := sound.fullPath
  content := sound.content
  tree := by
    cases h : (Loading.withTree (Entries.ofList trees) item).tree with
    | none => exact .inl rfl
    | some tree =>
        obtain ⟨t, path, _, parsed⟩ := Loading.parsed_of_withTree made h
        obtain ⟨es, rfl, _⟩ := Parsing.exists_table_of_parse parsed
        exact .inr ⟨es, rfl⟩

end Item

namespace Document

variable {d : Document} {items : Items}

/-- A document stores items that are sound, and nothing else beside them. -/
def Stores (d : Document) (items : Items) : Prop :=
  Entries.get? d filesName = some (.table items.toTable) ∧ ∀ e ∈ items, e.2.Sound e.1

theorem Stores.tracks (stores : d.Stores items) : Tracks d items :=
  tracks_of_get? stores.1 fun e he => (stores.2 e he).plain

theorem stores_withDefaults : Stores (withDefaults []) [] :=
  ⟨rfl, nofun⟩

theorem Stores.configured (stores : d.Stores items) (values : Value.Table) :
    Stores (merged d configName values) items := by
  have apart : configName ≠ filesName := by decide
  refine ⟨?_, stores.2⟩
  rw [merged, Entries.get?_put, if_neg apart]
  exact stores.1

/-- Merging sound items keeps all items sound. -/
theorem Stores.withItems (stores : d.Stores items) {new : Items}
    (sound : ∀ e ∈ new, e.2.Sound e.1) : Stores (Store.withItems d new) (items.update new) := by
  refine ⟨?_, fun e he => (Entries.mem_update he).elim (stores.2 e) (sound e)⟩
  rw [Store.withItems, merged, Entries.get?_put, if_pos rfl, stores.1]
  exact congrArg (some ∘ Value.table) (Entries.mapValues_update _ _ _).symm

end Document

section Holding

variable {fs fs' : FileSystem} {path : Path} {d : Document}

/-- A document is at a path, and the system can look at the path. -/
structure Holds (fs : FileSystem) (path : Path) (d : Document) : Prop where
  onDisk : OnDisk fs path d
  absent : Missing fs path → Absent fs path

theorem Holds.read (holds : Holds fs path d) : Document.read fs path = .ok d :=
  holds.onDisk.read holds.absent

/-- A stage that fails leaves a document that can be read as it is. -/
theorem Holds.spared (holds : Holds fs path d) (tree : fs.IsTree) (proper : path.Proper)
    (nameable : Nameable path) (spared : Spared path fs fs') : Holds fs' path d := by
  refine ⟨spared.onDisk tree proper holds.onDisk, fun missing => ?_⟩
  rcases spared with rfl | ⟨_, _, wrote⟩
  · exact holds.absent missing
  · have halfway := (wrote.underway tree proper (holds.onDisk.settled proper)).halfway
    exact halfway.absent proper nameable missing (holds.absent (missing.of_keeps halfway.keeps))

end Holding

namespace DefaultRun

variable {r : DefaultRun} {rs : List DefaultRun} {n : Nat} {p : Progress} {disk : Document}
  {items : Items} {path : Path} {fs : FileSystem}

/-- Runs from absolute directories on one document, the last one first, and the files that they have
left. At the start there is no document, and nothing but runs changes it. -/
inductive Ledger (path : Path) : List DefaultRun → FileSystem → Prop
  | start {fs : FileSystem} (unwritten : Unwritten fs path) (absent : Absent fs path) :
      Ledger path [] fs
  | run {r : DefaultRun} {rs : List DefaultRun} {fs root : FileSystem} {start : Path}
      (before : Ledger path rs fs) (at_path : r.path = path)
      (absolute : (Path.ofText r.directory).isAbsolute = true)
      (loaded : Configuration.load root start = .ok r.configuration)
      (tree : r.workspace.files.IsTree)
      (unchanged : ∀ d, Holds fs path d → Holds r.workspace.files path d) :
      Ledger path (r :: rs) r.final.files

/-- The document stores sound items at every moment of a run. -/
theorem Reached.stores (absolute : (Path.ofText r.directory).isAbsolute = true)
    (reached : r.Reached disk n p) (start : ∃ items, disk.Stores items) :
    ∃ items, p.document.Stores items := by
  refine reached.keeps (P := fun d => ∃ items, d.Stores items) start ?_ ?_ ?_ ?_
  · rintro p - ⟨items, stores⟩
    exact ⟨_, stores.configured _⟩
  · rintro p before ⟨items, stores⟩
    refine ⟨_, stores.withItems fun e he => ?_⟩
    rw [before.items] at he
    obtain ⟨_, id, heq⟩ := Items.eq_create_of_mem he
    exact heq ▸ Item.create_sound absolute id e.1
  · rintro p tracked - tracks ⟨items, stores⟩
    obtain rfl := tracks.unique stores.tracks
    exact ⟨_, stores.withItems <| Entries.forall_mem_mapValues.mpr fun e he =>
      (stores.2 e he).reread _⟩
  · rintro p tracked options trees - tracks made ⟨items, stores⟩
    obtain rfl := tracks.unique stores.tracks
    exact ⟨_, stores.withItems <| Entries.forall_mem_mapValues.mpr fun e he =>
      (stores.2 e he).withTree made⟩

/-- Whatever a run comes to, there is a document at the end that can be read. -/
theorem OverAfter.holds (tree : r.workspace.files.IsTree) (proper : r.path.Proper)
    (nameable : Nameable r.path) (distinct : Value.Table.Distinct r.configuration.values)
    (start : Holds r.workspace.files r.path disk) (stopped : r.OverAfter disk n p) :
    Holds r.final.files r.path p.document := by
  obtain ⟨onDisk, filled⟩ := stopped.reached.onDisk tree proper distinct start.onDisk
  have there : Holds (r.after n).files r.path p.document := by
    refine ⟨onDisk, fun missing => ?_⟩
    rcases n.eq_zero_or_pos with rfl | late
    · rw [r.after_zero] at missing ⊢
      exact start.absent missing
    · exact absurd missing (filled late)
  exact there.spared (stopped.reached.isTree tree) proper nameable stopped.spared

/-- After any runs there is a document of sound items. -/
theorem Ledger.holds (proper : path.Proper) (nameable : Nameable path)
    (ledger : Ledger path rs fs) : ∃ d items, Holds fs path d ∧ d.Stores items := by
  induction ledger with
  | start unwritten absent =>
      exact ⟨_, [], ⟨.absent unwritten, fun _ => absent⟩, Document.stores_withDefaults⟩
  | @run r rs fs root start before at_path absolute loaded tree unchanged ih =>
      subst at_path
      obtain ⟨disk, items, holds, stores⟩ := ih
      have holds := unchanged disk holds
      obtain ⟨n, p, stopped⟩ := r.exists_overAfter fun d read => holds.onDisk.eq_of_read read
      obtain ⟨items, stores⟩ := stopped.reached.stores absolute ⟨items, stores⟩
      exact ⟨p.document, items,
        stopped.holds tree proper nameable (Configuration.distinct_of_load loaded) holds, stores⟩

/-- A new store can always read what runs have left, whatever they came to: it loads a document of
sound items, and answers with these items, their full paths and their summary. No name on the path
of the document may be too long, and at the start the system knows that nothing is found there,
and a document that is written there will be. -/
theorem document_readable (proper : path.Proper) (nameable : Nameable path) {w : Workspace}
    (ledger : Ledger path rs w.files) :
    let new := { w with store := Store.new path }
    ∃ d items, (Store.load new).1 = .ok d ∧
      Entries.get? d Document.filesName = some (.table (Items.toTable items)) ∧
      (∀ e ∈ items, e.2.Sound e.1) ∧
      (Store.items new).1 = .ok items ∧
      (Store.fullPaths new).1 = .ok (items.map (·.2.fullPath)) ∧
      (Store.summary new).1 =
        .ok ⟨items.length, items.countP (·.2.hasContent), items.countP (·.2.hasTree)⟩ := by
  intro new
  obtain ⟨d, items, holds, stores⟩ := ledger.holds proper nameable
  have loaded := load_new holds.read
  have plain : ∀ e ∈ items, e.2.Plain := fun e he => (stores.2 e he).plain
  refine ⟨d, items, congrArg (·.1) loaded, stores.1, stores.2, ?_, ?_, ?_⟩
  · rw [items_of_load loaded, stores.tracks]
    rfl
  · rw [fullPaths_of_load loaded stores.tracks]
  · rw [summary_of_load loaded stores.1 plain]

section Examples

theorem document_readable_failing :
    let first := plain [(["a.py"], textFile "("), (["b.py"], textFile "x\n")] ["b.py"]
    let second := { first with patterns := ["a.py"], workspace := first.final }
    (first.path.Proper ∧ Nameable first.path ∧
      Ledger first.path [second, first] second.final.files) ∧
    let new := { second.final with store := Store.new first.path }
    ∃ d items, (Store.load new).1 = .ok d ∧
      Entries.get? d Document.filesName = some (.table (Items.toTable items)) ∧
      (∀ e ∈ items, e.2.Sound e.1) ∧
      (Store.items new).1 = .ok items ∧
      (Store.fullPaths new).1 = .ok (items.map (·.2.fullPath)) ∧
      (Store.summary new).1 =
        .ok ⟨items.length, items.countP (·.2.hasContent), items.countP (·.2.hasTree)⟩ := by
  intro first second
  have path : first.path = Path.ofText "/.syndox/db.json" := by decide +kernel
  have proper : first.path.Proper := path ▸ Path.ofText_proper _
  have nameable : Nameable first.path := by
    unfold Nameable
    decide +kernel
  have nothing : (first.workspace.files.find false first.path.toText).toOption.isNone = true := by
    decide +kernel
  have vacant : Vacant first.workspace.files first.path := by
    intro node found
    rw [found] at nothing
    cases nothing
  have settled : Settled first.workspace.files first.path :=
    settled_of_notMem (by decide +kernel)
  have absent : Absent first.workspace.files first.path := ⟨.system .notFound, rfl, rfl⟩
  have tree : first.workspace.files.IsTree := isTree_of_nodes (by decide +kernel)
  have loaded : Configuration.load first.workspace.files (Path.ofText "/") =
    .ok first.configuration := rfl
  have once : Ledger first.path [first] first.final.files :=
    .run (.start (unwritten_of_vacant tree proper vacant settled) absent) rfl rfl loaded tree
      fun _ => id
  have twice : Ledger first.path [second, first] second.final.files :=
    .run once rfl rfl loaded (isTree_of_nodes (by decide +kernel)) fun _ => id
  exact ⟨⟨proper, nameable, twice⟩, document_readable proper nameable twice⟩

/-- A run that fails at once can make the directory before a name that is too long, and then the
path of the document cannot be looked at any more. Or it makes the directory before a `..`, and
something else than a document is behind it. -/
theorem failed_run_bars :
    let reads (w : Workspace) (path : Path) : Bool :=
      (Store.load { w with store := Store.new path }).1.toOption.isSome
    let shown (started : Except Failure DefaultRun) : Option (Bool × Bool) :=
      started.toOption.map fun r => (reads r.workspace r.path, reads r.final r.path)
    let long := textFile ("out = \"sub/" ++ String.ofList (List.replicate 256 'x') ++ "\"")
    let detour := textFile "d = 2020-01-01\nout = \"sub/../x\""
    shown (startedIn ⟨[(["syndox.toml"], long)], []⟩ [] "/" []) = some (true, false) ∧
      shown (startedIn ⟨[(["syndox.toml"], detour), (["x"], .directory),
        (["x", "db.json"], textFile "[]")], []⟩ [] "/" []) = some (true, false) := by
  decide +kernel

end Examples

end DefaultRun

end SourceLedger
