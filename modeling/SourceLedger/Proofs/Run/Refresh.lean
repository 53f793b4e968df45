import SourceLedger.Proofs.Run.Frame

/-!
# What runs come to that go through

A run without failure refreshes the whole document: what was tracked and what was resolved is
tracked now, and every item has the text of its file and the tree of that text, whatever the items
of earlier runs had. That is what a new store reads.
-/

namespace SourceLedger

open FileSystem Run Store

namespace Loading

/-- An item has the text of the regular file that its full path leads to, and the tree of that
text. Where there is no such file, it has neither. -/
structure Fresh (fs : FileSystem) (options : ParseOptions) (item : Item) : Prop where
  file : ∀ path node, item.fullPath = .text path → fs.find true path = .ok node →
    node.isRegular = true →
    ∃ bytes s tree, node = .file bytes ∧ Utf8.decode bytes = .ok s ∧
      item.content = some (.text (Text.ofChars s)) ∧
      Parsing.parse options (Text.ofChars s) path = .ok tree ∧ item.tree = some tree
  other : (∀ path node, item.fullPath = .text path → fs.find true path = .ok node →
      node.isRegular = false) →
    item.content = none ∧ item.tree = none

variable {fs : FileSystem} {options : ParseOptions} {items : Items} {item : Item}

/-- Items that were reread and then parsed are fresh. -/
theorem fresh_reparse (current : Current fs items) (parses : Parses options items)
    (read : ∀ e ∈ items, ∃ c, readContent fs e.2.fullPath = .ok c) :
    ∀ e ∈ items.mapValues (reparse options), Fresh fs options e.2 := by
  rw [Entries.forall_mem_mapValues]
  intro e he
  have content := current e he
  obtain ⟨c, read⟩ := read e he
  rw [textAt_of_ok read] at content
  constructor
  · intro path node hpath found regular
    change e.2.fullPath = .text path at hpath
    cases c with
    | none => cases regular.symm.trans (readContent_none read hpath found)
    | some r =>
        obtain ⟨path', bytes, s, hpath', found', decoded, rfl⟩ := readContent_some read
        cases hpath.symm.trans hpath'
        cases found.symm.trans found'
        obtain ⟨tree, parsed⟩ := parses e he _ path content hpath
        refine ⟨bytes, s, tree, rfl, decoded, content, parsed, ?_⟩
        change treeOf options e.2 = _
        rw [treeOf, content, hpath]
        change (Parsing.parse options (Text.ofChars s) path).toOption = _
        rw [parsed]
        rfl
  · intro other
    cases c with
    | none =>
        refine ⟨content, ?_⟩
        change treeOf options e.2 = _
        rw [treeOf, content]
        rfl
    | some r =>
        obtain ⟨path, bytes, s, hpath, found, _⟩ := readContent_some read
        cases other path _ hpath found

end Loading

namespace DefaultRun

variable {r : DefaultRun} {n : Nat} {p : Progress} {disk : Document}

/-- The parse options that are asked for are those of the configuration. -/
theorem Reached.optionsOf {fs : FileSystem} {start : Path}
    (loaded : Configuration.load fs start = .ok r.configuration)
    (reached : r.Reached disk n p) (late : 0 < n) : Loading.optionsOf p.document = r.options := by
  have apart : Document.filesName ≠ Document.configName := by decide
  have kept : ∀ (d : Document) (items : Items),
      Loading.optionsOf (withItems d items) = Loading.optionsOf d := by
    intro d items
    rw [Loading.optionsOf, withItems, namespaceOf_merged_of_ne apart, Loading.optionsOf]
  induction reached with
  | start => omega
  | @initialized p _ _ _ =>
      change Loading.optionsOf (merged p.document Document.configName r.configuration.values) = _
      rw [Loading.optionsOf, namespaceOf_merged, Configuration.lookup_update loaded]
      rfl
  | resolved _ _ _ ih => exact ih (by omega)
  | identified _ _ ih => exact ih (by omega)
  | committed _ _ ih => exact (kept _ _).trans (ih (by omega))
  | loaded _ _ _ _ ih => exact (kept _ _).trans (ih (by omega))
  | parsed _ _ _ _ _ ih => exact (kept _ _).trans (ih (by omega))

section Complete

variable (complete : disk.Complete) (distinct : Value.Table.Distinct r.configuration.values)
include complete distinct

/-- What is tracked once the contents are loaded: the items that were tracked before, each with the
text of its file. -/
theorem Reached.loaded_items (reached : r.Reached disk 5 p) :
    ∃ p₀ tracked, r.Reached disk 4 p₀ ∧ p.paths = p₀.paths ∧ Tracks p₀.document tracked ∧
      (∀ e ∈ tracked, ∃ c, Loading.readContent r.sourceFiles e.2.fullPath = .ok c) ∧
      Tracks p.document (tracked.mapValues (Loading.reread r.sourceFiles)) := by
  cases reached with
  | @loaded p₀ tracked before tracks read writes =>
      have distinct := (before.complete complete distinct).distinct
      exact ⟨p₀, tracked, before, rfl, tracks, read,
        tracks.mapValues distinct fun e he => Loading.reread_plain (tracks.plain e he)⟩

/-- What is tracked at the end: the items that were tracked once the new ones were committed, each
with the text of its file and the tree of that text. -/
theorem Reached.parsed_items (reached : r.Reached disk 6 p) {options : ParseOptions}
    (asked : ∀ {p₅}, r.Reached disk 5 p₅ → Loading.optionsOf p₅.document = .ok options) :
    ∃ p₄ tracked, r.Reached disk 4 p₄ ∧ p.paths = p₄.paths ∧ Tracks p₄.document tracked ∧
      (∀ e ∈ tracked, ∃ c, Loading.readContent r.sourceFiles e.2.fullPath = .ok c) ∧
      Loading.Parses options (tracked.mapValues (Loading.reread r.sourceFiles)) ∧
      Entries.get? p.document Document.filesName = some (.table (Items.toTable
        ((tracked.mapValues (Loading.reread r.sourceFiles)).mapValues
          (Loading.reparse options)))) := by
  cases reached with
  | @parsed p₅ tracked' options' trees before tracks asked' made writes =>
      obtain ⟨p₄, tracked, committed, paths, tracks₄, read, tracks₅⟩ :=
        before.loaded_items complete distinct
      obtain rfl := tracks₅.unique tracks
      cases (asked before).symm.trans asked'
      obtain ⟨same, parses⟩ := Loading.withTree_eq_reparse (Loading.current_reread _ _) made
      refine ⟨p₄, tracked, committed, paths, tracks₄, read, parses, ?_⟩
      rw [Progress.holding_document, ← same]
      exact tracks.get?_withItems (before.complete complete distinct).distinct _

end Complete

/-- Options were asked for that can be read if trees were made. -/
theorem Reached.exists_options {fs : FileSystem} {start : Path}
    (loaded : Configuration.load fs start = .ok r.configuration) (reached : r.Reached disk 6 p) :
    ∃ options, r.options = .ok options := by
  cases reached with
  | parsed before _ asked _ _ => exact ⟨_, (before.optionsOf loaded (by omega)).symm.trans asked⟩

/-- After a run without failure a new store reads a document of items: one for every key that was
there before and for every path that was resolved, and no other. Those of the resolved paths have
these as their index and, from the working directory, as their full path. All items are fresh: they
have the text of the file that their full path led to when the contents were loaded, and its tree
with the parse options of the configuration, or neither of them. -/
theorem run_refreshes {fs : FileSystem} {start : Path}
    (loaded : Configuration.load fs start = .ok r.configuration)
    (tree : r.workspace.files.IsTree) {d : Document}
    (read : Document.read r.workspace.files r.path = .ok d) (ok : r.outcome.failure = none) :
    ∃ paths options d' items, r.resolved = .ok paths ∧ r.options = .ok options ∧
      r.left = .ok d' ∧
      Entries.get? d' Document.filesName = some (.table (Items.toTable items)) ∧
      (∀ key, key ∈ Entries.keys items ↔ key ∈ Entries.keys (filesOf d) ∨ key ∈ paths) ∧
      (∀ path ∈ paths, ∃ item, Entries.get? items path = some item ∧ item.index = .text path ∧
        item.fullPath = .text (Path.resolve r.directory path)) ∧
      ∀ e ∈ items, Loading.Fresh r.sourceFiles options e.2 := by
  have complete := Document.complete_of_read read
  have distinct := Configuration.distinct_of_load loaded
  obtain ⟨n, p, stopped⟩ := r.exists_overAfter fun d' h => (Except.ok.inj (read.symm.trans h)).symm
  have reached := stopped.all ok
  obtain ⟨options, hoptions⟩ := reached.exists_options loaded
  obtain ⟨p₄, tracked, committed, paths, tracks, readable, parses, files⟩ :=
    reached.parsed_items complete distinct fun before =>
      (before.optionsOf loaded (by omega)).trans hoptions
  have resolved := committed.resolvedTo (by omega)
  refine ⟨p₄.paths, options, p.document, _, resolved, hoptions,
    reached.left tree complete distinct, files, fun key => ?_, fun path hpath => ?_,
    Loading.fresh_reparse (Loading.current_reread _ _) parses ?_⟩
  · rw [Entries.keys_mapValues, Entries.keys_mapValues, tracks.keys]
    exact committed.mem_keys (by omega)
  · obtain ⟨k, _, _, found⟩ := committed.committed_item hpath
    have member := Entries.mem_keys_iff.mpr ⟨_, found⟩
    obtain ⟨item, hitem⟩ := Entries.mem_keys_iff.mp
      ((tracks.keys : Entries.keys tracked = Entries.keys (filesOf _)) ▸ member)
    obtain ⟨v, hv, made⟩ := Items.get?_of_ofTable tracks.ofTable hitem
    cases hv.symm.trans found
    cases (Item.ofValue_toValue (Item.create_plain _ _ _)).symm.trans made
    refine ⟨Loading.reparse options (Loading.reread r.sourceFiles
      (Item.create (IdSupply.idOf k) r.directory path)), ?_, rfl, rfl⟩
    rw [Entries.get?_mapValues, Entries.get?_mapValues, hitem]
    rfl
  · rw [Entries.forall_mem_mapValues]
    exact readable

section Examples

/-- A run for one file, with the items of another one that has changed since an earlier run and of
one that is a directory by now. -/
def overEarlier : DefaultRun :=
  plain [([".syndox"], .directory),
    ([".syndox", "db.json"], textFile
      "\x7b\"files\": \x7b\"b.py\": \x7b\"fullPath\": \"/b.py\", \"index\": \"b.py\", \"id\": \"0\", \"data\": \"y\", \"ast\": \x7b\"k\": 1\x7d\x7d, \"c.py\": \x7b\"fullPath\": \"/c.py\", \"index\": \"c.py\", \"id\": \"1\", \"data\": \"z\"\x7d\x7d\x7d"),
    (["a.py"], textFile "x\n"), (["b.py"], textFile "x = 1\n"), (["c.py"], .directory)] ["a.py"]

theorem run_refreshes_earlier :
    let r := overEarlier
    (Configuration.load r.workspace.files (Path.ofText "/") = .ok r.configuration ∧
      r.workspace.files.IsTree ∧ r.outcome.failure = none) ∧
    ∃ d, Document.read r.workspace.files r.path = .ok d ∧
      Entries.keys (filesOf d) = [("b.py" : Text), "c.py"] ∧
    ∃ paths options d' items, r.resolved = .ok paths ∧ r.options = .ok options ∧
      r.left = .ok d' ∧
      Entries.get? d' Document.filesName = some (.table (Items.toTable items)) ∧
      (∀ key, key ∈ Entries.keys items ↔ key ∈ Entries.keys (filesOf d) ∨ key ∈ paths) ∧
      (∀ path ∈ paths, ∃ item, Entries.get? items path = some item ∧ item.index = .text path ∧
        item.fullPath = .text (Path.resolve r.directory path)) ∧
      ∀ e ∈ items, Loading.Fresh r.sourceFiles options e.2 := by
  intro r
  have loaded : Configuration.load r.workspace.files (Path.ofText "/") = .ok r.configuration := rfl
  have tree : r.workspace.files.IsTree := isTree_of_nodes (by decide +kernel)
  have ok : r.outcome.failure.isNone = true := by decide +kernel
  have ok := Option.isNone_iff_eq_none.mp ok
  have keys : (Document.read r.workspace.files r.path).toOption.map
      (fun d => Entries.keys (filesOf d)) = some [("b.py" : Text), "c.py"] := by decide +kernel
  obtain ⟨d, read, keys⟩ := Option.map_eq_some_iff.mp keys
  have read := eq_ok_of_toOption read
  exact ⟨⟨loaded, tree, ok⟩, d, read, keys, run_refreshes loaded tree read ok⟩

end Examples

end DefaultRun

end SourceLedger
