import SourceLedger.Proofs.Run.Refresh

/-!
# What a run counts

A run without failure counts the files that it has read and the trees that it has made, and the
summary of its document counts items. These are the same numbers where the items with content have
different full paths. Items that share a full path count as one file.
-/

namespace SourceLedger

open FileSystem Run Store

namespace Loading

variable {fs : FileSystem} {options : ParseOptions} {items : Items} (current : Current fs items)
include current

theorem Current.exists_path :
    ∀ e ∈ items, e.2.hasContent = true → ∃ path, e.2.fullPath = .text path := by
  intro e he hasContent
  obtain ⟨c, hc⟩ := Option.isSome_iff_exists.mp hasContent
  obtain ⟨path, t, heq, _⟩ := isSource_of_content (current e he) hc
  exact ⟨path, (Prod.mk.inj heq).1⟩

/-- The tree that is made of a content is not empty. -/
theorem Current.hasTree_reparse (parses : Parses options items) :
    ∀ e ∈ items, (reparse options e.2).hasTree = e.2.hasContent := by
  intro e he
  have content := current e he
  rw [Item.hasTree, Item.hasContent, reparse, treeOf]
  cases hc : e.2.content with
  | none => rfl
  | some c =>
      obtain ⟨path, t, heq, _⟩ := isSource_of_content content hc
      obtain ⟨fullPath, rfl⟩ := Prod.mk.inj heq
      obtain ⟨v, parsed⟩ := parses e he t path hc fullPath
      obtain ⟨es, rfl, ne_nil⟩ := Parsing.exists_table_of_parse parsed
      simp only [fullPath, parsed]
      change (!es.isEmpty) = true
      rw [Bool.not_eq_true', List.isEmpty_eq_false_iff]
      exact ne_nil

end Loading

namespace DefaultRun

variable {r : DefaultRun} {disk : Document}

section Counted

variable (ok : r.outcome.failure = none)
include ok

/-- A run without failure has read a document. -/
theorem exists_read : ∃ disk, Document.read r.workspace.files r.path = .ok disk := by
  obtain ⟨disk, only⟩ := r.exists_disk
  obtain ⟨n, p, stopped⟩ := r.exists_overAfter only
  exact ⟨disk, (stopped.all ok).read (by omega)⟩

/-- What a run without failure has counted: the files that it has read, what was tracked beside
them, and the trees that it has made. -/
theorem exists_counted (complete : disk.Complete)
    (distinct : Value.Table.Distinct r.configuration.values)
    (only : ∀ d, Document.read r.workspace.files r.path = .ok d → d = disk) :
    ∃ items options p, r.Reached disk 6 p ∧ (∀ e ∈ items, e.2.Plain) ∧
      Loading.Current r.sourceFiles items ∧ Loading.Parses options items ∧
      Entries.get? p.document Document.filesName =
        some (.table (Items.toTable (items.mapValues (Loading.reparse options)))) ∧
      r.stats.counts = ((items.fullPathsOf Item.hasContent).length,
        items.length - (items.fullPathsOf Item.hasContent).length,
        (items.fullPathsOf Item.hasContent).length) := by
  have goesOn : ∀ {n p}, n < 6 → ¬ r.OverAfter disk n p :=
    fun early stopped => absurd (stopped.eq_six ok) (by omega)
  obtain ⟨n, p, early, stopped⟩ | ⟨p, s, there⟩ := r.at_committed only
  · exact absurd stopped (goesOn (by omega))
  obtain ⟨tracked, s₅, tracks, there₅, parsed, counts₅⟩ :=
    there.load.resolve_left (goesOn (by omega))
  obtain ⟨options, tracked', trees, _, tracks', made, stopped, counts⟩ :=
    there₅.parse.resolve_left (goesOn (by omega))
  have distinct₄ := (there.reached.complete complete distinct).distinct
  have distinct₅ := (there₅.reached.complete complete distinct).distinct
  have plain : ∀ e ∈ tracked, (Loading.reread r.sourceFiles e.2).Plain :=
    fun e he => Loading.reread_plain (tracks.plain e he)
  have tracks₅ := tracks.mapValues distinct₄ plain
  obtain rfl := tracks₅.unique tracks'
  have current := Loading.current_reread r.sourceFiles tracked
  obtain ⟨same, parses⟩ := Loading.withTree_eq_reparse current made
  refine ⟨_, options, _, stopped.reached, tracks₅.plain, current, parses, ?_, ?_⟩
  · rw [Progress.holding_document, ← same]
    exact tracks'.get?_withItems distinct₅ _
  · rw [counts, counts₅, made.length current, ← tracks₅.length]

end Counted

/-- The summary of the document that a new store reads once the run is over. -/
def summary (r : DefaultRun) : Except Failure Summary :=
  (Store.summary { r.final with store := Store.new r.path }).1

/-- Whoever looks at the document of a run without failure gets a summary of it. -/
theorem exists_summary {fs : FileSystem} {start : Path}
    (loaded : Configuration.load fs start = .ok r.configuration)
    (tree : r.workspace.files.IsTree) (ok : r.outcome.failure = none) {w : Workspace}
    (files : w.files = r.final.files) (store : w.store = Store.new r.path) :
    ∃ summary d, Store.summary w = (.ok summary, holding w d) := by
  obtain ⟨disk, read⟩ := exists_read ok
  have complete := Document.complete_of_read read
  have distinct := Configuration.distinct_of_load loaded
  obtain ⟨items, options, p, reached, plain, _, _, stored, _⟩ :=
    exists_counted ok complete distinct fun d h => (Except.ok.inj (read.symm.trans h)).symm
  have left : Document.read w.files w.store.path = .ok p.document := by
    rw [files, store]
    exact (left_eq_read r).symm.trans (reached.left tree complete distinct)
  have load : Store.load w = (.ok p.document, holding w p.document) := by
    rw [load_of_none (by rw [store]; rfl), left]
  exact ⟨_, _, summary_of_load load stored <|
    Entries.forall_mem_mapValues.mpr fun e he => Loading.reparse_plain (plain e he)⟩

/-- A run without failure counts each file that it has read and each tree that it has made once, by
their full paths. The summary counts the items with content and those with a tree. If the items
with content have different full paths, it says what the run has counted. -/
theorem counters_fit_summary {fs : FileSystem} {start : Path}
    (loaded : Configuration.load fs start = .ok r.configuration)
    (tree : r.workspace.files.IsTree) (ok : r.outcome.failure = none) :
    ∃ d items, r.left = .ok d ∧
      Entries.get? d Document.filesName = some (.table (Items.toTable items)) ∧
      r.summary = .ok ⟨items.length, items.countP (·.2.hasContent), items.countP (·.2.hasTree)⟩ ∧
      r.stats.loaded = (items.fullPathsOf Item.hasContent).length ∧
      r.stats.parsed = (items.fullPathsOf Item.hasTree).length ∧
      (((items.filter (·.2.hasContent)).map (·.2.fullPath)).Nodup →
        r.stats.loaded = items.countP (·.2.hasContent) ∧
        r.stats.skipped = items.countP (!·.2.hasContent) ∧
        r.stats.parsed = items.countP (·.2.hasTree)) := by
  obtain ⟨disk, read⟩ := exists_read ok
  have complete := Document.complete_of_read read
  have distinct := Configuration.distinct_of_load loaded
  obtain ⟨items, options, p, reached, plain, current, parses, files, counts⟩ :=
    exists_counted ok complete distinct fun d h => (Except.ok.inj (read.symm.trans h)).symm
  have left := reached.left tree complete distinct
  let final : Items := items.mapValues (Loading.reparse options)
  have trees : ∀ e ∈ final, e.2.hasTree = e.2.hasContent :=
    Entries.forall_mem_mapValues.mpr (current.hasTree_reparse parses)
  have fullPaths : final.fullPathsOf Item.hasContent = items.fullPathsOf Item.hasContent :=
    Items.fullPathsOf_mapValues fun _ => rfl
  obtain ⟨stat, skipped, parsed⟩ : r.stats.loaded = (final.fullPathsOf Item.hasContent).length ∧
      r.stats.skipped = final.length - (final.fullPathsOf Item.hasContent).length ∧
      r.stats.parsed = (final.fullPathsOf Item.hasTree).length := by
    have length : final.length = items.length := List.length_map _
    rw [Items.fullPathsOf_congr trees, fullPaths, length]
    exact ⟨congrArg (·.1) counts, congrArg (·.2.1) counts, congrArg (·.2.2) counts⟩
  refine ⟨p.document, final, left, files, ?_, stat, parsed, fun nodup => ?_⟩
  · have read := (left_eq_read r).symm.trans left
    have plain : ∀ e ∈ final, e.2.Plain :=
      Entries.forall_mem_mapValues.mpr fun e he => Loading.reparse_plain (plain e he)
    rw [summary, summary_of_load (load_new read) files plain]
  · have texts : ∀ e ∈ final, e.2.hasContent = true → ∃ path, e.2.fullPath = .text path :=
      Entries.forall_mem_mapValues.mpr current.exists_path
    have count := Items.length_fullPathsOf texts nodup
    have same : final.countP (·.2.hasTree) = final.countP (·.2.hasContent) :=
      List.countP_congr fun e he => by rw [trees e he]
    refine ⟨stat.trans count, skipped.trans (Items.length_sub_fullPathsOf texts nodup), ?_⟩
    rw [parsed, Items.fullPathsOf_congr trees, same, count]

theorem counters_fit_summary_file :
    let r := plain [(["a.py"], textFile "x\n")] ["a.py"]
    (Configuration.load r.workspace.files (Path.ofText "/") = .ok r.configuration ∧
      r.workspace.files.IsTree ∧ r.outcome.failure = none) ∧
    ∃ d items, r.left = .ok d ∧
      Entries.get? d Document.filesName = some (.table (Items.toTable items)) ∧
      r.summary = .ok ⟨items.length, items.countP (·.2.hasContent), items.countP (·.2.hasTree)⟩ ∧
      r.stats.loaded = (items.fullPathsOf Item.hasContent).length ∧
      r.stats.parsed = (items.fullPathsOf Item.hasTree).length ∧
      (((items.filter (·.2.hasContent)).map (·.2.fullPath)).Nodup →
        r.stats.loaded = items.countP (·.2.hasContent) ∧
        r.stats.skipped = items.countP (!·.2.hasContent) ∧
        r.stats.parsed = items.countP (·.2.hasTree)) := by
  intro r
  have loaded : Configuration.load r.workspace.files (Path.ofText "/") = .ok r.configuration := rfl
  have tree : r.workspace.files.IsTree := isTree_of_nodes (by decide +kernel)
  have ok : r.outcome.failure.isNone = true := by decide +kernel
  have ok := Option.isNone_iff_eq_none.mp ok
  exact ⟨⟨loaded, tree, ok⟩, counters_fit_summary loaded tree ok⟩

/-- Two items that share a file are counted as one by the run, and as two by the summary. -/
theorem shared_file_counted_once :
    let r := plain [(["a.py"], textFile "x\n")] ["a.py", "./a.py"]
    r.outcome.failure.isNone = true ∧ r.stats.counts = (1, 1, 1) ∧
      r.summary.toOption = some ⟨2, 2, 2⟩ := by
  decide +kernel

end DefaultRun

end SourceLedger
