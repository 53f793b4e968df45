import SourceLedger.Proofs.Run.Disk

/-!
# What runs leave as it was

A run rewrites the whole document several times, and whatever it comes to, every entry is still
there: in its place, and with its identity unless the run has committed a new item for it. The
members of the document that are not the program's own stay as they were.
-/

namespace SourceLedger

open FileSystem Run Store

namespace Item

/-- The parts of an item that say which file it is of. -/
def identifying : List Text := ["id", "fullPath", "index"]

variable {item item' : Item} {v : Value} {name : Text}

theorem follow?_of_ofValue (h : ofValue v = .ok item) (hname : name ∈ identifying) :
    v.follow? [name] = item.toValue.follow? [name] := by
  obtain ⟨es, rfl, id, fullPath, index, _⟩ := ofValue_eq_ok h
  simp only [identifying, List.mem_cons, List.not_mem_nil, or_false] at hname
  rcases hname with rfl | rfl | rfl <;> simp [toValue, Value.follow?, id, fullPath, index]

/-- Two items of the same file. -/
structure SameFile (item item' : Item) : Prop where
  id : item'.id = item.id
  fullPath : item'.fullPath = item.fullPath
  index : item'.index = item.index

theorem SameFile.follow? (same : SameFile item item') (hname : name ∈ identifying) :
    item'.toValue.follow? [name] = item.toValue.follow? [name] := by
  simp only [identifying, List.mem_cons, List.not_mem_nil, or_false] at hname
  rcases hname with rfl | rfl | rfl <;>
    simp [toValue, Value.follow?, same.id, same.fullPath, same.index]

end Item

namespace Store

variable {d d' d'' : Document} {touched touched' : List Text} {key name : Text}

/-- The table of the files that a document tracks. -/
def filesOf (d : Document) : Value.Table := tableIn d Document.filesName

/-- A part of an entry, such as its identity. -/
def part (d : Document) (key name : Text) : Option Value :=
  (Entries.get? (filesOf d) key).bind (·.follow? [name])

/-- What one document keeps of another one: the entries in their order, with all that identifies
them where they were not touched, and all members that are not the program's own. -/
structure Frames (touched : List Text) (d d' : Document) : Prop where
  members : ∀ name, name ≠ Document.configName → name ≠ Document.filesName →
    Entries.get? d' name = Entries.get? d name
  files : ∀ old, Entries.get? d Document.filesName = some (.table old) →
    ∃ new, Entries.get? d' Document.filesName = some (.table new)
  order : Entries.keys (filesOf d) <+: Entries.keys (filesOf d')
  parts : ∀ key ∈ Entries.keys (filesOf d), key ∉ touched → ∀ name ∈ Item.identifying,
    part d' key name = part d key name

namespace Frames

theorem refl (touched : List Text) (d : Document) : Frames touched d d where
  members _ _ _ := rfl
  files old h := ⟨old, h⟩
  order := List.prefix_refl _
  parts _ _ _ _ _ := rfl

theorem trans (h : Frames touched d d') (h' : Frames touched d' d'') : Frames touched d d'' where
  members name config files := (h'.members name config files).trans (h.members name config files)
  files old hold := by
    obtain ⟨new, hnew⟩ := h.files old hold
    exact h'.files new hnew
  order := h.order.trans h'.order
  parts key hkey untouched name hname :=
    (h'.parts key (h.order.subset hkey) untouched name hname).trans
      (h.parts key hkey untouched name hname)

theorem mono (h : Frames touched d d') (more : touched ⊆ touched') : Frames touched' d d' :=
  ⟨h.members, h.files, h.order, fun key hkey untouched =>
    h.parts key hkey fun hmem => untouched (more hmem)⟩

/-- Merging a configuration touches no entry. -/
theorem configuration (d : Document) (values : Value.Table) :
    Frames [] d (merged d Document.configName values) := by
  have apart : Document.configName ≠ Document.filesName := by decide
  have same : filesOf (merged d Document.configName values) = filesOf d :=
    tableIn_merged_of_ne apart d values
  refine ⟨fun name config _ => ?_, fun old hold => ⟨old, ?_⟩, ?_, fun key _ _ name _ => ?_⟩
  · rw [merged, Entries.get?_put, if_neg (Ne.symm config)]
  · rw [merged, Entries.get?_put, if_neg apart, hold]
  · rw [same]
  · rw [part, same, part]

theorem filesOf_withItems (d : Document) (items : Items) :
    filesOf (withItems d items) = (filesOf d).update items.toTable := by
  rw [filesOf, tableIn, Store.withItems, merged, Entries.get?_put, if_pos rfl]
  rfl

/-- Merging items touches the entries of their keys, and no other. -/
theorem withItems (d : Document) (items : Items) :
    Frames (Entries.keys items) d (withItems d items) := by
  refine ⟨fun name _ files => ?_, fun old hold => ?_, ?_, fun key _ untouched name _ => ?_⟩
  · rw [Store.withItems, merged, Entries.get?_put, if_neg (Ne.symm files)]
  · rw [Store.withItems, merged, Entries.get?_put, if_pos rfl]
    exact ⟨_, rfl⟩
  · rw [filesOf_withItems]
    exact Entries.keys_prefix_update _ _
  · rw [part, filesOf_withItems, Entries.get?_update_of_notMem, part]
    rwa [Items.keys_toTable]

/-- Changing contents and trees touches nothing that identifies an entry. -/
theorem mapValues {tracked : Items} {f : Item → Item} (tracks : Tracks d tracked)
    (distinct : Value.Table.Distinct d) (same : ∀ item : Item, item.SameFile (f item)) :
    Frames [] d (Store.withItems d (tracked.mapValues f)) := by
  have frames := withItems d (tracked.mapValues f)
  refine ⟨frames.members, frames.files, frames.order, fun key hkey _ name hname => ?_⟩
  have nodup : (Entries.keys (Items.toTable (tracked.mapValues f))).Nodup := by
    rw [Items.keys_toTable, Entries.keys_mapValues]
    exact tracks.nodup distinct
  obtain ⟨item, found⟩ := Entries.mem_keys_iff.mp (tracks.keys ▸ hkey)
  obtain ⟨v, hv, hitem⟩ := Items.get?_of_ofTable tracks.ofTable found
  have old : part d key name = item.toValue.follow? [name] := by
    rw [part, show Entries.get? (filesOf d) key = some v from hv]
    exact Item.follow?_of_ofValue hitem hname
  rw [old, part, filesOf_withItems, Entries.get?_update nodup, Items.get?_toTable,
    Entries.get?_mapValues, found]
  exact (same item).follow? hname

end Frames

end Store

namespace DefaultRun

variable {r : DefaultRun} {n : Nat} {p : Progress} {d disk : Document} {touched : List Text}
  {key : Text}

theorem reread_sameFile (fs : FileSystem) (item : Item) :
    item.SameFile (Loading.reread fs item) := ⟨rfl, rfl, rfl⟩

theorem withTree_sameFile (trees : Entries Value) (item : Item) :
    item.SameFile (Loading.withTree trees item) := ⟨rfl, rfl, rfl⟩

/-- Until new items are committed the files of the document are as before. -/
theorem Reached.filesOf_early (reached : r.Reached disk n p) (early : n < 4) :
    filesOf p.document = filesOf disk := by
  have apart : Document.configName ≠ Document.filesName := by decide
  induction reached with
  | start => rfl
  | initialized _ _ _ ih => exact (tableIn_merged_of_ne apart _ _).trans (ih (by omega))
  | resolved _ _ _ ih => exact ih (by omega)
  | identified _ _ ih => exact ih (by omega)
  | committed | loaded | parsed => omega

/-- The files of the document once the new items are committed. -/
theorem Reached.filesOf_committed (reached : r.Reached disk 4 p) :
    filesOf p.document = (filesOf disk).update
      (Items.create r.directory p.paths r.workspace.ids).1.toTable := by
  cases reached with
  | committed before _ =>
      rw [← before.filesOf_early (by omega), Progress.holding_document, Progress.holding_paths,
        ← before.items, Frames.filesOf_withItems]

/-- From the commit on the keys are those that were there and those that were resolved. -/
theorem Reached.mem_keys (reached : r.Reached disk n p) (late : 3 < n) :
    key ∈ Entries.keys (filesOf p.document) ↔
      key ∈ Entries.keys (filesOf disk) ∨ key ∈ p.paths := by
  have kept : ∀ {d : Document} {tracked : Items} {f : Item → Item}, Tracks d tracked →
      (key ∈ Entries.keys (filesOf (withItems d (tracked.mapValues f))) ↔
        key ∈ Entries.keys (filesOf d)) := by
    intro d tracked f tracks
    rw [Frames.filesOf_withItems, Entries.mem_keys_update, Items.keys_toTable,
      Entries.keys_mapValues, tracks.keys]
    exact or_self_iff
  induction reached with
  | start | initialized | resolved | identified => omega
  | committed before writes ih =>
      rw [(Reached.committed before writes).filesOf_committed, Entries.mem_keys_update,
        Items.keys_toTable, Items.mem_keys_create]
  | loaded _ tracks _ _ ih => exact (kept tracks).trans (ih (by omega))
  | parsed _ tracks _ _ _ ih => exact (kept tracks).trans (ih (by omega))

theorem Reached.committed_item (reached : r.Reached disk 4 p) (hkey : key ∈ p.paths) :
    ∃ k, r.workspace.ids.next ≤ k ∧ k < r.workspace.ids.next + p.paths.length ∧
      Entries.get? (filesOf p.document) key =
        some (Item.create (IdSupply.idOf k) r.directory key).toValue := by
  have nodup := Items.nodup_create r.directory p.paths r.workspace.ids
  obtain ⟨k, least, most, found⟩ := Items.get?_create r.directory hkey r.workspace.ids
  refine ⟨k, least, most, ?_⟩
  rw [reached.filesOf_committed, Entries.get?_update (by rwa [Items.keys_toTable]),
    Items.get?_toTable, found]
  rfl

section Complete

variable (complete : disk.Complete) (distinct : Value.Table.Distinct r.configuration.values)
include complete distinct

/-- Only committing new items touches what identifies an entry. -/
theorem Reached.frames (reached : r.Reached disk n p) (h : 3 < n → p.paths ⊆ touched) :
    Frames touched disk p.document := by
  have untouched : ∀ {d d'}, Frames [] d d' → Frames touched d d' :=
    fun frames => frames.mono (List.nil_subset _)
  induction reached with
  | start => exact .refl _ _
  | initialized _ _ _ ih => exact (ih (by omega)).trans (untouched (.configuration _ _))
  | resolved _ _ _ ih => exact ih (by omega)
  | identified _ _ ih => exact ih (by omega)
  | committed before _ ih =>
      refine (ih (by omega)).trans ((Frames.withItems _ _).mono fun key hkey => h (by omega) ?_)
      rw [before.items] at hkey
      exact Items.mem_keys_create.mp hkey
  | loaded before tracks _ _ ih =>
      have distinct := (before.complete complete distinct).distinct
      exact (ih fun _ => h (by omega)).trans
        (untouched (.mapValues tracks distinct (reread_sameFile _)))
  | parsed before tracks _ _ _ ih =>
      have distinct := (before.complete complete distinct).distinct
      exact (ih fun _ => h (by omega)).trans
        (untouched (.mapValues tracks distinct (withTree_sameFile _)))

/-- From the commit on there is an entry for every path that was resolved, and it is that of a new
item. -/
theorem Reached.committed_parts (reached : r.Reached disk n p) (late : 3 < n)
    (hkey : key ∈ p.paths) :
    ∃ k, r.workspace.ids.next ≤ k ∧ k < r.workspace.ids.next + p.paths.length ∧
      key ∈ Entries.keys (filesOf p.document) ∧ ∀ name ∈ Item.identifying,
        part p.document key name =
          (Item.create (IdSupply.idOf k) r.directory key).toValue.follow? [name] := by
  have kept : ∀ {k} {d d' : Document}, Frames [] d d' →
      (key ∈ Entries.keys (filesOf d) ∧ ∀ name ∈ Item.identifying, part d key name =
        (Item.create (IdSupply.idOf k) r.directory key).toValue.follow? [name]) →
      key ∈ Entries.keys (filesOf d') ∧ ∀ name ∈ Item.identifying, part d' key name =
        (Item.create (IdSupply.idOf k) r.directory key).toValue.follow? [name] :=
    fun frames ⟨old, parts⟩ => ⟨frames.order.subset old, fun name hname =>
      (frames.parts key old List.not_mem_nil name hname).trans (parts name hname)⟩
  induction reached with
  | start | initialized | resolved | identified => omega
  | committed before writes ih =>
      obtain ⟨k, least, most, found⟩ := (Reached.committed before writes).committed_item hkey
      refine ⟨k, least, most, Entries.mem_keys_iff.mpr ⟨_, found⟩, fun name _ => ?_⟩
      rw [part, found]
      rfl
  | loaded before tracks _ _ ih =>
      obtain ⟨k, least, most, parts⟩ := ih (by omega) hkey
      have distinct := (before.complete complete distinct).distinct
      exact ⟨k, least, most, kept (.mapValues tracks distinct (reread_sameFile _)) parts⟩
  | parsed before tracks _ _ _ ih =>
      obtain ⟨k, least, most, parts⟩ := ih (by omega) hkey
      have distinct := (before.complete complete distinct).distinct
      exact ⟨k, least, most, kept (.mapValues tracks distinct (withTree_sameFile _)) parts⟩

/-- From the commit on the full path of an entry is that of the run, if the run resolved its key,
and the one that it had before otherwise. -/
theorem Reached.fullPath (reached : r.Reached disk n p) (late : 3 < n) (key : Text) :
    part p.document key "fullPath" =
      if key ∈ p.paths then some (.text (Path.resolve r.directory key))
      else part disk key "fullPath" := by
  split_ifs with hkey
  · obtain ⟨_, _, _, _, parts⟩ := reached.committed_parts complete distinct late hkey
    exact parts "fullPath" (by decide)
  · by_cases old : key ∈ Entries.keys (filesOf disk)
    · have frames := reached.frames complete distinct fun _ => List.Subset.refl p.paths
      exact frames.parts key old hkey "fullPath" (by decide)
    · have new : key ∉ Entries.keys (filesOf p.document) := by
        rw [reached.mem_keys late]
        exact not_or.mpr ⟨old, hkey⟩
      rw [part, part, Entries.get?_eq_none_iff.mpr new, Entries.get?_eq_none_iff.mpr old]

end Complete

/-- A run over a document whose files are a table loses no entry and touches nothing else, whatever
it comes to: a new store reads a document in which all entries are still there, in their order and
before any new ones, and with what identifies them unless they were resolved. What was resolved and
committed has a new identity, and the members that are not the program's own are as before. -/
theorem run_keeps_entries (tree : r.workspace.files.IsTree) (proper : r.path.Proper)
    (distinct : Value.Table.Distinct r.configuration.values) {bytes : Bytes}
    (there : r.workspace.files.read r.path.toText = .ok bytes)
    (read : Document.read r.workspace.files r.path = .ok d) {old : Value.Table}
    (files : Entries.get? d Document.filesName = some (.table old)) :
    ∃ d' new, r.left = .ok d' ∧ Entries.get? d' Document.filesName = some (.table new) ∧
      Frames r.paths d d' ∧
      (commitFiles.name ∈ r.outcome.completed → ∀ key ∈ r.paths,
        ∃ k, r.workspace.ids.next ≤ k ∧ k < r.workspace.ids.next + r.paths.length ∧
          part d' key "id" = some (.text (IdSupply.idOf k))) := by
  have start := onDisk_of_read read there
  have filled : ¬Missing r.workspace.files r.path := fun missing =>
    missing _ (read_eq_ok_iff.mp there)
  obtain ⟨n, p, stopped⟩ := r.exists_overAfter fun d' h => start.eq_of_read h
  have frames : Frames r.paths d p.document :=
    stopped.reached.frames start.complete distinct fun _ => stopped.paths ▸ List.Subset.refl _
  obtain ⟨new, hnew⟩ := frames.files old files
  have left := stopped.left tree proper distinct start (Or.inr filled)
  refine ⟨p.document, new, left, hnew, frames, ?_⟩
  intro committed key hkey
  have late : 3 < n := by
    have early : ∀ m < 4, commitFiles.name ∉ stageNames.take m := by decide
    rw [stopped.completed] at committed
    by_contra h
    exact early n (by omega) committed
  rw [stopped.paths] at hkey ⊢
  obtain ⟨k, least, most, _, parts⟩ :=
    stopped.reached.committed_parts start.complete distinct late hkey
  exact ⟨k, least, most, parts "id" List.mem_cons_self⟩

section Examples

/-- A run for one file over a document with an entry for another one. -/
def overStale : DefaultRun :=
  plain [([".syndox"], .directory),
    ([".syndox", "db.json"], textFile
      "\x7b\"files\": \x7b\"a\": \x7b\"fullPath\": \"/a\", \"index\": \"a\", \"id\": \"0\"\x7d\x7d, \"k\": 1\x7d"),
    (["b"], textFile "")] ["b"]

theorem run_keeps_entries_stale :
    let r := overStale
    (r.workspace.files.IsTree ∧ r.path.Proper ∧
      Value.Table.Distinct r.configuration.values) ∧
    ∃ bytes d old, r.workspace.files.read r.path.toText = .ok bytes ∧
      Document.read r.workspace.files r.path = .ok d ∧
      Entries.get? d Document.filesName = some (.table old) ∧
      ∃ d' new, r.left = .ok d' ∧ Entries.get? d' Document.filesName = some (.table new) ∧
        Frames r.paths d d' ∧
        (commitFiles.name ∈ r.outcome.completed → ∀ key ∈ r.paths,
          ∃ k, r.workspace.ids.next ≤ k ∧ k < r.workspace.ids.next + r.paths.length ∧
            part d' key "id" = some (.text (IdSupply.idOf k))) := by
  intro r
  have tree : r.workspace.files.IsTree := isTree_of_nodes (by decide +kernel)
  have path : r.path = Path.ofText "/.syndox/db.json" := by decide +kernel
  have proper : r.path.Proper := path ▸ Path.ofText_proper _
  have distinct := Configuration.distinct_defaults
  have there : (r.workspace.files.read r.path.toText).toOption.isSome = true := by decide +kernel
  have stored : (((Document.read r.workspace.files r.path).toOption.bind
      (Entries.get? · Document.filesName)).bind Value.asTable?).isSome = true := by decide +kernel
  obtain ⟨bytes, there⟩ := Option.isSome_iff_exists.mp there
  have there := eq_ok_of_toOption there
  obtain ⟨old, stored⟩ := Option.isSome_iff_exists.mp stored
  obtain ⟨v, stored, table⟩ := Option.bind_eq_some_iff.mp stored
  obtain ⟨d, read, files⟩ := Option.bind_eq_some_iff.mp stored
  have read := eq_ok_of_toOption read
  obtain rfl : v = .table old := by
    cases v <;> cases table
    rfl
  exact ⟨⟨tree, proper, distinct⟩, bytes, d, old, there, read, files,
    run_keeps_entries tree proper distinct there read files⟩

end Examples

end DefaultRun

end SourceLedger
