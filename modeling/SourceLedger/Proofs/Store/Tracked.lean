import SourceLedger.Proofs.Item
import SourceLedger.Proofs.Store.Levels

/-!
# What a document tracks

A document tracks the items of its second namespace. Once it is loaded, looking at it changes
nothing. Merging items of the same keys replaces all of them, and merging others keeps the rest.
-/

namespace SourceLedger

namespace Store

variable {w w' : Workspace} {d : Document} {items : Items}

theorem load_cached (cached : w.store.cached = some d) : load w = (.ok d, w) := by
  obtain ⟨files, faults, schedule, ⟨path, cached'⟩, ids, log⟩ := w
  obtain rfl : cached' = some d := cached
  rfl

theorem holding_of_cached (cached : w.store.cached = some d) : holding w d = w :=
  (Prod.mk.inj ((load_of_cached cached).symm.trans (load_cached cached))).2

/-- A new store loads the document at its path. -/
theorem load_new {path : Path} (read : Document.read w.files path = .ok d) :
    load { w with store := Store.new path } =
      (.ok d, holding { w with store := Store.new path } d) := by
  rw [load_of_none rfl, show Document.read _ (Store.new path).path = _ from read]

/-- Reading completes a document, so that one that is loaded is complete if the one in memory is. -/
theorem complete_of_load (complete : ∀ d, w.store.cached = some d → d.Complete)
    (loaded : load w = (.ok d, w')) : d.Complete := by
  cases cached : w.store.cached with
  | some d' =>
      rw [load_cached cached] at loaded
      cases loaded
      exact complete d cached
  | none =>
      rw [load_of_none cached] at loaded
      split at loaded
      · next read =>
        cases loaded
        exact Document.complete_of_read read
      · cases loaded

/-- A namespace of a document; an absent one is empty. -/
def namespaceOf (d : Document) (name : Text) : Value := (Entries.get? d name).getD (.table [])

theorem getNamespace_of_load (loaded : load w = (.ok d, w')) (name : Text) :
    getNamespace name w = (.ok (namespaceOf d name), w') :=
  (Job.bind_of_ok loaded).trans rfl

theorem items_of_load (loaded : load w = (.ok d, w')) :
    Store.items w =
      ((Items.ofValue (namespaceOf d Document.filesName)).mapError .unexpected, w') := by
  refine (Job.bind_of_ok (getNamespace_of_load loaded _)).trans ?_
  cases Items.ofValue (namespaceOf d Document.filesName) <;> rfl

/-- Work that starts from the items does not depend on whether the document is in memory. -/
theorem items_bind_of_load {α : Type} {f : Items → Job α} (loaded : load w = (.ok d, holding w d)) :
    (Store.items >>= f) w = (Store.items >>= f) (holding w d) := by
  rw [Job.bind_apply, Job.bind_apply, items_of_load loaded, items_of_load (load_cached rfl)]

/-- A document tracks these items. -/
def Tracks (d : Document) (items : Items) : Prop :=
  Items.ofValue (namespaceOf d Document.filesName) = .ok items

theorem items_of_load_ok (loaded : (load w).1 = .ok d) (tracks : Tracks d items) :
    (Store.items w).1 = .ok items := by
  have loaded : load w = (.ok d, (load w).2) := Prod.ext loaded rfl
  rw [items_of_load loaded, show Items.ofValue _ = _ from tracks]
  rfl

/-- The full paths of the items that a document tracks. -/
theorem fullPaths_of_load (loaded : load w = (.ok d, w')) (tracks : Tracks d items) :
    fullPaths w = (.ok (items.map (·.2.fullPath)), w') := by
  refine (Job.bind_of_ok (getNamespace_of_load loaded Document.filesName)).trans ?_
  unfold Tracks at tracks
  generalize namespaceOf d Document.filesName = files at tracks
  cases files with
  | table es =>
      change Items.ofTable es = .ok items at tracks
      induction es generalizing items with
      | nil =>
          cases tracks
          rfl
      | cons e es ih =>
          obtain ⟨item, hitem, tracks⟩ := bind_eq_ok tracks
          obtain ⟨later, hlater, tracks⟩ := bind_eq_ok tracks
          cases tracks
          obtain ⟨entries, heq, _, fullPath, _⟩ := Item.ofValue_eq_ok hitem
          have rest := ih hlater
          simp only at rest
          simp only [List.mapM_cons, heq, fullPath]
          exact (Job.bind_of_ok (show (pure item.fullPath : Job Value) w' = _ from rfl)).trans
            ((Job.bind_of_ok rest).trans rfl)
  | _ => cases tracks

/-- A document with items merged in. -/
def withItems (d : Document) (items : Items) : Document :=
  merged d Document.filesName items.toTable

/-- The table of a namespace, empty where there is none. -/
def tableIn (d : Document) (name : Text) : Value.Table :=
  ((Entries.get? d name).bind Value.asTable?).getD []

theorem asTable?_namespaceOf (d : Document) (name : Text) :
    (namespaceOf d name).asTable?.getD [] = tableIn d name := by
  rw [namespaceOf, tableIn]
  cases Entries.get? d name <;> rfl

theorem namespaceOf_merged (d : Document) (name : Text) (entries : Value.Table) :
    namespaceOf (merged d name entries) name = .table ((tableIn d name).update entries) := by
  rw [namespaceOf, merged, Entries.get?_put, if_pos rfl]
  rfl

theorem namespaceOf_merged_of_ne {name other : Text} (h : name ≠ other) (d : Document)
    (entries : Value.Table) : namespaceOf (merged d name entries) other = namespaceOf d other := by
  rw [namespaceOf, merged, Entries.get?_put, if_neg h]
  rfl

theorem tableIn_merged_of_ne {name other : Text} (h : name ≠ other) (d : Document)
    (entries : Value.Table) : tableIn (merged d name entries) other = tableIn d other := by
  rw [tableIn, merged, Entries.get?_put, if_neg h]
  rfl

theorem distinct_tableIn (distinct : Value.Table.Distinct d) (name : Text) :
    Value.Table.Distinct (tableIn d name) := by
  unfold tableIn
  cases hv : Entries.get? d name with
  | none => exact Value.Table.distinct_nil
  | some v =>
      have hv := distinct.get? hv
      cases v with
      | table es => exact hv
      | _ => exact Value.Table.distinct_nil

theorem Tracks.ofTable (tracks : Tracks d items) :
    Items.ofTable (tableIn d Document.filesName) = .ok items := by
  unfold Tracks namespaceOf at tracks
  unfold tableIn
  cases hv : Entries.get? d Document.filesName with
  | none =>
      rw [hv] at tracks
      exact tracks
  | some v =>
      rw [hv] at tracks
      cases v with
      | table es => exact tracks
      | _ => cases tracks

theorem Tracks.keys (tracks : Tracks d items) :
    Entries.keys items = Entries.keys (tableIn d Document.filesName) :=
  Items.keys_of_ofTable tracks.ofTable

theorem Tracks.length (tracks : Tracks d items) :
    items.length = (tableIn d Document.filesName).length := by
  simpa [Entries.keys] using congrArg List.length tracks.keys

theorem Tracks.nodup (tracks : Tracks d items) (distinct : Value.Table.Distinct d) :
    (Entries.keys items).Nodup := by
  rw [tracks.keys]
  exact (distinct_tableIn distinct _).nodup

theorem Tracks.plain (tracks : Tracks d items) : ∀ e ∈ items, e.2.Plain := by
  intro e he
  obtain ⟨v, _, hv⟩ := Items.exists_of_ofTable tracks.ofTable he
  exact Item.plain_of_ofValue hv

theorem Tracks.distinct (tracks : Tracks d items) (distinct : Value.Table.Distinct d) :
    ∀ e ∈ items, e.2.Distinct := by
  intro e he
  obtain ⟨v, hv, hitem⟩ := Items.exists_of_ofTable tracks.ofTable he
  exact Item.distinct_of_ofValue ((distinct_tableIn distinct _).value hv) hitem

/-- An item is tracked whose stored form is in the document. -/
theorem Tracks.get?_of_stored (tracks : Tracks d items) {key : Text} {item : Item}
    (plain : item.Plain)
    (stored : Entries.get? (tableIn d Document.filesName) key = some item.toValue) :
    Entries.get? items key = some item := by
  have member := Entries.mem_keys_iff.mpr ⟨_, stored⟩
  rw [← tracks.keys] at member
  obtain ⟨item', found⟩ := Entries.mem_keys_iff.mp member
  obtain ⟨v, hv, made⟩ := Items.get?_of_ofTable tracks.ofTable found
  cases hv.symm.trans stored
  cases (Item.ofValue_toValue plain).symm.trans made
  exact found

/-- Items of the same keys take the place of all that were tracked. -/
theorem Tracks.get?_withItems (tracks : Tracks d items) (distinct : Value.Table.Distinct d)
    (f : Item → Item) :
    Entries.get? (withItems d (items.mapValues f)) Document.filesName =
      some (.table (Items.toTable (items.mapValues f))) := by
  rw [Store.withItems, merged, Entries.get?_put, if_pos rfl]
  congr 2
  refine Entries.update_of_keys_eq ?_ ?_
  · rw [Items.keys_toTable, Entries.keys_mapValues]
    exact tracks.nodup distinct
  · rw [Items.keys_toTable, Entries.keys_mapValues, tracks.keys]
    rfl

/-- Merging the items that a document has changes nothing. -/
theorem withItems_of_get? (h : Entries.get? d Document.filesName = some (.table items.toTable))
    (nodup : (Entries.keys items).Nodup) : withItems d items = d := by
  have table : tableIn d Document.filesName = items.toTable := by
    rw [tableIn, h]
    rfl
  have nodup : (Entries.keys items.toTable).Nodup := by rwa [Items.keys_toTable]
  have same : (tableIn d Document.filesName).update items.toTable = items.toTable :=
    Entries.update_of_keys_eq nodup (by rw [table])
  rw [withItems, merged]
  exact Entries.put_of_get? (h.trans (congrArg (fun es => some (Value.table es)) same.symm))

theorem tracks_of_get? (h : Entries.get? d Document.filesName = some (.table items.toTable))
    (plain : ∀ e ∈ items, e.2.Plain) : Tracks d items := by
  rw [Tracks, namespaceOf, h]
  exact Items.ofTable_toTable plain

/-- A summary of stored items counts those with content and those with a tree. -/
theorem Summary.ofValue_toTable (plain : ∀ e ∈ items, e.2.Plain) :
    Summary.ofValue (.table items.toTable) =
      .ok ⟨items.length, items.countP (·.2.hasContent), items.countP (·.2.hasTree)⟩ := by
  have tables : items.toTable.map (·.2.asTable?.getD []) = items.map (·.2.entries) := by
    rw [Items.toTable, Entries.mapValues, List.map_map]
    rfl
  have stored : ∀ e ∈ items.toTable, tableOf e.2 = .ok (e.2.asTable?.getD []) :=
    Entries.forall_mem_mapValues.mpr fun _ _ => rfl
  rw [Summary.ofValue]
  simp only [pure_bind]
  rw [mapM_eq_ok_map stored, tables]
  refine congrArg Except.ok (Summary.mk.injEq .. ▸ ⟨List.length_map _, ?_, ?_⟩)
  · rw [List.countP_map]
    refine List.countP_congr fun e he => ?_
    rw [Function.comp_apply, Item.get?_content, Item.hasContent]
    cases hc : e.2.content with
    | none => rfl
    | some v =>
        cases v with
        | null => exact absurd hc (plain e he).content
        | _ => rfl
  · rw [List.countP_map]
    simp only [Function.comp_def, Item.get?_tree, Item.hasTree]

theorem summary_of_load (loaded : load w = (.ok d, w'))
    (files : Entries.get? d Document.filesName = some (.table items.toTable))
    (plain : ∀ e ∈ items, e.2.Plain) :
    summary w =
      (.ok ⟨items.length, items.countP (·.2.hasContent), items.countP (·.2.hasTree)⟩, w') := by
  refine (Job.bind_of_ok (getNamespace_of_load loaded _)).trans ?_
  rw [namespaceOf, files, Option.getD_some, Summary.ofValue_toTable plain]
  rfl

/-- Items that were merged in are tracked over those that were tracked before. -/
theorem Tracks.update (tracks : Tracks d items) {new : Items} (plain : ∀ e ∈ new, e.2.Plain) :
    Tracks (Store.withItems d new) (items.update new) := by
  rw [Tracks, Store.withItems, namespaceOf_merged]
  exact Items.ofTable_update tracks.ofTable plain

/-- Items that were changed one by one are tracked instead. -/
theorem Tracks.mapValues (tracks : Tracks d items) (distinct : Value.Table.Distinct d)
    {f : Item → Item} (plain : ∀ e ∈ items, (f e.2).Plain) :
    Tracks (Store.withItems d (items.mapValues f)) (items.mapValues f) := by
  refine tracks_of_get? (tracks.get?_withItems distinct f) ?_
  rwa [Entries.forall_mem_mapValues]

theorem Tracks.unique {items' : Items} (tracks : Tracks d items) (tracks' : Tracks d items') :
    items' = items :=
  Except.ok.inj (tracks'.symm.trans tracks)

theorem withItems_complete (complete : d.Complete) (nodup : (Entries.keys items).Nodup)
    (distinct : ∀ e ∈ items, e.2.Distinct) : (withItems d items).Complete :=
  merged_complete complete _ (Items.distinct_toTable nodup distinct) rfl

/-- A new document with some items is complete. -/
theorem withItems_new_complete (nodup : (Entries.keys items).Nodup)
    (distinct : ∀ e ∈ items, e.2.Distinct) :
    (withItems (Document.withDefaults []) items).Complete :=
  withItems_complete (Document.withDefaults_complete Value.Table.distinct_nil) nodup distinct

/-- A document with the items that it tracks, but with some parts of them changed, is complete. -/
theorem Tracks.complete_mapValues (tracks : Tracks d items) (complete : d.Complete)
    {f : Item → Item} (distinct : ∀ e ∈ items, e.2.Distinct → (f e.2).Distinct) :
    (Store.withItems d (items.mapValues f)).Complete := by
  refine withItems_complete complete ?_ (Entries.forall_mem_mapValues.mpr fun e he => ?_)
  · rw [Entries.keys_mapValues]
    exact tracks.nodup complete.distinct
  · exact distinct e he (tracks.distinct complete.distinct e he)

end Store

end SourceLedger
