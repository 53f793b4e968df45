import SourceLedger.Proofs.Store.Merged

/-!
# The view of the items

The items of a document are seen as a map from keys to items. Merging items into it overrides them
key by key: what is there keeps its place, and what is new comes behind it. The store that merged
them shows this map, and so does a new store that reads the document: an item comes back with all
its parts, and what is unset stays unset. Only where the path of the document came past its own end,
there is nothing for a new store to read.
-/

namespace SourceLedger

open FileSystem

namespace Items

/-- Items as a program makes them: no key occurs twice, neither among them nor inside them, and what
is unset is not `null`. -/
structure Sound (items : Items) : Prop where
  nodup : (Entries.keys items).Nodup
  plain : ∀ e ∈ items, e.2.Plain
  distinct : ∀ e ∈ items, e.2.Distinct

/-- Items with others over them: under each key there is the new item, or the old one where there is
no new one, and keys that are new come behind the old ones. -/
structure Overridden (old new items : Items) : Prop where
  get? : ∀ key, Entries.get? items key = (Entries.get? new key).or (Entries.get? old key)
  keys : Entries.keys items =
    Entries.keys old ++ (Entries.keys new).filter (· ∉ Entries.keys old)

theorem overridden_update {old new : Items} (nodup : (Entries.keys new).Nodup) :
    Overridden old new (old.update new) :=
  ⟨Entries.get?_update nodup, Entries.keys_update nodup⟩

end Items

namespace Store

variable {w w' : Workspace} {d : Document} {items new : Items}

/-- A store answers with these items, and with their full paths in the same order. -/
structure Shows (w : Workspace) (items : Items) : Prop where
  answered : (Store.items w).1 = .ok items
  listed : (fullPaths w).1 = .ok (items.map (·.2.fullPath))

theorem shows_of_load (loaded : (load w).1 = .ok d) (tracks : Tracks d items) : Shows w items := by
  refine ⟨items_of_load_ok loaded tracks, ?_⟩
  have loaded : load w = (.ok d, (load w).2) := Prod.ext loaded rfl
  rw [fullPaths_of_load loaded tracks]

/-- The items that a store answers with are those that its document tracks. -/
theorem exists_tracks_of_items (answered : (Store.items w).1 = .ok items) :
    ∃ d, load w = (.ok d, holding w d) ∧ Tracks d items := by
  rcases load_cases w with ⟨failure, failed⟩ | ⟨d, loaded⟩
  · have failed : Store.items w = (.error failure, w) :=
      Job.bind_of_error (Job.bind_of_error failed)
    rw [failed] at answered
    cases answered
  · rw [items_of_load loaded] at answered
    exact ⟨d, loaded, mapError_eq_ok answered⟩

/-- Where there is nothing at the path of the document, a new store has no items. -/
theorem items_of_lost {path : Path} (lost : Writing.Lost w.files path)
    (answered : (Store.items { w with store := Store.new path }).1 = .ok items) : items = [] := by
  obtain ⟨d, loaded, tracks⟩ := exists_tracks_of_items answered
  have vacant : Vacant w.files path := lost w.files (Keeps.refl _)
  rw [load_of_none rfl] at loaded
  split at loaded
  · next d' read =>
    cases loaded
    obtain rfl := Document.eq_of_read_missing vacant.missing read
    have none : Tracks (Document.withDefaults []) [] := rfl
    exact none.unique tracks
  · cases loaded

/-- The law of merged items. If merging succeeds, the store shows the items that it had with the new
ones over them, and so does a new store at the same path; unless that path came past its own end. It
does not do so where it leads to a file, nor where there is nothing and no directory is missing
before a `..`. -/
theorem merged_items_shown (tree : w.files.IsTree) (proper : w.store.path.Proper)
    (complete : ∀ d, w.store.cached = some d → d.Complete)
    (before : (Store.items w).1 = .ok items) (sound : new.Sound)
    (done : mergeItems new w = (.ok (), w')) :
    let fresh := { w' with store := Store.new w.store.path }
    Items.Overridden items new (items.update new) ∧ Shows w' (items.update new) ∧
      (Shows fresh (items.update new) ∨ Writing.Lost w'.files w.store.path ∧
        ∀ found, (Store.items fresh).1 = .ok found → found = []) ∧
      (Settled w.files w.store.path → Writing.Straight w.files w.store.path →
        Shows fresh (items.update new)) := by
  intro fresh
  obtain ⟨d, loaded, tracks⟩ := exists_tracks_of_items before
  have complete : d.Complete := complete_of_load complete loaded
  obtain ⟨written, rfl⟩ := merge_eq_ok loaded done
  have tracks' : Tracks (withItems d new) (items.update new) := tracks.update sound.plain
  have complete' : (withItems d new).Complete :=
    withItems_complete complete sound.nodup sound.distinct
  have read := load_of_written tree (ending_of_proper proper) complete' written
  refine ⟨Items.overridden_update sound.nodup, ?_, ?_, ?_⟩
  · exact shows_of_load (congrArg Prod.fst (load_cached rfl)) tracks'
  · rcases read.or_lost with read | lost
    · exact Or.inl (shows_of_load read tracks')
    · exact Or.inr ⟨lost, fun found answered => items_of_lost lost answered⟩
  · intro settled straight
    exact shows_of_load (read.direct ⟨proper, settled, straight⟩) tracks'

section Examples

/-- A new item of a path, with neither content nor tree. -/
private def bare (path : Text) : Item :=
  { Item.create "0" "/" path with content := none, tree := none }

private theorem bare_plain (path : Text) : (bare path).Plain := ⟨nofun, nofun⟩

private theorem bare_distinct (path : Text) : (bare path).Distinct where
  id := Value.distinct_text _
  fullPath := Value.distinct_text _
  index := Value.distinct_text _
  content := nofun
  tree := nofun

private def earlier : Items := [("a.py", bare "a.py"), ("b.py", Item.create "1" "/" "b.py")]

private def later : Items := [("c.py", bare "c.py"), ("a.py", Item.create "2" "/" "a.py")]

private theorem sound_later : later.Sound where
  nodup := by decide
  plain := by
    rw [later, List.forall_mem_cons, List.forall_mem_singleton]
    exact ⟨bare_plain _, Item.create_plain ..⟩
  distinct := by
    rw [later, List.forall_mem_cons, List.forall_mem_singleton]
    exact ⟨bare_distinct _, Item.create_distinct ..⟩

/-- A store that has the earlier items in memory. -/
private def withEarlier : Workspace :=
  holding (opened [] "db.json") (withItems (Document.withDefaults []) earlier)

/-- An item that is unset becomes an empty one in its place, and one that is unset comes behind. -/
theorem merged_items_shown_overlapping :
    let w := withEarlier
    let all := earlier.update later
    all = [(("a.py" : Text), Item.create "2" "/" "a.py"), ("b.py", Item.create "1" "/" "b.py"),
      ("c.py", bare "c.py")] ∧
    ∃ w', (w.files.IsTree ∧ w.store.path.Proper ∧ (∀ d, w.store.cached = some d → d.Complete) ∧
        (Store.items w).1 = .ok earlier ∧ later.Sound ∧ mergeItems later w = (.ok (), w') ∧
        Settled w.files w.store.path ∧ Writing.Straight w.files w.store.path) ∧
      Items.Overridden earlier later all ∧ Shows w' all ∧
      Shows { w' with store := Store.new w.store.path } all := by
  intro w all
  have proper : w.store.path.Proper := Path.ofText_proper _
  have complete : ∀ d, w.store.cached = some d → d.Complete := by
    rintro _ ⟨⟩
    refine withItems_new_complete (by decide) ?_
    rw [earlier, List.forall_mem_cons, List.forall_mem_singleton]
    exact ⟨bare_distinct _, Item.create_distinct ..⟩
  have before : (Store.items w).1 = .ok earlier := rfl
  have answer : (mergeItems later w).1.toOption = some () := by decide +kernel
  have done : mergeItems later w = (.ok (), (mergeItems later w).2) :=
    Prod.ext (eq_ok_of_toOption answer) rfl
  have settled : Settled w.files w.store.path := settled_of_notMem (by decide +kernel)
  have straight : Writing.Straight w.files w.store.path := by
    refine Writing.straight_of_vacant isTree_empty proper fun node found => ?_
    have nothing : w.files.find false w.store.path.toText = .error (.system .notFound) := rfl
    cases nothing.symm.trans found
  obtain ⟨overridden, shows, _, straightly⟩ :=
    merged_items_shown isTree_empty proper complete before sound_later done
  exact ⟨rfl, _, ⟨isTree_empty, proper, complete, before, sound_later, done, settled, straight⟩,
    overridden, shows, straightly settled straight⟩

/-- Items that were merged through a link of the name at the end of the path are shown by the store
that merged them, but no longer by a new one: the document has taken the place of the link. -/
theorem merged_items_past_their_end :
    let w := opened [(["sub"], .directory), (["db.json"], .link "sub")] "db.json/x/../../db.json"
    let w' := (mergeItems later w).2
    let keysShown (w : Workspace) := (Store.items w).1.toOption.map Entries.keys
    keysShown w = some [] ∧ (mergeItems later w).1.toOption = some () ∧
      keysShown w' = some [("c.py" : Text), "a.py"] ∧
      keysShown { w' with store := Store.new w.store.path } = some [] := by
  decide +kernel

end Examples

end Store

end SourceLedger
