import SourceLedger.Proofs.Loading.Bytes
import SourceLedger.Proofs.Loading.Trees

/-!
# Refreshing again

A document that has just been refreshed is written again as it is. The first time changes nothing
on disk but the document itself and the directories above it, so that every item is given the
content, and then the tree, that it has already. The one thing that can come between is an item for
the document itself: each time its content is the document of the time before.
-/

namespace SourceLedger

open FileSystem

namespace Store

variable {w w' : Workspace} {d : Document} {items : Items} {path : Path}

/-- A document has exactly these items. -/
structure Has (d : Document) (items : Items) : Prop where
  complete : d.Complete
  stored : Entries.get? d Document.filesName = some (.table items.toTable)
  plain : ∀ e ∈ items, e.2.Plain

theorem Has.tracks (has : Has d items) : Tracks d items := tracks_of_get? has.stored has.plain

theorem Has.withItems_eq (has : Has d items) : withItems d items = d :=
  withItems_of_get? has.stored (has.tracks.nodup has.complete.distinct)

/-- Items that are changed one by one are those that the document has then. -/
theorem Tracks.has_mapValues (tracks : Tracks d items) (complete : d.Complete) {f : Item → Item}
    (plain : ∀ item, item.Plain → (f item).Plain)
    (distinct : ∀ item, item.Distinct → (f item).Distinct) :
    Has (withItems d (items.mapValues f)) (items.mapValues f) where
  complete := tracks.complete_mapValues complete fun e _ => distinct e.2
  stored := tracks.get?_withItems complete.distinct f
  plain := Entries.forall_mem_mapValues.mpr fun e he => plain e.2 (tracks.plain e he)

/-- The document was stored at its path with these items, and is in memory with them. -/
structure Refreshed (w : Workspace) (path : Path) (d : Document) (items : Items) (w' : Workspace) :
    Prop where
  loaded : load w' = (.ok (withItems d items), holding w' (withItems d items))
  here : w'.store.path = path
  landed : Writing.Landed w.files path (Json.write (.table (withItems d items))) w'.files
  tree : w'.files.IsTree

theorem refreshed_of_mergeItems {α : Type} {a b : α} {log : List Message} (tree : w.files.IsTree)
    (ending : Ending path) (here : w.store.path = path)
    (done : (do mergeItems items; return a : Job α) { holding w d with log } = (.ok b, w')) :
    Refreshed w path d items w' := by
  subst here
  obtain ⟨_, result, rfl⟩ := mergeItems_eq_ok done
  refine ⟨load_of_cached rfl, rfl, ?_, Script.isTree_final _ _ tree⟩
  rcases landed_or_keeps (w := { w with log }) (withItems d items) tree ending with
    ⟨_, landed⟩ | ⟨⟨_, failed⟩, _⟩
  · exact landed
  · cases result.symm.trans failed

/-- A document is in memory, and its text is on disk. -/
structure AtRest (w : Workspace) (path : Path) (d : Document) (bytes : Bytes) : Prop where
  loaded : load w = (.ok d, holding w d)
  text : Json.text? (.table d) = some bytes
  read : w.files.read path.toText = .ok bytes

theorem Refreshed.atRest {place : Location} {fs : FileSystem}
    (refreshed : Refreshed w path d items w')
    (placed :
      Writing.Placed fs path place (Json.write (.table (withItems d items))).bytes w'.files) :
    AtRest w' path (withItems d items) (Json.write (.table (withItems d items))).bytes := by
  obtain ⟨_, _, fault, _⟩ := refreshed.landed
  refine ⟨refreshed.loaded, ?_, placed.read⟩
  rw [Json.text?, fault]

end Store

namespace Loading

open Store (AtRest Has Refreshed Tracks withItems)
open Writing (Placed)

variable {fs fs' : FileSystem} {v : Value} {path : Text} {place : Location} {bytes : Bytes}
  {document : Path}
  {w w' w₁ w₂ : Workspace} {d : Document} {items : Items} {n : Nat}
  {options : ParseOptions} {options? : Option ParseOptions}

section Texts

theorem find_of_readContent {r : Option (Text × Text)}
    (read : readContent fs (.text path) = .ok r) : ∃ node, fs.find true path = .ok node := by
  obtain ⟨_, isPlace, _⟩ := bind_eq_ok read
  change ofPath (answersOf fs) path = _ at isPlace
  cases found : fs.find true path with
  | ok node => exact ⟨node, rfl⟩
  | error refusal =>
      have found : (answersOf fs).node path = .error refusal := found
      rw [ofPath, found] at isPlace
      cases refusal <;> cases isPlace

/-- The text at a full path is the one that was there before, unless the path leads to the file that
was put somewhere. -/
theorem textAt_eq {r r' : Option (Text × Text)} (has : HasFile fs fs' place bytes)
    (apart : ∀ path, v = .text path → fs'.walk true path ≠ .ok place)
    (read : readContent fs v = .ok r) (read' : readContent fs' v = .ok r') :
    textAt fs' v = textAt fs v := by
  have same : ∀ path node node', v = .text path → fs.find true path = .ok node →
      fs'.find true path = .ok node' → node' = node :=
    fun path _ _ isPath found found' => has.find_eq (apart path isPath) found found'
  rw [textAt_of_ok read, textAt_of_ok read']
  cases r with
  | none =>
      cases r' with
      | none => rfl
      | some =>
          obtain ⟨path, _, _, rfl, found', _⟩ := readContent_some read'
          obtain ⟨node, found⟩ := find_of_readContent read
          cases same path _ _ rfl found found'
          cases readContent_none read rfl found
  | some =>
      obtain ⟨path, _, _, rfl, found, decoded, rfl⟩ := readContent_some read
      cases r' with
      | none =>
          obtain ⟨node, found'⟩ := find_of_readContent read'
          cases same path _ _ rfl found found'
          cases readContent_none read' rfl found'
      | some =>
          obtain ⟨_, _, _, isPath, found', decoded', rfl⟩ := readContent_some read'
          cases isPath
          cases same path _ _ rfl found found'
          cases decoded.symm.trans decoded'
          rfl

end Texts

/-- All items can be read: each full path leads to a regular file with a text, or to something
else. -/
def Readable (fs : FileSystem) (items : Items) : Prop :=
  ∀ e ∈ items, ∃ r, readContent fs e.2.fullPath = .ok r

/-- A full path leads to the document itself, if need be through links. -/
def LeadsToDocument (fs : FileSystem) (document : Path) (fullPath : Value) : Prop :=
  ∃ path place, fullPath = .text path ∧ fs.walk true path = .ok place ∧
    fs.walk true document.toText = .ok place

/-- Items that have the texts at their full paths are given the same again. -/
theorem mapValues_reread_eq (placed : Placed fs document place bytes fs')
    (current : Current fs items) (read : Readable fs items) (read' : Readable fs' items)
    (apart : ∀ e ∈ items, ¬LeadsToDocument fs' document e.2.fullPath) :
    items.mapValues (reread fs') = items := by
  refine (List.map_congr_left fun e he => ?_).trans (List.map_id items)
  obtain ⟨r, read⟩ := read e he
  obtain ⟨r', read'⟩ := read' e he
  have elsewhere : ∀ path, e.2.fullPath = .text path → fs'.walk true path ≠ .ok place :=
    fun path isPath walk => apart e he ⟨path, place, isPath, walk, placed.walk true⟩
  have content : (textAt fs' e.2.fullPath).map .text = e.2.content := by
    rw [textAt_eq placed.hasFile elsewhere read read', current e he]
  refine Prod.ext rfl ?_
  change { e.2 with content := (textAt fs' e.2.fullPath).map Value.text } = e.2
  rw [content]

theorem mapValues_reparse_eq (items : Items) :
    (items.mapValues (reparse options)).mapValues (reparse options) =
      items.mapValues (reparse options) := by
  simp only [Entries.mapValues, List.map_map]
  rfl

theorem Current.mapValues_reparse (current : Current fs items) (options : ParseOptions) :
    Current fs (items.mapValues (reparse options)) :=
  Entries.forall_mem_mapValues.mpr current

theorem Readable.mapValues {f : Item → Item} (fullPath : ∀ item, (f item).fullPath = item.fullPath)
    (read : Readable fs items) : Readable fs (items.mapValues f) :=
  Entries.forall_mem_mapValues.mpr fun e he => by
    simp only [fullPath]
    exact read e he

theorem has_reread (fs : FileSystem) (tracks : Tracks d items) (complete : d.Complete) :
    Has (withItems d (items.mapValues (reread fs))) (items.mapValues (reread fs)) :=
  tracks.has_mapValues complete (fun _ => reread_plain) fun _ => reread_distinct

theorem has_reparse (options : ParseOptions) (tracks : Tracks d items) (complete : d.Complete) :
    Has (withItems d (items.mapValues (reparse options))) (items.mapValues (reparse options)) :=
  tracks.has_mapValues complete (fun _ => reparse_plain) fun _ => reparse_distinct

section Rounds

/-- Items have no part in the options. -/
theorem optionsFor_withItems (options? : Option ParseOptions) (d : Document) (items : Items) :
    optionsFor options? (withItems d items) = optionsFor options? d := by
  cases options? with
  | some options => rfl
  | none =>
      rw [optionsFor, optionsFor, optionsOf, withItems, Store.namespaceOf_merged_of_ne (by decide)]
      rfl

variable (tree : w.files.IsTree) (ending : Ending document) (here : w.store.path = document)
  (loaded : Store.load w = (.ok d, Store.holding w d)) (tracks : Tracks d items)
include tree ending here loaded tracks

/-- Contents that were loaded are stored. -/
theorem refreshed_of_loadContents (done : loadContents w = (.ok n, w')) :
    Readable w.files items ∧ Refreshed w document d (items.mapValues (reread w.files)) w' := by
  rcases loadContents_of_load loaded with ⟨_, _, failed, -⟩ | ⟨items', log, tracks', read, run⟩
  · cases failed.symm.trans done
  · obtain rfl := tracks'.unique tracks
    exact ⟨read, Store.refreshed_of_mergeItems tree ending here (run.symm.trans done)⟩

/-- Trees that were loaded are stored. -/
theorem refreshed_of_loadTrees (current : Current fs items)
    (done : loadTrees options? w = (.ok n, w')) :
    ∃ options, optionsFor options? d = .ok options ∧
      Refreshed w document d (items.mapValues (reparse options)) w' := by
  rcases loadTrees_of_load options? loaded with ⟨_, _, failed⟩ | ⟨options, accepted, run⟩
  · cases failed.symm.trans done
  rcases loadTreesWith_of_load (w := Store.holding w d) (Parsing.attempt options) rfl with
    ⟨_, _, failed, -⟩ | ⟨items', made, log, tracks', isMade, -, loads⟩
  · cases (run.trans failed).symm.trans done
  · obtain rfl := tracks'.unique tracks
    refine ⟨options, accepted, ?_⟩
    rw [← (withTree_eq_reparse current isMade).1]
    exact Store.refreshed_of_mergeItems tree ending here ((run.trans loads).symm.trans done)

end Rounds

section Twice

variable {n' : Nat} (tree : w.files.IsTree) (ending : Ending document)
  (here : w.store.path = document) (loaded : Store.load w = (.ok d, Store.holding w d))
  (complete : d.Complete) (tracks : Tracks d items)
  (apart : ∀ e ∈ items, ¬LeadsToDocument w₁.files document e.2.fullPath)
include tree ending here loaded complete tracks apart

theorem contents_twice (first : loadContents w = (.ok n, w₁))
    (again : loadContents w₁ = (.ok n', w₂)) :
    ∃ d' items' bytes, Tracks d' items' ∧ Current w₁.files items' ∧
      AtRest w₁ document d' bytes ∧ AtRest w₂ document d' bytes := by
  obtain ⟨read, refreshed⟩ := refreshed_of_loadContents tree ending here loaded tracks first
  have has := has_reread w.files tracks complete
  obtain ⟨read', refreshed'⟩ := refreshed_of_loadContents refreshed.tree ending refreshed.here
    refreshed.loaded has.tracks again
  obtain ⟨place, placed, placed'⟩ := refreshed.landed.placed refreshed'.landed
  have same := mapValues_reread_eq placed (current_reread _ items) (read.mapValues fun _ => rfl)
    read' (Entries.forall_mem_mapValues.mpr apart)
  have current := current_reread w₁.files (items.mapValues (reread w.files))
  have atRest := refreshed'.atRest placed'
  rw [same] at current
  rw [same, has.withItems_eq] at atRest
  exact ⟨_, _, _, has.tracks, current, refreshed.atRest placed, atRest⟩

/-- The trees of the second time are those of the first, since the contents are. -/
theorem contents_and_trees_twice {wₐ wᵦ : Workspace} {m m' : Nat}
    (first : loadContents w = (.ok n, wₐ)) (trees : loadTrees options? wₐ = (.ok m, w₁))
    (again : loadContents w₁ = (.ok n', wᵦ)) (trees' : loadTrees options? wᵦ = (.ok m', w₂)) :
    ∃ d' items' bytes, Tracks d' items' ∧ Current w₁.files items' ∧
      AtRest w₁ document d' bytes ∧ AtRest w₂ document d' bytes := by
  obtain ⟨read, reread₁⟩ := refreshed_of_loadContents tree ending here loaded tracks first
  have has := has_reread w.files tracks complete
  have current := current_reread w.files items
  obtain ⟨options, asked, parsed₁⟩ := refreshed_of_loadTrees reread₁.tree ending reread₁.here
    reread₁.loaded has.tracks current trees
  have has := has_reparse options has.tracks has.complete
  have current := current.mapValues_reparse options
  obtain ⟨read', reread₂⟩ := refreshed_of_loadContents parsed₁.tree ending parsed₁.here
    parsed₁.loaded has.tracks again
  -- The document stays where the first writing has put it.
  obtain ⟨place, placedₐ, placed₁⟩ := reread₁.landed.placed parsed₁.landed
  have read : Readable w.files (items.mapValues (reread w.files)) := read.mapValues fun _ => rfl
  have same := mapValues_reread_eq (placedₐ.trans placed₁) current (read.mapValues fun _ => rfl)
    read' (Entries.forall_mem_mapValues.mpr (Entries.forall_mem_mapValues.mpr apart))
  have current₁ := current_reread w₁.files
    ((items.mapValues (reread w.files)).mapValues (reparse options))
  rw [same] at current₁ reread₂
  have loadedᵦ := reread₂.loaded
  rw [has.withItems_eq] at loadedᵦ
  obtain ⟨options', asked', parsed₂⟩ := refreshed_of_loadTrees reread₂.tree ending reread₂.here
    loadedᵦ has.tracks current trees'
  rw [optionsFor_withItems] at asked'
  cases asked.symm.trans asked'
  obtain ⟨_, _, placed₂⟩ := reread₂.landed.placed parsed₂.landed
  have atRest := parsed₂.atRest placed₂
  rw [mapValues_reparse_eq, has.withItems_eq] at atRest
  exact ⟨_, _, _, has.tracks, current₁, parsed₁.atRest placed₁, atRest⟩

end Twice

/-- What refreshes a document: loading the contents, or loading these and then the trees. -/
inductive Refresh
  | contents
  | contentsAndTrees (options? : Option ParseOptions)

def Refresh.job : Refresh → Job Unit
  | .contents => loadContents >>= fun _ => pure ()
  | .contentsAndTrees options? => loadContents >>= fun _ => loadTrees options? >>= fun _ => pure ()

/-- The law of repeated refreshes. If a document is refreshed twice in a row and both succeed, the
first refresh comes to a document of which the items have the texts that are now at their full
paths, and the second one to the same: that document is in memory, and its file has the same bytes
after both. This is so unless, after the first time, the full path of an item leads to the file of
the document itself. -/
theorem refresh_idempotent (refresh : Refresh) (tree : w.files.IsTree)
    (proper : w.store.path.Proper) (loaded : Store.load w = (.ok d, Store.holding w d))
    (complete : d.Complete) (tracks : Tracks d items) (first : refresh.job w = (.ok (), w₁))
    (again : refresh.job w₁ = (.ok (), w₂))
    (apart : ∀ e ∈ items, ¬LeadsToDocument w₁.files w.store.path e.2.fullPath) :
    ∃ d' items' bytes, Tracks d' items' ∧ Current w₁.files items' ∧
      AtRest w₁ w.store.path d' bytes ∧ AtRest w₂ w.store.path d' bytes := by
  have ending := ending_of_proper proper
  cases refresh with
  | contents =>
      obtain ⟨_, _, first, ended⟩ := Job.bind_eq_ok first
      cases ended
      obtain ⟨_, _, again, ended⟩ := Job.bind_eq_ok again
      cases ended
      exact contents_twice tree ending rfl loaded complete tracks apart first again
  | contentsAndTrees options? =>
      obtain ⟨_, _, first, rest⟩ := Job.bind_eq_ok first
      obtain ⟨_, _, trees, ended⟩ := Job.bind_eq_ok rest
      cases ended
      obtain ⟨_, _, again, rest⟩ := Job.bind_eq_ok again
      obtain ⟨_, _, trees', ended⟩ := Job.bind_eq_ok rest
      cases ended
      exact contents_and_trees_twice tree ending rfl loaded complete tracks apart first trees
        again trees'

section Examples

theorem not_leadsToDocument (elsewhere : (fs.walk true path).toOption ≠
    (fs.walk true document.toText).toOption) : ¬LeadsToDocument fs document (.text path) := by
  rintro ⟨_, place, ⟨⟩, walk, there⟩
  exact elsewhere (by rw [walk, there])

/-- A workspace with a source file and a directory, and a document that tracks both. -/
def aboutToRefresh : Workspace :=
  let nodes : List (Location × Node) :=
    [(["a.py"], .file (Utf8.encodeChars "x\n".toList)), (["d"], .directory)]
  Store.holding (Store.opened nodes "db.json") withFileAndDirectory

theorem refresh_idempotent_fileAndDirectory :
    let refresh := Refresh.contentsAndTrees none
    let w := aboutToRefresh
    let d := withFileAndDirectory
    let items := fileAndDirectory
    ∃ w₁ w₂, (w.files.IsTree ∧ w.store.path.Proper ∧
        Store.load w = (.ok d, Store.holding w d) ∧ d.Complete ∧ Tracks d items ∧
        refresh.job w = (.ok (), w₁) ∧ refresh.job w₁ = (.ok (), w₂) ∧
        ∀ e ∈ items, ¬LeadsToDocument w₁.files w.store.path e.2.fullPath) ∧
      ∃ d' items' bytes, Tracks d' items' ∧ Current w₁.files items' ∧
        AtRest w₁ w.store.path d' bytes ∧ AtRest w₂ w.store.path d' bytes := by
  intro refresh w d items
  have tree : w.files.IsTree := isTree_of_nodes (by decide +kernel)
  have proper : w.store.path.Proper := Path.ofText_proper _
  have complete : d.Complete := withFileAndDirectory_complete
  let w₁ := (refresh.job w).2
  have answer : (refresh.job w).1.toOption = some () := by decide +kernel
  have answer' : (refresh.job w₁).1.toOption = some () := by decide +kernel
  have first : refresh.job w = (.ok (), w₁) := Prod.ext (eq_ok_of_toOption answer) rfl
  have again : refresh.job w₁ = (.ok (), (refresh.job w₁).2) :=
    Prod.ext (eq_ok_of_toOption answer') rfl
  have apart : ∀ e ∈ items, ¬LeadsToDocument w₁.files w.store.path e.2.fullPath := by
    simp only [items, fileAndDirectory, List.forall_mem_cons]
    exact ⟨not_leadsToDocument (by decide +kernel), not_leadsToDocument (by decide +kernel),
      List.forall_mem_nil _⟩
  exact ⟨w₁, _, ⟨tree, proper, rfl, complete, rfl, first, again, apart⟩,
    refresh_idempotent refresh tree proper rfl complete rfl first again apart⟩

/-- A document that tracks its own file does not settle: the second refresh stores the document in
it that the first has written. -/
theorem document_tracks_itself :
    let items : Items := [("db.json", Item.create "0" "/" "db.json")]
    let d := Store.withItems (Document.withDefaults []) items
    let empty := Utf8.encodeChars "\x7b\x7d".toList
    let w := Store.holding (Store.opened [(["db.json"], .file empty)] "db.json") d
    let refresh (w : Workspace) := Refresh.contents.job w
    let bytes (w : Workspace) := (w.files.read w.store.path.toText).toOption
    let w₁ := (refresh w).2
    let w₂ := (refresh w₁).2
    (w.files.IsTree ∧ w.store.path.Proper ∧ d.Complete ∧ Tracks d items) ∧
      (refresh w).1.toOption = some () ∧ (refresh w₁).1.toOption = some () ∧
      (bytes w₁).isSome = true ∧ (bytes w₂).isSome = true ∧ bytes w₂ ≠ bytes w₁ := by
  intro items d empty w refresh bytes w₁ w₂
  have tree : w.files.IsTree := isTree_of_nodes (by decide +kernel)
  have complete : d.Complete :=
    Store.withItems_new_complete (by decide) (by simp [items, Item.create_distinct])
  exact ⟨⟨tree, Path.ofText_proper _, complete, rfl⟩, by decide +kernel⟩

end Examples

end Loading

end SourceLedger
