import SourceLedger.Loading
import SourceLedger.Proofs.FileSystem.Find
import SourceLedger.Proofs.Store.Tracked

/-!
# Loading contents

An item gets the text of the regular file that its full path leads to, and no content where there
is no such file. If a file cannot be read or decoded, nothing is written at all.
-/

namespace SourceLedger

open FileSystem

namespace Loading

variable {fs : FileSystem} {v : Value} {path t : Text}

theorem place_regular {system : Answers} (h : Place.ofValue system v = .ok (.regular path)) :
    v = .text path := by
  have descriptor : ∀ n, ofDescriptor n ≠ .ok (.regular path) := by
    intro n
    unfold ofDescriptor
    split_ifs <;> nofun
  cases v with
  | text p =>
      change ofPath system p = _ at h
      unfold ofPath at h
      split at h
      · next node _ =>
        cases regular : node.isRegular <;> rw [regular] at h <;> cases h
        rfl
      all_goals cases h
  | int n => exact absurd h (descriptor n)
  | bool b => exact absurd h (descriptor _)
  | null | real | moment | list | table => cases h

theorem place_other {node : Node} (h : Place.ofValue (answersOf fs) v = .ok .other)
    (hv : v = .text path) (there : fs.find true path = .ok node) : node.isRegular = false := by
  subst hv
  have there : (answersOf fs).node path = .ok node := there
  change ofPath (answersOf fs) path = _ at h
  rw [ofPath, there] at h
  cases regular : node.isRegular
  · rfl
  · simp [regular] at h

theorem readRegular_eq_ok {r : Text × Text} (h : readRegular (answersOf fs) path = .ok r) :
    ∃ bytes s, fs.find true path = .ok (.file bytes) ∧ Utf8.decode bytes = .ok s ∧
      r = (path, Text.ofChars s) := by
  obtain ⟨bytes, hbytes, h⟩ := bind_eq_ok h
  obtain ⟨s, hs, h⟩ := bind_eq_ok h
  cases h
  exact ⟨bytes, s, read_eq_ok_iff.mp (mapError_eq_ok hbytes), mapError_eq_ok hs, rfl⟩

/-- Only the full path of a regular file has a content: its text. -/
theorem readContent_some {r : Text × Text} (h : readContent fs v = .ok (some r)) :
    ∃ path bytes s, v = .text path ∧ fs.find true path = .ok (.file bytes) ∧
      Utf8.decode bytes = .ok s ∧ r = (path, Text.ofChars s) := by
  obtain ⟨place, hplace, h⟩ := bind_eq_ok h
  cases place with
  | regular path =>
      obtain ⟨r', hr, h⟩ := bind_eq_ok h
      cases h
      obtain ⟨bytes, s, found, decoded, rfl⟩ := readRegular_eq_ok hr
      exact ⟨path, bytes, s, place_regular hplace, found, decoded, rfl⟩
  | other => cases h

theorem readContent_none {node : Node} (h : readContent fs v = .ok none) (hv : v = .text path)
    (there : fs.find true path = .ok node) : node.isRegular = false := by
  obtain ⟨place, hplace, h⟩ := bind_eq_ok h
  cases place with
  | regular path =>
      obtain ⟨r, _, h⟩ := bind_eq_ok h
      cases h
  | other => exact place_other hplace hv there

/-- The text at a full path, if there is one and it can be read. -/
def textAt (fs : FileSystem) (fullPath : Value) : Option Text :=
  match readContent fs fullPath with
  | .ok (some (_, t)) => some t
  | _ => none

theorem speaks_remark (system : Answers) (v : Value) : (remark system v).Speaks := by
  unfold remark
  split
  · exact Job.speaks_say _ _
  · exact Job.speaks_say _ _
  · exact Job.speaks_pure

theorem textAt_of_ok {r : Option (Text × Text)} (h : readContent fs v = .ok r) :
    textAt fs v = r.map Prod.snd := by
  rw [textAt, h]
  cases r <;> rfl

section Contents

variable {fullPaths : List Value} {entries : List (Option (Text × Text))}
  (read : fullPaths.map (readContent fs) = entries.map .ok)
include read

/-- Every text that was read is from one of the full paths. -/
theorem readContent_of_mem {r : Text × Text} (hr : r ∈ entries.filterMap id) :
    .text r.1 ∈ fullPaths ∧ readContent fs (.text r.1) = .ok (some r) := by
  obtain ⟨v, hv, hread⟩ := exists_of_mem_of_map_eq read (y := some r) (by simpa using hr)
  obtain ⟨path, bytes, s, rfl, _, _, rfl⟩ := readContent_some hread
  exact ⟨hv, hread⟩

/-- The texts that were read are those at the full paths. -/
theorem get?_contents (hv : v ∈ fullPaths) :
    v.asText?.bind (Entries.get? (Entries.ofList (entries.filterMap id))) = textAt fs v := by
  obtain ⟨r, hr, answer⟩ := exists_of_map_eq read hv
  rw [textAt_of_ok answer]
  cases r with
  | some r =>
      obtain ⟨path, bytes, s, rfl, _, _, rfl⟩ := readContent_some answer
      refine Entries.get?_ofList (by simpa using hr) fun u hu => ?_
      cases answer.symm.trans (readContent_of_mem read hu).2
      rfl
  | none =>
      cases ht : v.asText? with
      | none => rfl
      | some path =>
          obtain rfl := Value.asText?_eq_some.mp ht
          rw [Option.map_none, Option.bind_some, Entries.get?_eq_none_iff]
          intro written
          obtain ⟨t, ht⟩ := Entries.mem_keys_iff.mp written
          have found := (readContent_of_mem read (Entries.mem_ofList (Entries.mem_of_get? ht))).2
          cases answer.symm.trans found

/-- The paths of the texts that were read are told apart, and each leads to a text. -/
theorem keys_contents {path : Text} :
    path ∈ Entries.keys (Entries.ofList (entries.filterMap id)) ↔
      .text path ∈ fullPaths ∧ (textAt fs (.text path)).isSome := by
  rw [Entries.mem_keys_iff]
  constructor
  · rintro ⟨t, found⟩
    have here := (readContent_of_mem read (Entries.mem_ofList (Entries.mem_of_get? found))).1
    refine ⟨here, ?_⟩
    rw [← get?_contents read here, Value.asText?, Option.bind_some, found]
    rfl
  · rintro ⟨here, there⟩
    obtain ⟨t, ht⟩ := Option.isSome_iff_exists.mp there
    exact ⟨t, (get?_contents read here).trans ht⟩

end Contents

variable {w w' : Workspace} {d : Document} {items : Items}

/-- Reading comes to gathering what is at all full paths, after something was said. -/
theorem readContentsFrom_eq (answering : FileSystem → Answers) (fullPaths : List Value)
    (w : Workspace) : ∃ log, readContentsFrom answering fullPaths w = (do
      let entries ← Job.gather (fullPaths.map (readContentFrom (answering w.files)))
      return Entries.ofList (entries.filterMap id) : Job (Entries Text)) { w with log } := by
  obtain ⟨log, spoken⟩ := Job.speaks_forM (speaks_remark (answering w.files)) fullPaths w
  exact ⟨log, (Job.get_bind _ w).trans (Job.bind_of_ok spoken)⟩

/-- Loading comes to reading what is at the full paths of the items that are tracked. -/
theorem loadContentsFrom_eq (answering : FileSystem → Answers)
    (loaded : Store.load w = (.ok d, w')) (inMemory : w'.store.cached = some d)
    (tracks : Store.Tracks d items) :
    loadContentsFrom answering w = (do
      let contents ← readContentsFrom answering (items.map (·.2.fullPath))
      Store.mergeItems (items.mapValues (withContent contents))
      return contents.length : Job Nat) w' := by
  have found := Store.items_of_load loaded
  rw [show Items.ofValue _ = _ from tracks] at found
  exact (Job.bind_of_ok found).trans
    (Job.bind_of_ok (Store.fullPaths_of_load (Store.load_cached inMemory) tracks))

/-- Reading fails only where one of the full paths cannot be read. -/
theorem readContents_cases (fullPaths : List Value) (w : Workspace) :
    (∃ failure log, readContents fullPaths w = (.error failure, { w with log }) ∧
      ∃ v ∈ fullPaths, readContent w.files v = .error failure) ∨
      ∃ contents log, readContents fullPaths w = (.ok contents, { w with log }) ∧
        (∀ v ∈ fullPaths, (∃ r, readContent w.files v = .ok r) ∧
          v.asText?.bind (Entries.get? contents) = textAt w.files v) ∧
        (Entries.keys contents).Nodup ∧
        ∀ path, path ∈ Entries.keys contents ↔
          .text path ∈ fullPaths ∧ (textAt w.files (.text path)).isSome := by
  obtain ⟨log, run⟩ := readContentsFrom_eq answersOf fullPaths w
  rcases Job.gather_cases (fullPaths.map (readContent w.files)) { w with log } with
    ⟨failure, failed⟩ | ⟨entries, gathered, read⟩
  · obtain ⟨v, hv, unread⟩ := List.mem_map.mp (Job.mem_of_gather failed)
    exact Or.inl ⟨failure, log, run.trans (Job.bind_of_error failed), v, hv, unread⟩
  · refine Or.inr ⟨_, log, run.trans (Job.bind_of_ok gathered), fun v hv => ⟨?_, ?_⟩,
      Entries.nodup_ofList _, fun path => keys_contents read⟩
    · obtain ⟨r, _, answer⟩ := exists_of_map_eq read hv
      exact ⟨r, answer⟩
    · exact get?_contents read hv

/-- An item with the content that its full path leads to. -/
def reread (fs : FileSystem) (item : Item) : Item :=
  { item with content := (textAt fs item.fullPath).map .text }

theorem reread_plain {item : Item} (plain : item.Plain) : (reread fs item).Plain where
  content null := by
    obtain ⟨_, _, heq⟩ := Option.map_eq_some_iff.mp null
    cases heq
  tree := plain.tree

theorem reread_distinct {item : Item} (distinct : item.Distinct) : (reread fs item).Distinct where
  id := distinct.id
  fullPath := distinct.fullPath
  index := distinct.index
  content v hv := by
    obtain ⟨t, _, rfl⟩ := Option.map_eq_some_iff.mp hv
    exact Value.distinct_text t
  tree := distinct.tree

/-- An item has content after rereading if there is a text at its full path. -/
theorem hasContent_reread (path : Text) :
    (∃ e ∈ items.mapValues (reread fs), e.2.hasContent = true ∧ e.2.fullPath = .text path) ↔
      .text path ∈ items.map (·.2.fullPath) ∧ (textAt fs (.text path)).isSome := by
  have content (item : Item) : (reread fs item).hasContent = (textAt fs item.fullPath).isSome := by
    rw [Item.hasContent, reread, Option.isSome_map]
  constructor
  · rintro ⟨_, mem, hasContent, fullPath⟩
    obtain ⟨e, he, rfl⟩ := List.mem_map.mp mem
    have fullPath : e.2.fullPath = .text path := fullPath
    exact ⟨List.mem_map.mpr ⟨e, he, fullPath⟩, by rw [← fullPath, ← content]; exact hasContent⟩
  · rintro ⟨there, isText⟩
    obtain ⟨e, he, fullPath⟩ := List.mem_map.mp there
    exact ⟨_, List.mem_map_of_mem he, by rw [content, fullPath]; exact isText, fullPath⟩

/-- All that is at the full paths of some items can be read. -/
def AllRead (fs : FileSystem) (items : Items) : Prop :=
  ∀ e ∈ items, ∃ r, readContent fs e.2.fullPath = .ok r

/-- Contents are loaded from all full paths at once, or else one of them cannot be read, loading
fails and nothing is written. The files that were read are counted. -/
theorem loadContents_cases (cached : w.store.cached = some d) :
    (∃ failure log, loadContents w = (.error failure, { w with log }) ∧
      ∀ items, Store.Tracks d items → ¬AllRead w.files items) ∨
      ∃ items log, Store.Tracks d items ∧ AllRead w.files items ∧
        loadContents w = (do
          Store.mergeItems (items.mapValues (reread w.files))
          return (Items.fullPathsOf Item.hasContent (items.mapValues (reread w.files))).length :
            Job Nat) { w with log } := by
  have loaded := Store.load_cached cached
  have found := Store.items_of_load loaded
  cases hitems : Items.ofValue (Store.namespaceOf d Document.filesName) with
  | error e =>
      rw [hitems] at found
      refine Or.inl ⟨.unexpected e, w.log, Job.bind_of_error found, fun items tracks => ?_⟩
      cases hitems.symm.trans tracks
  | ok items =>
      have run := loadContentsFrom_eq answersOf loaded cached hitems
      rcases readContents_cases (items.map (·.2.fullPath)) w with
        ⟨failure, log, failed, v, hv, unread⟩ | ⟨contents, log, done, read, nodup, keys⟩
      · refine Or.inl ⟨failure, log, run.trans (Job.bind_of_error failed), fun _ tracks all => ?_⟩
        cases hitems.symm.trans tracks
        obtain ⟨e, he, rfl⟩ := List.mem_map.mp hv
        obtain ⟨r, read⟩ := all e he
        cases unread.symm.trans read
      · have read : ∀ e ∈ items, _ := fun e he =>
          read e.2.fullPath (List.mem_map_of_mem (f := fun e : Text × Item => e.2.fullPath) he)
        have same : items.mapValues (withContent contents) = items.mapValues (reread w.files) :=
          List.map_congr_left fun e he =>
            Prod.ext rfl (by simp only [withContent, reread, (read e he).2])
        refine Or.inr ⟨items, log, hitems, fun e he => (read e he).1, ?_⟩
        have count : (Entries.keys contents).length =
            (Items.fullPathsOf Item.hasContent (items.mapValues (reread w.files))).length :=
          Items.length_eq_fullPathsOf nodup fun path =>
            (keys path).trans (hasContent_reread path).symm
        rw [Entries.keys, List.length_map] at count
        rw [← count, ← same]
        exact run.trans (Job.bind_of_ok done)

/-- It makes no difference if the document has to be read first. -/
theorem loadContents_of_load (loaded : Store.load w = (.ok d, Store.holding w d)) :
    (∃ failure log, loadContents w = (.error failure, { Store.holding w d with log }) ∧
      ∀ items, Store.Tracks d items → ¬AllRead w.files items) ∨
      ∃ items log, Store.Tracks d items ∧ AllRead w.files items ∧
        loadContents w = (do
          Store.mergeItems (items.mapValues (reread w.files))
          return (Items.fullPathsOf Item.hasContent (items.mapValues (reread w.files))).length :
            Job Nat) { Store.holding w d with log } := by
  have inMemory : loadContents w = loadContents (Store.holding w d) :=
    Store.items_bind_of_load loaded
  rw [inMemory]
  exact loadContents_cases (w := Store.holding w d) rfl

end Loading

end SourceLedger
