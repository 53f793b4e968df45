import SourceLedger.Proofs.Json.Form
import SourceLedger.Proofs.Store.Rewriting
import SourceLedger.Proofs.Store.Tracked

/-!
# Merged documents

A merge writes the whole document with the entries in it. So it succeeds only if everything that it
keeps can be written too, and what was written is what a new store reads.
-/

namespace SourceLedger

open FileSystem
open Value (fits_table)

namespace Value.Table

variable {room : Nat} {es : Value.Table}

/-- Where no key occurs twice, a table fits if what is found in it does. -/
theorem fits_iff (nodup : (Entries.keys es).Nodup) :
    (Value.table es).Fits (room + 1) ↔
      ∀ key v, Entries.get? es key = some v → key.isScalar = true ∧ v.Fits room := by
  rw [fits_table]
  constructor
  · intro all key v found
    exact all _ (Entries.mem_of_get? found)
  · intro all e he
    exact all e.1 e.2 (Entries.get?_of_mem nodup he)

end Value.Table

namespace Store

variable {d : Document} {name : Text} {entries : Value.Table} {w w' : Workspace}

/-- What a document keeps when entries are merged into one of its namespaces can be written. -/
structure KeptFits (d : Document) (name : Text) (entries : Value.Table) : Prop where
  others : ∀ other v, Entries.get? d other = some v → other ≠ name →
    other.isScalar = true ∧ v.Fits (Json.maxDepth - 1)
  older : ∀ key v, Entries.get? (tableIn d name) key = some v → key ∉ Entries.keys entries →
    key.isScalar = true ∧ v.Fits (Json.maxDepth - 2)

/-- Entries that are merged in can be written, with what the namespace keeps beside them, exactly if
both can. -/
theorem fits_updated_iff (distinct : Value.Table.Distinct d) (nodup : (Entries.keys entries).Nodup)
    (name : Text) (room : Nat) :
    (Value.table ((tableIn d name).update entries)).Fits (room + 1) ↔
      (∀ key v, Entries.get? (tableIn d name) key = some v → key ∉ Entries.keys entries →
        key.isScalar = true ∧ v.Fits room) ∧
      ∀ e ∈ entries, e.1.isScalar = true ∧ e.2.Fits room := by
  rw [Value.Table.fits_iff (Entries.nodup_update (distinct_tableIn distinct name).nodup entries)]
  simp only [Entries.get?_update nodup, Option.or_eq_some_iff, Entries.get?_eq_none_iff]
  constructor
  · intro all
    refine ⟨fun key v old absent => all key v (Or.inr ⟨absent, old⟩), fun e he => ?_⟩
    exact all e.1 e.2 (Or.inl (Entries.get?_of_mem nodup he))
  · rintro ⟨older, new⟩ key v (found | ⟨absent, old⟩)
    · exact new _ (Entries.mem_of_get? found)
    · exact older key v old absent

theorem get?_merged (d : Document) (name key : Text) (entries : Value.Table) :
    Entries.get? (merged d name entries) key =
      if name = key then some (.table ((tableIn d name).update entries)) else Entries.get? d key :=
  Entries.get?_put d name key _

theorem nodup_merged (distinct : Value.Table.Distinct d) (name : Text) (entries : Value.Table) :
    (Entries.keys (merged d name entries)).Nodup :=
  Entries.nodup_put distinct.nodup _ _

/-- A merged document that can be written has nothing in it that cannot. -/
theorem fits_of_fault_merged (distinct : Value.Table.Distinct d)
    (nodup : (Entries.keys entries).Nodup)
    (written : (Json.write (.table (merged d name entries))).fault = none) :
    KeptFits d name entries ∧
      ∀ e ∈ entries, e.1.isScalar = true ∧ e.2.Fits (Json.maxDepth - 2) := by
  have all := (Value.Table.fits_iff (nodup_merged distinct name entries)).mp
    (Json.fault_eq_none_iff.mp written)
  have here := (all name _ ((get?_merged ..).trans (if_pos rfl))).2
  obtain ⟨older, new⟩ := (fits_updated_iff distinct nodup name (Json.maxDepth - 2)).mp here
  refine ⟨⟨fun other v old ne => all other v ?_, older⟩, new⟩
  rw [get?_merged, if_neg (Ne.symm ne), old]

/-- A merged document can be written exactly if what is merged in and what is kept can. -/
theorem fault_merged_iff (distinct : Value.Table.Distinct d) (named : name.isScalar = true)
    (nodup : (Entries.keys entries).Nodup) :
    (Json.write (.table (merged d name entries))).fault = none ↔
      KeptFits d name entries ∧
        ∀ e ∈ entries, e.1.isScalar = true ∧ e.2.Fits (Json.maxDepth - 2) := by
  refine ⟨fits_of_fault_merged distinct nodup, ?_⟩
  rintro ⟨⟨others, older⟩, new⟩
  have updated := (fits_updated_iff distinct nodup name (Json.maxDepth - 2)).mpr ⟨older, new⟩
  refine Json.fault_eq_none_iff.mpr
    ((Value.Table.fits_iff (nodup_merged distinct name entries)).mpr fun key v hv => ?_)
  rw [get?_merged] at hv
  split_ifs at hv with same
  · cases hv
    exact ⟨same ▸ named, updated⟩
  · exact others key v hv (Ne.symm same)

/-- What was written can be written. -/
theorem fault_of_written (tree : w.files.IsTree) (ending : Ending w.store.path)
    (done : (writing w d).result = .ok ()) : (Json.write (.table d)).fault = none := by
  rcases landed_or_keeps d tree ending with ⟨_, _, _, fault, _⟩ | ⟨⟨_, failed⟩, _⟩
  · exact fault
  · cases done.symm.trans failed

/-- Where the system takes whatever is written, writing succeeds if the document has a text. -/
theorem writing_ok_iff (tree : w.files.IsTree) (ending : Ending w.store.path)
    (takes : ∀ bytes, ((Writing.store w.store.path ⟨bytes, none⟩).run.run w.faults w.files).result =
      .ok ()) (d : Document) :
    (writing w d).result = .ok () ↔ (Json.write (.table d)).fault = none := by
  refine ⟨fault_of_written tree ending, fun fault => ?_⟩
  have whole : Json.write (.table d) = ⟨(Json.write (.table d)).bytes, none⟩ := by
    rw [← fault]
  rw [writing, Writing.write, whole]
  exact takes _

/-- A file with the text of a document is read as this document. -/
theorem load_of_text {path : Path} {text : Bytes} (complete : d.Complete)
    (htext : Json.text? (.table d) = some text) (found : w.files.read path.toText = .ok text) :
    (load { w with store := Store.new path }).1 = .ok d := by
  have denotes := Document.ofBytes_of_text? complete.distinct htext
  have read := Document.read_of_bytes found denotes
  rw [complete.withDefaults] at read
  rw [load_new read]

/-- A document that was written is read back by a new store. -/
theorem load_of_written (tree : w.files.IsTree) (ending : Ending w.store.path)
    (complete : d.Complete) (done : (writing w d).result = .ok ()) :
    Writing.UnlessPast w.files (written w d).files w.store.path
      ((load { written w d with store := Store.new w.store.path }).1 = .ok d) where
  or_lost := by
    rcases landed_or_keeps d tree ending with ⟨_, landed⟩ | ⟨⟨_, failed⟩, _⟩
    · refine landed.found_or_lost.imp_left fun found => ?_
      obtain ⟨_, _, fault, _⟩ := landed
      have text : Json.text? (.table d) = some (Json.write (.table d)).bytes := by
        rw [Json.text?, fault]
      exact load_of_text (w := written w d) complete text (read_eq_ok_iff.mpr (found true))
    · cases done.symm.trans failed
  direct direct := by
    rcases writing_cases d tree direct.proper direct.settled with ⟨_, failed, _⟩ | ⟨_, finished⟩
    · cases done.symm.trans failed
    · obtain ⟨text, htext, replaced⟩ := storesWhole_of_finished finished direct.proper
      have found := read_eq_ok_iff.mpr (replaced.reads direct.straight true)
      exact load_of_text (w := written w d) complete htext found

/-- A merge that succeeds has written the merged document. -/
theorem merge_eq_ok (loaded : load w = (.ok d, holding w d))
    (merging : merge name (.table entries) w = (.ok (), w')) :
    (writing w (merged d name entries)).result = .ok () ∧
      w' = written w (merged d name entries) := by
  rw [merge_of_ok name _ loaded] at merging
  obtain ⟨done, rfl⟩ := Prod.mk.inj merging
  exact ⟨mapError_eq_ok done, rfl⟩

/-- Work that ends in merging items has, if it succeeds, written the document with them. -/
theorem mergeItems_eq_ok {α : Type} {a b : α} {items : Items} {log : List Message}
    (done : (do mergeItems items; return a : Job α) { holding w d with log } = (.ok b, w')) :
    b = a ∧ (writing { w with log } (withItems d items)).result = .ok () ∧
      w' = written { w with log } (withItems d items) := by
  obtain ⟨_, _, merging, returned⟩ := Job.bind_eq_ok done
  cases returned
  exact ⟨rfl, merge_eq_ok (w := { holding w d with log }) rfl merging⟩

end Store

end SourceLedger
