import SourceLedger.Proofs.Json.Form
import SourceLedger.Proofs.Run.Frame

/-!
# Trees that can be stored

Parsing makes trees that no document can hold: literals denote texts with lone surrogates and
integers of any length. These are all that there is: a tree that fits is stored with the item that
it is of, and read back as it was.
-/

namespace SourceLedger

open Store
open Value (fits_table)

namespace Value.Table

variable {room : Nat} {es later : Value.Table} {key : Text} {v : Value}

theorem fits_put (fits : (Value.table es).Fits (room + 1)) (named : key.isScalar = true) :
    (Value.table (Entries.put es key v)).Fits (room + 1) ↔ v.Fits room := by
  rw [fits_table] at fits ⊢
  constructor
  · intro all
    have found : Entries.get? (Entries.put es key v) key = some v := by
      rw [Entries.get?_put, if_pos rfl]
    exact (all _ (Entries.mem_of_get? found)).2
  · intro hv e he
    rcases Entries.mem_put he with he | rfl
    · exact fits e he
    · exact ⟨named, hv⟩

theorem fits_update (fits : (Value.table es).Fits (room + 1)) (nodup : (Entries.keys later).Nodup) :
    (Value.table (Entries.update es later)).Fits (room + 1) ↔
      ∀ e ∈ later, e.1.isScalar = true ∧ e.2.Fits room := by
  rw [fits_table] at fits ⊢
  constructor
  · intro all e he
    have found : Entries.get? (Entries.update es later) e.1 = some e.2 := by
      rw [Entries.get?_update nodup, Entries.get?_of_mem nodup he, Option.some_or]
    exact all _ (Entries.mem_of_get? found)
  · intro all e he
    rcases Entries.mem_update he with he | he
    · exact fits e he
    · exact all e he

end Value.Table

namespace Item

variable {room : Nat} {item : Item}

theorem fits_toValue : item.toValue.Fits (room + 1) ↔
    item.fullPath.Fits room ∧ item.index.Fits room ∧ item.id.Fits room ∧
      (∀ v ∈ item.content, v.Fits room) ∧ ∀ v ∈ item.tree, v.Fits room := by
  have part : ∀ (key : Text) (v : Option Value), key.isScalar = true →
      ((∀ e ∈ entry key v, e.1.isScalar = true ∧ e.2.Fits room) ↔ ∀ w ∈ v, w.Fits room) := by
    intro key v named
    cases v <;> simp [entry, named]
  rw [toValue, fits_table, entries]
  simp only [List.forall_mem_append]
  rw [part _ _ rfl, part _ _ rfl, part _ _ rfl, part _ _ rfl, part _ _ rfl]
  simp [and_assoc]

/-- Apart from its tree an item fits, and then it does so with the tree if that fits. -/
theorem fits_withTree {tree : Value}
    (fits : ({ item with tree := none } : Item).toValue.Fits (room + 1)) :
    ({ item with tree := some tree } : Item).toValue.Fits (room + 1) ↔ tree.Fits room := by
  rw [fits_toValue] at fits ⊢
  obtain ⟨fullPath, index, id, content, _⟩ := fits
  refine ⟨fun all => all.2.2.2.2 _ rfl, fun fits => ⟨fullPath, index, id, content, ?_⟩⟩
  rintro _ ⟨⟩
  exact fits

end Item

namespace Store

variable {room : Nat} {d : Document} {items : Items}

theorem fits_tableIn (fits : (Value.table d).Fits (room + 2)) (name : Text) :
    (Value.table (tableIn d name)).Fits (room + 1) := by
  have empty : (Value.table []).Fits (room + 1) := fits_table.mpr (by simp)
  unfold tableIn
  cases hv : Entries.get? d name with
  | none => exact empty
  | some v =>
      have here := (fits_table.mp fits _ (Entries.mem_of_get? hv)).2
      cases v with
      | table es => exact here
      | _ => exact empty

/-- A document that fits does so with items merged in if they fit. -/
theorem fits_withItems (fits : (Value.table d).Fits (room + 2))
    (nodup : (Entries.keys items).Nodup) :
    (Value.table (withItems d items)).Fits (room + 2) ↔
      ∀ e ∈ items, e.1.isScalar = true ∧ e.2.toValue.Fits room := by
  rw [withItems, merged]
  refine (Value.Table.fits_put fits rfl).trans ?_
  rw [← Items.keys_toTable] at nodup
  refine (Value.Table.fits_update (fits_tableIn fits _) nodup).trans ?_
  exact Entries.forall_mem_mapValues

end Store

namespace Parsing

variable {options : ParseOptions} {source filename key : Text} {tree : Value} {d : Document}
  {item : Item}

/-- A tree that parsing makes can be stored with an item, in a document that can be written, exactly
if it fits: if no text in it has a surrogate and no integer in it is too long, and its containers
are not too deep inside one another. What is written then is read back with the same tree. -/
theorem tree_stored_iff (parsed : parse options source filename = .ok tree)
    (complete : d.Complete) (written : (Json.write (.table d)).fault = none)
    (named : key.isScalar = true) (distinct : ({ item with tree := none } : Item).Distinct)
    (fields : ({ item with tree := none } : Item).toValue.Fits (Json.maxDepth - 2)) :
    let d' := withItems d [(key, { item with tree := some tree })]
    ((Json.write (.table d')).fault = none ↔ tree.Fits (Json.maxDepth - 3)) ∧
      part d' key "ast" = some tree ∧
      ∀ bytes, Json.text? (.table d') = some bytes → Document.ofBytes bytes = .ok d' := by
  intro d'
  have nodup : (Entries.keys [(key, { item with tree := some tree })]).Nodup :=
    List.nodup_singleton key
  refine ⟨?_, ?_, fun bytes text => ?_⟩
  · rw [Json.fault_eq_none_iff] at written ⊢
    refine (fits_withItems written nodup).trans ?_
    rw [List.forall_mem_singleton]
    exact (and_iff_right named).trans (Item.fits_withTree fields)
  · have found : Entries.get? (filesOf d') key =
        some ({ item with tree := some tree } : Item).toValue := by
      rw [Frames.filesOf_withItems, Entries.get?_update ((Items.keys_toTable _).symm ▸ nodup),
        Items.get?_toTable, Entries.get?, if_pos rfl]
      rfl
    rw [part, found]
    simp [Item.toValue, Value.follow?]
  · refine Document.ofBytes_of_text? (withItems_complete complete nodup ?_).distinct text
    rw [List.forall_mem_singleton]
    refine ⟨distinct.id, distinct.fullPath, distinct.index, distinct.content, ?_⟩
    rintro _ ⟨⟩
    exact distinct_parse parsed

section Examples

theorem tree_stored_iff_name :
    let source : Text := "x"
    let item := Item.create "0" "/" "a.py"
    let d : Document := Document.withDefaults []
    ∃ tree, parse .default source "/a.py" = .ok tree ∧
      (d.Complete ∧ (Json.write (.table d)).fault = none ∧ Text.isScalar "a.py" = true ∧
        ({ item with tree := none } : Item).Distinct ∧
        ({ item with tree := none } : Item).toValue.Fits (Json.maxDepth - 2)) ∧
      let d' := withItems d [("a.py", { item with tree := some tree })]
      ((Json.write (.table d')).fault = none ↔ tree.Fits (Json.maxDepth - 3)) ∧
        part d' "a.py" "ast" = some tree ∧
        ∀ bytes, Json.text? (.table d') = some bytes → Document.ofBytes bytes = .ok d' := by
  intro source item d
  have parses : (parse .default source "/a.py").toOption.isSome = true := by decide +kernel
  obtain ⟨tree, parsed⟩ := Option.isSome_iff_exists.mp parses
  have parsed := eq_ok_of_toOption parsed
  have complete : d.Complete := Document.withDefaults_complete Value.Table.distinct_nil
  have written : (Json.write (.table d)).fault = none := by decide +kernel
  have distinct : ({ item with tree := none } : Item).Distinct :=
    ⟨Value.distinct_text _, Value.distinct_text _, Value.distinct_text _,
      (Item.create_distinct "0" "/" "a.py").content, nofun⟩
  have fields : ({ item with tree := none } : Item).toValue.Fits (Json.maxDepth - 2) := by
    refine Item.fits_toValue.mpr ⟨?_, rfl, rfl, ?_, nofun⟩
    · exact (by decide +kernel : (Path.resolve "/" "a.py").isScalar = true)
    · rintro _ ⟨⟩
      rfl
  exact ⟨tree, parsed, ⟨complete, written, rfl, distinct, fields⟩,
    tree_stored_iff parsed complete written rfl distinct fields⟩

/-- A literal can denote half of a pair of surrogates, and no document can hold that: the file is
parsed, but the run fails as it writes the document. -/
theorem unpaired_surrogate_fails :
    let source := "x = '\\ud800'\n"
    let r := DefaultRun.plain [(["a.py"], DefaultRun.textFile source)] ["a.py"]
    (parse .default source "/a.py").toOption.isSome = true ∧
      r.outcome.failure.map (fun f => (f.stage, f.kind)) =
        some (Run.loadFileTrees.name, .persistence) := by
  decide +kernel

end Examples

end Parsing

end SourceLedger
