import Mathlib.Data.List.Dedup
import SourceLedger.Identity
import SourceLedger.Proofs.Results
import SourceLedger.Proofs.Value.Distinct

/-!
# Items and their stored form

An item whose content and tree are not `null` is what is read from its stored form; a `null` would
be taken for unset. Items that were read are of that kind.
-/

namespace SourceLedger

open Value (distinct_table)

theorem Value.asText?_eq_some {v : Value} {t : Text} : v.asText? = some t ↔ v = .text t := by
  cases v <;> simp [Value.asText?]

namespace Item

variable {item : Item} {v : Value} {es : Value.Table}

section Fields

@[simp] theorem get?_fullPath (item : Item) :
    Entries.get? item.entries "fullPath" = some item.fullPath := by
  rfl

@[simp] theorem get?_index (item : Item) :
    Entries.get? item.entries "index" = some item.index := by
  rfl

@[simp] theorem get?_id (item : Item) : Entries.get? item.entries "id" = some item.id := by
  rfl

@[simp] theorem get?_content (item : Item) : Entries.get? item.entries "data" = item.content := by
  obtain ⟨id, fullPath, index, _ | content, _ | tree⟩ := item <;> rfl

@[simp] theorem get?_tree (item : Item) : Entries.get? item.entries "ast" = item.tree := by
  obtain ⟨id, fullPath, index, _ | content, _ | tree⟩ := item <;> rfl

end Fields

/-- Neither content nor tree is `null`. -/
structure Plain (item : Item) : Prop where
  content : item.content ≠ some .null
  tree : item.tree ≠ some .null

theorem optional_ne_null (es : Value.Table) (key : Text) : optional es key ≠ some .null := by
  unfold optional
  split
  · exact nofun
  · next h => exact h

theorem optional_eq {key : Text} {v : Option Value} (h : Entries.get? es key = v)
    (ne_null : v ≠ some .null) : optional es key = v := by
  unfold optional
  split
  · next found => exact absurd (h.symm.trans found) ne_null
  · exact h

theorem required_eq_ok {key : Text} (h : required es key = .ok v) :
    Entries.get? es key = some v := by
  unfold required at h
  split at h
  · next found =>
    cases h
    exact found
  · cases h

/-- What an item that was read says of the table that it was read from. -/
theorem ofValue_eq_ok (h : ofValue v = .ok item) :
    ∃ es, v = .table es ∧ Entries.get? es "id" = some item.id ∧
      Entries.get? es "fullPath" = some item.fullPath ∧
      Entries.get? es "index" = some item.index ∧ item.content = optional es "data" ∧
      item.tree = optional es "ast" := by
  unfold ofValue at h
  split at h
  · next es =>
    obtain ⟨id, hid, h⟩ := bind_eq_ok h
    obtain ⟨fullPath, hfullPath, h⟩ := bind_eq_ok h
    obtain ⟨index, hindex, h⟩ := bind_eq_ok h
    cases h
    exact ⟨es, rfl, required_eq_ok hid, required_eq_ok hfullPath, required_eq_ok hindex, rfl, rfl⟩
  · cases h

theorem plain_of_ofValue (h : ofValue v = .ok item) : item.Plain := by
  obtain ⟨es, _, _, _, _, content, tree⟩ := ofValue_eq_ok h
  exact ⟨content ▸ optional_ne_null es "data", tree ▸ optional_ne_null es "ast"⟩

/-- A plain item is read from its stored form. -/
theorem ofValue_toValue (plain : item.Plain) : ofValue item.toValue = .ok item := by
  have content := optional_eq item.get?_content plain.content
  have tree := optional_eq item.get?_tree plain.tree
  simp only [ofValue, toValue, required, get?_fullPath, get?_index, get?_id, content, tree]
  rfl

/-- No part of an item has a key twice. -/
structure Distinct (item : Item) : Prop where
  id : item.id.Distinct
  fullPath : item.fullPath.Distinct
  index : item.index.Distinct
  content : ∀ v ∈ item.content, v.Distinct
  tree : ∀ v ∈ item.tree, v.Distinct

theorem distinct_optional (h : Value.Table.Distinct es) (key : Text) :
    ∀ v ∈ optional es key, v.Distinct := by
  intro v hv
  unfold optional at hv
  split at hv
  · cases hv
  · exact h.get? hv

theorem distinct_of_ofValue (distinct : v.Distinct) (h : ofValue v = .ok item) :
    item.Distinct := by
  obtain ⟨es, rfl, id, fullPath, index, content, tree⟩ := ofValue_eq_ok h
  have distinct : Value.Table.Distinct es := distinct
  exact ⟨distinct.get? id, distinct.get? fullPath, distinct.get? index,
    content ▸ distinct_optional distinct "data", tree ▸ distinct_optional distinct "ast"⟩

theorem nodup_entries (item : Item) : (Entries.keys item.entries).Nodup := by
  have keys : Entries.keys item.entries = ["fullPath", "index", "id"] ++
      (if item.content.isSome then ["data"] else []) ++
      (if item.tree.isSome then ["ast"] else []) := by
    obtain ⟨id, fullPath, index, _ | content, _ | tree⟩ := item <;> rfl
  rw [keys]
  cases item.content.isSome <;> cases item.tree.isSome <;> decide

theorem distinct_toValue (h : item.Distinct) : item.toValue.Distinct := by
  refine distinct_table.mpr ⟨item.nodup_entries, fun e he => ?_⟩
  have part : ∀ (key : Text) (v : Option Value), (∀ w ∈ v, w.Distinct) →
      e ∈ entry key v → e.2.Distinct := by
    intro key v hv he
    cases v with
    | none => cases he
    | some w =>
        obtain rfl := List.mem_singleton.mp he
        exact hv w rfl
  have fixed : ∀ v : Value, v.Distinct → ∀ w ∈ some v, w.Distinct := by
    rintro v hv _ ⟨⟩
    exact hv
  simp only [entries, List.mem_append] at he
  rcases he with (((he | he) | he) | he) | he
  · exact part _ _ (fixed _ h.fullPath) he
  · exact part _ _ (fixed _ h.index) he
  · exact part _ _ (fixed _ h.id) he
  · exact part _ _ h.content he
  · exact part _ _ h.tree he

/-- Some content is set. -/
def hasContent (item : Item) : Bool := item.content.isSome

/-- Some tree is set, and it is not empty. -/
def hasTree (item : Item) : Bool := !(item.tree.getD .null).isEmpty

theorem create_plain (id workingDirectory path : Text) :
    (create id workingDirectory path).Plain where
  content := nofun
  tree := nofun

theorem create_distinct (id workingDirectory path : Text) :
    (create id workingDirectory path).Distinct where
  id := Value.distinct_text _
  fullPath := Value.distinct_text _
  index := Value.distinct_text _
  content v hv := by
    cases hv
    exact Value.distinct_text _
  tree v hv := by
    cases hv
    exact Value.Table.distinct_nil

end Item

namespace Items

variable {items : Items} {t : Value.Table} {key : Text} {item : Item}

@[simp] theorem keys_toTable (items : Items) :
    Entries.keys items.toTable = Entries.keys items :=
  Entries.keys_mapValues _ _

theorem get?_toTable (items : Items) (key : Text) :
    Entries.get? items.toTable key = (Entries.get? items key).map Item.toValue :=
  Entries.get?_mapValues _ _ _

theorem distinct_toTable (nodup : (Entries.keys items).Nodup)
    (distinct : ∀ e ∈ items, e.2.Distinct) : Value.Table.Distinct items.toTable := by
  refine distinct_table.mpr ⟨(keys_toTable items).symm ▸ nodup, fun e he => ?_⟩
  obtain ⟨e', he', rfl⟩ := List.mem_map.mp he
  exact Item.distinct_toValue (distinct e' he')

theorem keys_of_ofTable (h : ofTable t = .ok items) : Entries.keys items = Entries.keys t := by
  induction t generalizing items with
  | nil =>
      cases h
      rfl
  | cons e rest ih =>
      obtain ⟨item, _, h⟩ := bind_eq_ok h
      obtain ⟨later, hlater, h⟩ := bind_eq_ok h
      cases h
      exact congrArg (e.1 :: ·) (ih hlater)

/-- The items that were read, key by key. -/
theorem get?_of_ofTable (h : ofTable t = .ok items) (hi : Entries.get? items key = some item) :
    ∃ v, Entries.get? t key = some v ∧ Item.ofValue v = .ok item := by
  induction t generalizing items with
  | nil =>
      cases h
      cases hi
  | cons e rest ih =>
      obtain ⟨first, hfirst, h⟩ := bind_eq_ok h
      obtain ⟨later, hlater, h⟩ := bind_eq_ok h
      cases h
      rw [Entries.get?] at hi ⊢
      split_ifs at hi ⊢
      · cases hi
        exact ⟨e.2, rfl, hfirst⟩
      · exact ih hlater hi

theorem exists_of_ofTable (h : ofTable t = .ok items) {e : Text × Item} (he : e ∈ items) :
    ∃ v, (e.1, v) ∈ t ∧ Item.ofValue v = .ok e.2 := by
  induction t generalizing items with
  | nil =>
      cases h
      cases he
  | cons e' rest ih =>
      obtain ⟨first, hfirst, h⟩ := bind_eq_ok h
      obtain ⟨later, hlater, h⟩ := bind_eq_ok h
      cases h
      rcases List.mem_cons.mp he with rfl | he
      · exact ⟨e'.2, List.mem_cons_self, hfirst⟩
      · obtain ⟨v, hv, hitem⟩ := ih hlater he
        exact ⟨v, List.mem_cons_of_mem _ hv, hitem⟩

/-- Plain items are read from their stored form. -/
theorem ofTable_toTable (plain : ∀ e ∈ items, e.2.Plain) : ofTable items.toTable = .ok items := by
  induction items with
  | nil => rfl
  | cons e items ih =>
      rw [List.forall_mem_cons] at plain
      change ofTable ((e.1, e.2.toValue) :: toTable items) = _
      rw [ofTable, Item.ofValue_toValue plain.1, ih plain.2]
      rfl

/-- Reading the entries of a table to which an item was written. -/
theorem ofTable_put (h : ofTable t = .ok items) (plain : item.Plain) (key : Text) :
    ofTable (t.put key item.toValue) = .ok (items.put key item) := by
  induction t generalizing items with
  | nil =>
      cases h
      rw [Entries.put, ofTable, Item.ofValue_toValue plain]
      rfl
  | cons e rest ih =>
      obtain ⟨first, hfirst, h⟩ := bind_eq_ok h
      obtain ⟨later, hlater, h⟩ := bind_eq_ok h
      cases h
      rw [Entries.put, Entries.put]
      split_ifs
      · rw [ofTable, Item.ofValue_toValue plain, hlater]
        rfl
      · rw [ofTable, hfirst, ih hlater]
        rfl

theorem ofTable_update (h : ofTable t = .ok items) {later : Items}
    (plain : ∀ e ∈ later, e.2.Plain) :
    ofTable (t.update later.toTable) = .ok (items.update later) := by
  induction later generalizing t items with
  | nil => exact h
  | cons e later ih =>
      rw [List.forall_mem_cons] at plain
      exact ih (ofTable_put h plain.1 e.1) plain.2

section Kinds

variable {kind : Item → Bool}

/-- The full paths of the items of a kind, each of them once. -/
def fullPathsOf (kind : Item → Bool) (items : Items) : List Text :=
  ((items.filter (kind ·.2)).filterMap (·.2.fullPath.asText?)).dedup

theorem mem_fullPathsOf {path : Text} :
    path ∈ items.fullPathsOf kind ↔ ∃ e ∈ items, kind e.2 = true ∧ e.2.fullPath = .text path := by
  simp only [fullPathsOf, List.mem_dedup, List.mem_filterMap, List.mem_filter,
    Value.asText?_eq_some, and_assoc]

theorem fullPathsOf_congr {kind' : Item → Bool} (h : ∀ e ∈ items, kind e.2 = kind' e.2) :
    items.fullPathsOf kind = items.fullPathsOf kind' := by
  rw [fullPathsOf, fullPathsOf, List.filter_congr h]

theorem fullPathsOf_mapValues {f : Item → Item}
    (fullPaths : ∀ item, (f item).fullPath = item.fullPath) :
    fullPathsOf kind (items.mapValues f) = items.fullPathsOf fun item => kind (f item) := by
  simp only [fullPathsOf, Entries.mapValues, List.filter_map, List.filterMap_map,
    Function.comp_def, fullPaths]

/-- Counting paths that are told apart is counting the full paths of a kind, if these are they. -/
theorem length_eq_fullPathsOf {paths : List Text} (nodup : paths.Nodup)
    (same : ∀ path, path ∈ paths ↔ ∃ e ∈ items, kind e.2 = true ∧ e.2.fullPath = .text path) :
    paths.length = (items.fullPathsOf kind).length := by
  refine ((List.perm_ext_iff_of_nodup nodup (List.nodup_dedup _)).2 fun path => ?_).length_eq
  rw [same]
  exact mem_fullPathsOf.symm

/-- Where the items of a kind have full paths that are all different, there are as many of them. -/
theorem length_fullPathsOf
    (texts : ∀ e ∈ items, kind e.2 = true → ∃ path, e.2.fullPath = .text path)
    (nodup : ((items.filter (kind ·.2)).map (·.2.fullPath)).Nodup) :
    (items.fullPathsOf kind).length = items.countP (kind ·.2) := by
  have all : ((items.filter (kind ·.2)).filterMap (·.2.fullPath.asText?)).map Value.text =
      (items.filter (kind ·.2)).map (·.2.fullPath) := by
    rw [List.map_filterMap, ← List.filterMap_eq_map]
    refine List.filterMap_congr fun e he => ?_
    obtain ⟨he, ofKind⟩ := List.mem_filter.mp he
    obtain ⟨path, fullPath⟩ := texts e he ofKind
    simp [fullPath, Value.asText?]
  rw [← all] at nodup
  rw [fullPathsOf, List.dedup_eq_self.mpr nodup.of_map, List.countP_eq_length_filter]
  simpa using congrArg List.length all

/-- What is left then are the items of the other kind. -/
theorem length_sub_fullPathsOf
    (texts : ∀ e ∈ items, kind e.2 = true → ∃ path, e.2.fullPath = .text path)
    (nodup : ((items.filter (kind ·.2)).map (·.2.fullPath)).Nodup) :
    items.length - (items.fullPathsOf kind).length = items.countP (!kind ·.2) := by
  have all := List.length_eq_countP_add_countP (kind ·.2) (l := items)
  simp only [Bool.not_eq_true, Bool.decide_eq_false] at all
  rw [length_fullPathsOf texts nodup]
  omega

end Kinds

section Creation

variable {workingDirectory : Text}

theorem nodup_createOver (workingDirectory : Text) {items : Items}
    (nodup : (Entries.keys items).Nodup) (supply : IdSupply) (paths : List Text) :
    (Entries.keys (createOver workingDirectory items supply paths).1).Nodup := by
  induction paths generalizing items supply with
  | nil => exact nodup
  | cons path paths ih => exact ih (Entries.nodup_put nodup _ _) _

theorem get?_createOver_of_notMem {supply : IdSupply} {paths : List Text} (h : key ∉ paths) :
    Entries.get? (createOver workingDirectory items supply paths).1 key =
      Entries.get? items key := by
  induction paths generalizing items supply with
  | nil => rfl
  | cons path paths ih =>
      rw [List.mem_cons, not_or] at h
      refine (ih h.2).trans ?_
      rw [Entries.get?_put, if_neg (Ne.symm h.1)]

theorem get?_createOver_of_mem {supply : IdSupply} {paths : List Text} (h : key ∈ paths) :
    ∃ n, supply.next ≤ n ∧ n < supply.next + paths.length ∧
      Entries.get? (createOver workingDirectory items supply paths).1 key =
        some (Item.create (IdSupply.idOf n) workingDirectory key) := by
  induction paths generalizing items supply with
  | nil => cases h
  | cons path paths ih =>
      rw [List.length_cons]
      by_cases later : key ∈ paths
      · obtain ⟨n, least, most, found⟩ := @ih _ supply.take.2 later
        change supply.next + 1 ≤ n at least
        change n < supply.next + 1 + paths.length at most
        exact ⟨n, by omega, by omega, found⟩
      · obtain rfl := (List.mem_cons.mp h).resolve_right later
        refine ⟨supply.next, by omega, by omega, (get?_createOver_of_notMem later).trans ?_⟩
        rw [Entries.get?_put, if_pos rfl]

variable {supply : IdSupply} {paths : List Text}

theorem nodup_create (workingDirectory : Text) (paths : List Text) (supply : IdSupply) :
    (Entries.keys (create workingDirectory paths supply).1).Nodup :=
  nodup_createOver workingDirectory (by simp) supply paths

/-- There is a new item for each of the paths, and no other. Its identity is from the supply. -/
theorem get?_create (workingDirectory : Text) (h : key ∈ paths) (supply : IdSupply) :
    ∃ n, supply.next ≤ n ∧ n < supply.next + paths.length ∧
      Entries.get? (create workingDirectory paths supply).1 key =
        some (Item.create (IdSupply.idOf n) workingDirectory key) :=
  get?_createOver_of_mem h

theorem mem_keys_create :
    key ∈ Entries.keys (create workingDirectory paths supply).1 ↔ key ∈ paths := by
  rw [Entries.mem_keys_iff]
  constructor
  · rintro ⟨item, found⟩
    by_contra h
    cases (get?_createOver_of_notMem h).symm.trans found
  · intro h
    obtain ⟨_, _, _, found⟩ := get?_create workingDirectory h supply
    exact ⟨_, found⟩

theorem eq_create_of_mem {e : Text × Item}
    (he : e ∈ (create workingDirectory paths supply).1) :
    e.1 ∈ paths ∧ ∃ id, e.2 = Item.create id workingDirectory e.1 := by
  have hkey := mem_keys_create.mp (Entries.mem_keys_of_mem he)
  obtain ⟨n, _, _, found⟩ := get?_create workingDirectory hkey supply
  have found' := Entries.get?_of_mem (nodup_create workingDirectory paths supply) he
  exact ⟨hkey, _, Option.some.inj (found'.symm.trans found)⟩

end Creation

end Items

end SourceLedger
