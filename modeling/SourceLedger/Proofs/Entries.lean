import Mathlib.Data.List.Induction
import Mathlib.Data.List.Nodup
import SourceLedger.Entries

/-!
# Laws of entries

A look-up depends on the keys and on the entry that was written last under a key. The order in
which keys were first written is kept by every later writing, and a table in which no key occurs
twice is what writing its entries one after another gives.
-/

namespace SourceLedger.Entries

variable {α : Type u} {β : Type v}

@[simp] theorem keys_nil : keys ([] : Entries α) = [] := rfl

@[simp] theorem keys_cons (e : Text × α) (es : Entries α) : keys (e :: es) = e.1 :: keys es := rfl

@[simp] theorem keys_append (es later : Entries α) : keys (es ++ later) = keys es ++ keys later :=
  List.map_append

theorem mem_keys_of_mem {es : Entries α} {e : Text × α} (h : e ∈ es) : e.1 ∈ es.keys :=
  List.mem_map_of_mem h

theorem get?_eq_none_iff {es : Entries α} {key : Text} : es.get? key = none ↔ key ∉ es.keys := by
  induction es with
  | nil => simp [get?]
  | cons e rest ih =>
      obtain ⟨k, v⟩ := e
      by_cases h : k = key
      · simp [get?, h]
      · simp [get?, h, Ne.symm h, ih]

theorem mem_keys_iff {es : Entries α} {key : Text} : key ∈ es.keys ↔ ∃ v, es.get? key = some v := by
  rw [← not_iff_not, ← get?_eq_none_iff]
  simp [Option.eq_none_iff_forall_ne_some]

theorem contains_iff {es : Entries α} {key : Text} : es.contains key = true ↔ key ∈ es.keys := by
  rw [contains, Option.isSome_iff_exists, mem_keys_iff]

theorem mem_of_get? {es : Entries α} {key : Text} {v : α} (h : es.get? key = some v) :
    (key, v) ∈ es := by
  induction es with
  | nil => cases h
  | cons e rest ih =>
      obtain ⟨k, w⟩ := e
      rw [get?] at h
      split_ifs at h with hk
      · cases h
        exact hk ▸ List.mem_cons_self
      · exact List.mem_cons_of_mem _ (ih h)

theorem get?_of_mem {es : Entries α} (nodup : es.keys.Nodup) {key : Text} {v : α}
    (h : (key, v) ∈ es) : es.get? key = some v := by
  induction es with
  | nil => cases h
  | cons e rest ih =>
      obtain ⟨k, w⟩ := e
      obtain ⟨hnot, nodup⟩ := List.nodup_cons.mp nodup
      rcases List.mem_cons.mp h with heq | h
      · cases heq
        simp [get?]
      · have hk : k ≠ key := by
          rintro rfl
          exact hnot (mem_keys_of_mem (e := (k, v)) h)
        rw [get?, if_neg hk]
        exact ih nodup h

theorem put_of_notMem {es : Entries α} {key : Text} (h : key ∉ es.keys) (v : α) :
    es.put key v = es ++ [(key, v)] := by
  induction es with
  | nil => rfl
  | cons e rest ih =>
      obtain ⟨k, w⟩ := e
      rw [keys_cons, List.mem_cons, not_or] at h
      rw [put, if_neg (Ne.symm h.1), ih h.2]
      rfl

theorem put_of_mem {es : Entries α} (nodup : es.keys.Nodup) {key : Text} (h : key ∈ es.keys)
    (v : α) : es.put key v = es.map fun e => if e.1 = key then (e.1, v) else e := by
  induction es with
  | nil => cases h
  | cons e rest ih =>
      obtain ⟨k, w⟩ := e
      obtain ⟨hnot, nodup⟩ := List.nodup_cons.mp nodup
      by_cases hk : k = key
      · subst hk
        have same : (rest.map fun e => if e.1 = k then (e.1, v) else e) = rest :=
          (List.map_congr_left fun e he => if_neg fun heq : e.1 = k =>
            hnot (List.mem_map.mpr ⟨e, he, heq⟩)).trans
            (List.map_id rest)
        rw [put, if_pos rfl, List.map_cons, same, if_pos rfl]
      · have h := (List.mem_cons.mp h).resolve_left (Ne.symm hk)
        rw [put, if_neg hk, List.map_cons, if_neg hk, ih nodup h]

/-- Writing what is there already changes nothing. -/
theorem put_of_get? {es : Entries α} {key : Text} {v : α} (h : es.get? key = some v) :
    es.put key v = es := by
  induction es with
  | nil => cases h
  | cons e rest ih =>
      obtain ⟨k, w⟩ := e
      rw [get?] at h
      rw [put]
      split_ifs at h ⊢
      · rw [Option.some.inj h]
      · rw [ih h]

theorem nodup_put {es : Entries α} (h : es.keys.Nodup) (key : Text) (v : α) :
    (es.put key v).keys.Nodup := by
  rw [keys_put]
  split_ifs with hk
  · exact h
  · exact List.nodup_append.mpr ⟨h, by simp, by rintro a ha b hb rfl; simp_all⟩

theorem mem_keys_put {es : Entries α} {key other : Text} {v : α} :
    other ∈ (es.put key v).keys ↔ other ∈ es.keys ∨ other = key := by
  rw [keys_put]
  split_ifs with h
  · constructor
    · exact Or.inl
    · rintro (h' | rfl)
      · exact h'
      · exact h
  · simp

/-- Every entry of a table that was written to is an old one or the one that was written. -/
theorem mem_put {es : Entries α} {key : Text} {v : α} {e : Text × α} (h : e ∈ es.put key v) :
    e ∈ es ∨ e = (key, v) := by
  induction es with
  | nil => exact Or.inr (List.mem_singleton.mp h)
  | cons e' rest ih =>
      obtain ⟨k, w⟩ := e'
      rw [put] at h
      split_ifs at h with hk
      · rcases List.mem_cons.mp h with rfl | h
        · exact Or.inr (by rw [hk])
        · exact Or.inl (List.mem_cons_of_mem _ h)
      · rcases List.mem_cons.mp h with rfl | h
        · exact Or.inl List.mem_cons_self
        · exact (ih h).imp_left (List.mem_cons_of_mem _)

theorem put_ne_nil (es : Entries α) (key : Text) (v : α) : es.put key v ≠ [] := by
  cases es with
  | nil => exact List.cons_ne_nil _ _
  | cons e rest =>
      rw [put]
      split_ifs <;> exact List.cons_ne_nil _ _

@[simp] theorem update_nil (es : Entries α) : es.update [] = es := rfl

@[simp] theorem update_cons (es : Entries α) (e : Text × α) (later : Entries α) :
    es.update (e :: later) = (es.put e.1 e.2).update later := rfl

theorem update_ne_nil {es : Entries α} (h : es ≠ []) (later : Entries α) :
    es.update later ≠ [] := by
  induction later generalizing es with
  | nil => exact h
  | cons e later ih => exact ih (put_ne_nil es e.1 e.2)

theorem nodup_update {es : Entries α} (h : es.keys.Nodup) (later : Entries α) :
    (es.update later).keys.Nodup := by
  induction later generalizing es with
  | nil => exact h
  | cons e later ih => exact ih (nodup_put h e.1 e.2)

theorem mem_keys_update {es later : Entries α} {key : Text} :
    key ∈ (es.update later).keys ↔ key ∈ es.keys ∨ key ∈ later.keys := by
  induction later generalizing es with
  | nil => simp
  | cons e later ih => rw [update_cons, ih, mem_keys_put, keys_cons, List.mem_cons, or_assoc]

theorem mem_update {es later : Entries α} {e : Text × α} (h : e ∈ es.update later) :
    e ∈ es ∨ e ∈ later := by
  induction later generalizing es with
  | nil => exact Or.inl h
  | cons e' later ih =>
      rcases ih h with h | h
      · rcases mem_put h with h | rfl
        · exact Or.inl h
        · exact Or.inr List.mem_cons_self
      · exact Or.inr (List.mem_cons_of_mem _ h)

/-- Keys that are there stay in their order, before all that are new. -/
theorem keys_prefix_update (es later : Entries α) : es.keys <+: (es.update later).keys := by
  induction later generalizing es with
  | nil => exact List.prefix_refl _
  | cons e later ih =>
      refine List.IsPrefix.trans ?_ (ih (es.put e.1 e.2))
      rw [keys_put]
      split_ifs
      · exact List.prefix_refl _
      · exact List.prefix_append _ _

/-- Keys that are new come behind all that are there, in their own order. -/
theorem keys_update {es later : Entries α} (nodup : later.keys.Nodup) :
    (es.update later).keys = es.keys ++ later.keys.filter (· ∉ es.keys) := by
  induction later generalizing es with
  | nil => simp
  | cons e later ih =>
      obtain ⟨hnot, nodup⟩ := List.nodup_cons.mp nodup
      rw [update_cons, ih nodup, keys_put, keys_cons]
      split_ifs with old
      · rw [List.filter_cons_of_neg (by simpa using old)]
      · have same : (keys later).filter (· ∉ keys es ++ [e.1]) =
            (keys later).filter (· ∉ keys es) := by
          refine List.filter_congr fun key mem => ?_
          have ne : key ≠ e.1 := ne_of_mem_of_not_mem mem hnot
          simp [ne]
        rw [List.filter_cons_of_pos (by simpa using old), same, List.append_assoc,
          List.singleton_append]

theorem get?_update_of_notMem {es later : Entries α} {key : Text} (h : key ∉ later.keys) :
    (es.update later).get? key = es.get? key := by
  induction later generalizing es with
  | nil => rfl
  | cons e later ih =>
      rw [keys_cons, List.mem_cons, not_or] at h
      rw [update_cons, ih h.2, get?_put, if_neg (Ne.symm h.1)]

/-- What is written last counts. -/
theorem get?_update {es later : Entries α} (nodup : later.keys.Nodup) (key : Text) :
    (es.update later).get? key = (later.get? key).or (es.get? key) := by
  induction later generalizing es with
  | nil => rfl
  | cons e later ih =>
      obtain ⟨k, v⟩ := e
      obtain ⟨hnot, nodup⟩ := List.nodup_cons.mp nodup
      rw [update_cons, ih nodup, get?_put, get?]
      split_ifs with hk
      · subst hk
        rw [get?_eq_none_iff.mpr hnot]
        rfl
      · rfl

/-- Entries that were updated are found as in the later ones if the later ones have all keys. -/
theorem get?_update_eq_iff {es later : Entries α} (nodup : later.keys.Nodup) :
    (∀ key, (es.update later).get? key = later.get? key) ↔ ∀ key ∈ es.keys, key ∈ later.keys := by
  simp only [get?_update nodup]
  constructor
  · intro same key old
    obtain ⟨v, hv⟩ := mem_keys_iff.mp old
    by_contra absent
    have none := same key
    rw [get?_eq_none_iff.mpr absent, Option.none_or, hv] at none
    cases none
  · intro covers key
    cases new : later.get? key with
    | some v => rfl
    | none =>
        have absent := get?_eq_none_iff.mp new
        exact get?_eq_none_iff.mpr fun old => absent (covers key old)

theorem update_of_nodup {es later : Entries α} (h : (keys (es ++ later)).Nodup) :
    es.update later = es ++ later := by
  induction later generalizing es with
  | nil => simp
  | cons e later ih =>
      have hnot : e.1 ∉ es.keys := by
        rw [keys_append, keys_cons] at h
        exact fun hmem => (List.nodup_append.mp h).2.2 _ hmem _ List.mem_cons_self rfl
      rw [update_cons, put_of_notMem hnot, ih (by simpa using h), List.append_assoc]
      rfl

theorem put_append_cons {es : Entries α} {key : Text} (h : key ∉ es.keys) (v w : α)
    (later : Entries α) : (es ++ (key, w) :: later).put key v = es ++ (key, v) :: later := by
  induction es with
  | nil => exact if_pos rfl
  | cons e rest ih =>
      obtain ⟨k, u⟩ := e
      rw [keys_cons, List.mem_cons, not_or] at h
      rw [List.cons_append, put, if_neg (Ne.symm h.1), ih h.2]
      rfl

/-- Writing all keys anew leaves nothing of what was there. -/
theorem update_of_keys_eq {es later : Entries α} (nodup : later.keys.Nodup)
    (h : es.keys = later.keys) : es.update later = later := by
  have all : ∀ front : Entries α, (keys (front ++ later)).Nodup →
      (front ++ es).update later = front ++ later := by
    clear nodup
    induction later generalizing es with
    | nil =>
        obtain rfl : es = [] := List.map_eq_nil_iff.mp h
        exact fun front _ => rfl
    | cons e later ih =>
        obtain ⟨key, v⟩ := e
        intro front nodup
        cases es with
        | nil => cases h
        | cons e' es =>
            obtain ⟨key', w⟩ := e'
            obtain ⟨hkey, hkeys⟩ := List.cons.inj h
            obtain rfl : key' = key := hkey
            have hnot : key' ∉ front.keys := by
              rw [keys_append, keys_cons] at nodup
              exact fun hmem => (List.nodup_append.mp nodup).2.2 _ hmem _ List.mem_cons_self rfl
            have rest := ih hkeys (front ++ [(key', v)]) (by simpa using nodup)
            rw [update_cons, put_append_cons hnot]
            simpa using rest
  exact all [] nodup

/-- Writing the entries of a table one after another gives the table. -/
theorem ofList_of_nodup {es : Entries α} (h : es.keys.Nodup) : ofList es = es := by
  rw [ofList, update_of_nodup (by simpa using h), List.nil_append]

theorem nodup_ofList (es : List (Text × α)) : (ofList es).keys.Nodup :=
  nodup_update (show (Entries.keys ([] : Entries α)).Nodup from List.nodup_nil) es

theorem mem_ofList {es : List (Text × α)} {e : Text × α} (h : e ∈ ofList es) : e ∈ es :=
  (mem_update h).resolve_left List.not_mem_nil

/-- Where a key is written with one value only, that value is found. -/
theorem get?_ofList {es : List (Text × α)} {key : Text} {v : α} (h : (key, v) ∈ es)
    (only : ∀ u, (key, u) ∈ es → u = v) : (ofList es).get? key = some v := by
  have written : key ∈ (ofList es).keys := mem_keys_update.mpr (Or.inr (mem_keys_of_mem h))
  obtain ⟨u, hu⟩ := mem_keys_iff.mp written
  rw [hu, only u (mem_ofList (mem_of_get? hu))]

theorem ofList_concat (es : List (Text × α)) (e : Text × α) :
    ofList (es ++ [e]) = (ofList es).put e.1 e.2 :=
  List.foldl_append

/-- What is found under a key is what was written there last. -/
theorem get?_ofList_eq_some_iff {es : List (Text × α)} {key : Text} {v : α} :
    (ofList es).get? key = some v ↔
      ∃ before after, es = before ++ (key, v) :: after ∧ key ∉ keys after := by
  constructor
  · intro found
    induction es using List.reverseRecOn with
    | nil => cases found
    | append_singleton es e ih =>
        rw [ofList_concat, get?_put] at found
        split_ifs at found with here
        · cases found
          exact ⟨es, [], here ▸ rfl, List.not_mem_nil⟩
        · obtain ⟨before, after, rfl, absent⟩ := ih found
          refine ⟨before, after ++ [e], by simp, ?_⟩
          rw [keys_append, List.mem_append, keys_cons, keys_nil, List.mem_singleton]
          exact not_or.mpr ⟨absent, Ne.symm here⟩
  · rintro ⟨before, after, rfl, absent⟩
    have split : ofList (before ++ (key, v) :: after) = ((ofList before).put key v).update after :=
      List.foldl_append
    rw [split, get?_update_of_notMem absent, get?_put, if_pos rfl]

@[simp] theorem keys_mapValues (f : α → β) (es : Entries α) : (es.mapValues f).keys = es.keys := by
  simp [keys, mapValues]

theorem forall_mem_mapValues {f : α → β} {es : Entries α} {P : Text × β → Prop} :
    (∀ e ∈ es.mapValues f, P e) ↔ ∀ e ∈ es, P (e.1, f e.2) :=
  List.forall_mem_map

theorem get?_mapValues (f : α → β) (es : Entries α) (key : Text) :
    (es.mapValues f).get? key = (es.get? key).map f := by
  induction es with
  | nil => rfl
  | cons e rest ih =>
      obtain ⟨k, v⟩ := e
      change get? ((k, f v) :: mapValues f rest) key = _
      rw [get?, get?]
      split_ifs
      · rfl
      · exact ih

theorem mapValues_put (f : α → β) (es : Entries α) (key : Text) (v : α) :
    (es.put key v).mapValues f = (es.mapValues f).put key (f v) := by
  induction es with
  | nil => rfl
  | cons e rest ih =>
      obtain ⟨k, w⟩ := e
      change mapValues f (if k = key then _ else _) = if k = key then _ else _
      split_ifs
      · rfl
      · exact congrArg ((k, f w) :: ·) ih

theorem mapValues_update (f : α → β) (es later : Entries α) :
    (es.update later).mapValues f = (es.mapValues f).update (later.mapValues f) := by
  induction later generalizing es with
  | nil => rfl
  | cons e later ih =>
      rw [update_cons, ih, mapValues_put]
      rfl

theorem putDefault_of_mem {es : Entries α} {key : Text} (h : key ∈ es.keys) (v : α) :
    es.putDefault key v = es :=
  if_pos (contains_iff.mpr h)

theorem mem_keys_putDefault {es : Entries α} {key other : Text} {v : α} :
    other ∈ (es.putDefault key v).keys ↔ other ∈ es.keys ∨ other = key := by
  unfold putDefault
  split_ifs with h
  · rw [contains_iff] at h
    refine ⟨Or.inl, ?_⟩
    rintro (h' | rfl)
    · exact h'
    · exact h
  · exact mem_keys_put

end SourceLedger.Entries
