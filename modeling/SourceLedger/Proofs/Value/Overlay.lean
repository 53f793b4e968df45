import SourceLedger.Proofs.Value.Distinct

/-!
# Dotted look-up in merged tables

A merge goes down two tables at once, a look-up goes down one of them key by key. So what is found
in a merged table depends on how far the keys lead in the override: to a value, which is laid over
what they lead to in the base; out of the tables, and then they lead nowhere; or to a table without
the next key, where only the base counts. `follow?_overlay` says this for the first case, and
`Leaves` and `Misses` are the two others.
-/

namespace SourceLedger

namespace Value

/-- The keys lead to a value that is no table, and there are more of them. -/
def Leaves (v : Value) (path : List Text) : Prop :=
  ∃ front key back w, path = front ++ key :: back ∧ v.follow? front = some w ∧ w.isTable = false

/-- The keys lead to a table that does not have the next of them. -/
def Misses (v : Value) (path : List Text) : Prop :=
  ∃ front key back es, path = front ++ key :: back ∧ v.follow? front = some (.table es) ∧
    Entries.get? es key = none

theorem asTable?_eq_none {v : Value} (h : v.isTable = false) : v.asTable? = none := by
  cases v with
  | table es => cases h
  | _ => rfl

theorem follow?_cons_of_not_isTable {v : Value} (h : v.isTable = false) (key : Text)
    (rest : List Text) : v.follow? (key :: rest) = none := by
  cases v with
  | table es => cases h
  | _ => rfl

theorem follow?_cons_table (es : Table) (key : Text) (rest : List Text) :
    (table es).follow? (key :: rest) = (Entries.get? es key).bind (·.follow? rest) := by
  rw [follow?]
  cases Entries.get? es key <;> rfl

/-- Keys that lead on from a value lead first to an entry of a table. -/
theorem follow?_cons_eq_some {v w : Value} {key : Text} {rest : List Text}
    (h : v.follow? (key :: rest) = some w) :
    ∃ es u, v = .table es ∧ Entries.get? es key = some u ∧ u.follow? rest = some w := by
  cases v with
  | table es =>
      rw [follow?_cons_table] at h
      obtain ⟨u, found, leads⟩ := Option.bind_eq_some_iff.mp h
      exact ⟨es, u, rfl, found, leads⟩
  | _ => cases h

theorem distinct_of_follow? {v w : Value} {path : List Text} (distinct : v.Distinct)
    (h : v.follow? path = some w) : w.Distinct := by
  induction path generalizing v with
  | nil =>
      rw [follow?_nil] at h
      cases h
      exact distinct
  | cons key rest ih =>
      obtain ⟨es, u, rfl, found, leads⟩ := follow?_cons_eq_some h
      exact ih (Table.Distinct.get? distinct found) leads

/-- Keys that lead nowhere leave the tables or come to one that misses the next. -/
theorem follow?_eq_none_iff {v : Value} {path : List Text} :
    v.follow? path = none ↔ Leaves v path ∨ Misses v path := by
  constructor
  · intro h
    induction path generalizing v with
    | nil => simp at h
    | cons key rest ih =>
        cases isTable : v.isTable with
        | false => exact Or.inl ⟨[], key, rest, v, rfl, follow?_nil v, isTable⟩
        | true =>
            cases v with
            | table es =>
                cases found : Entries.get? es key with
                | none => exact Or.inr ⟨[], key, rest, es, rfl, follow?_nil _, found⟩
                | some u =>
                    have down : ∀ path, (table es).follow? (key :: path) = u.follow? path := by
                      intro path
                      rw [follow?_cons_table, found]
                      rfl
                    rw [down] at h
                    rcases ih h with ⟨front, k, back, w, rfl, leads, other⟩ |
                      ⟨front, k, back, later, rfl, leads, misses⟩
                    · exact Or.inl ⟨key :: front, k, back, w, rfl, (down front).trans leads, other⟩
                    · exact Or.inr
                        ⟨key :: front, k, back, later, rfl, (down front).trans leads, misses⟩
            | _ => cases isTable
  · rintro (⟨front, key, back, w, rfl, leads, other⟩ | ⟨front, key, back, es, rfl, leads, misses⟩)
    · rw [follow?_append, leads]
      exact follow?_cons_of_not_isTable other key back
    · rw [follow?_append, leads, Option.bind_some, follow?_cons_table, misses]
      rfl

section Entries

variable {later : List (Text × Value)}

/-- An entry of the override is laid over that of the base, and the others are left alone. -/
theorem get?_overlayEntries (nodup : (Entries.keys later).Nodup) (base : List (Text × Value))
    (key : Text) :
    Entries.get? (overlayEntries base later) key =
      match Entries.get? later key with
      | some v => some (overlay (Entries.get? base key) v)
      | none => Entries.get? base key := by
  induction later generalizing base with
  | nil => rw [overlayEntries, Entries.get?]
  | cons e later ih =>
      obtain ⟨k, v⟩ := e
      obtain ⟨new, nodup⟩ := List.nodup_cons.mp nodup
      rw [overlayEntries, ih nodup, Entries.get?_put, Entries.get?]
      by_cases same : k = key
      · subst same
        rw [if_pos rfl, if_pos rfl, Entries.get?_eq_none_iff.mpr new]
      · rw [if_neg same, if_neg same]

theorem keys_overlayEntries (nodup : (Entries.keys later).Nodup) (base : List (Text × Value)) :
    Entries.keys (overlayEntries base later) =
      Entries.keys base ++ (Entries.keys later).filter (· ∉ Entries.keys base) := by
  induction later generalizing base with
  | nil => simp [overlayEntries]
  | cons e later ih =>
      obtain ⟨k, v⟩ := e
      obtain ⟨new, nodup⟩ := List.nodup_cons.mp nodup
      rw [overlayEntries, ih nodup, Entries.keys_put, Entries.keys_cons]
      by_cases old : k ∈ Entries.keys base
      · simp [old]
      · have others : ∀ key ∈ Entries.keys later, key ≠ k := by
          rintro key mem rfl
          exact new mem
        have same : (Entries.keys later).filter (· ∉ Entries.keys base ++ [k]) =
            (Entries.keys later).filter (· ∉ Entries.keys base) := by
          apply List.filter_congr
          intro key mem
          simp [others key mem]
        simp only [old, if_false, same]
        simp [old]

end Entries

section Overlay

variable {override : Value} {path : List Text}

/-- The step down of a look-up in an overlay. -/
theorem follow?_overlay_cons {later : List (Text × Value)} (nodup : (Entries.keys later).Nodup)
    (base : Option Value) (key : Text) (rest : List Text) :
    (overlay base (.table later)).follow? (key :: rest) =
      match Entries.get? later key with
      | some v => (overlay (base.bind (·.follow? [key])) v).follow? rest
      | none => base.bind (·.follow? (key :: rest)) := by
  rw [overlay_table, follow?_cons_table]
  cases isTable : base.bind asTable? with
  | none =>
      have nothing : ∀ path, base.bind (·.follow? (key :: path)) = none := by
        intro path
        rw [Option.bind_eq_none_iff]
        rintro b rfl
        cases b with
        | table es => cases isTable
        | _ => rfl
      rw [nothing, nothing, Option.elim_none]
      cases Entries.get? later key with
      | none => rfl
      | some v => cases v <;> rfl
  | some es =>
      obtain ⟨b, rfl, isTable⟩ := Option.bind_eq_some_iff.mp isTable
      obtain rfl := eq_table_of_asTable? isTable
      simp only [Option.elim_some, Option.bind_some, get?_overlayEntries nodup, follow?_cons_table]
      cases Entries.get? later key with
      | none => rfl
      | some v => cases Entries.get? es key <;> simp

theorem follow?_overlay (distinct : override.Distinct) (base : Option Value) {v : Value}
    (leads : override.follow? path = some v) :
    (overlay base override).follow? path = some (overlay (base.bind (·.follow? path)) v) := by
  induction path generalizing base override with
  | nil =>
      rw [follow?_nil] at leads ⊢
      cases leads
      cases base <;> simp
  | cons key rest ih =>
      obtain ⟨later, u, rfl, found, leads⟩ := follow?_cons_eq_some leads
      have distinct : Table.Distinct later := distinct
      rw [follow?_overlay_cons distinct.nodup, found]
      simp only
      rw [ih (distinct.get? found) _ leads, Option.bind_assoc]
      simp only [← follow?_append, List.singleton_append]

theorem follow?_overlay_of_leaves (distinct : override.Distinct) (base : Option Value)
    (leaves : Leaves override path) : (overlay base override).follow? path = none := by
  obtain ⟨front, key, back, w, rfl, leads, other⟩ := leaves
  rw [follow?_append, follow?_overlay distinct base leads, Option.bind_some,
    overlay_atom _ (asTable?_eq_none other)]
  exact follow?_cons_of_not_isTable other key back

theorem follow?_overlay_of_misses (distinct : override.Distinct) (base : Option Value)
    (misses : Misses override path) :
    (overlay base override).follow? path = base.bind (·.follow? path) := by
  obtain ⟨front, key, back, es, rfl, leads, missing⟩ := misses
  have distinctTable : Table.Distinct es := distinct_of_follow? distinct leads
  rw [follow?_append, follow?_overlay distinct base leads, Option.bind_some,
    follow?_overlay_cons distinctTable.nodup, missing]
  simp only [Option.bind_assoc, follow?_append]

end Overlay

section Merge

variable {override : Table} {path : List Text} {key : Text} {v : Value}

theorem table_merge (base override : Table) :
    table (merge base override) = overlay (some (.table base)) (.table override) := by
  rw [overlay, merge]

theorem follow?_merge (base : Table) (distinct : Table.Distinct override)
    (leads : (table override).follow? path = some v) :
    (table (merge base override)).follow? path =
      some (overlay ((table base).follow? path) v) := by
  rw [table_merge, follow?_overlay distinct _ leads]
  rfl

theorem lookup_merge_of_found (base : Table) (distinct : Table.Distinct override)
    (default : Value) (leads : (table override).lookup? key = some v) :
    (table (merge base override)).lookup key default =
      overlay ((table base).lookup? key) v := by
  rw [lookup, lookup?, follow?_merge base distinct leads]
  rfl

theorem lookup_merge_of_leaves (base : Table) (distinct : Table.Distinct override)
    (default : Value) (leaves : Leaves (.table override) (Text.splitOn (.scalar '.') key)) :
    (table (merge base override)).lookup key default = default := by
  rw [lookup, lookup?, table_merge, follow?_overlay_of_leaves distinct _ leaves]
  rfl

theorem lookup_merge_of_misses (base : Table) (distinct : Table.Distinct override)
    (default : Value) (misses : Misses (.table override) (Text.splitOn (.scalar '.') key)) :
    (table (merge base override)).lookup key default = (table base).lookup key default := by
  rw [lookup, lookup?, table_merge, follow?_overlay_of_misses distinct _ misses]
  rfl

/-- Where both sides have tables, the merged one has the keys of the base and then new ones. -/
theorem exists_table_merge (base : Table) (distinct : Table.Distinct override) {b t : Table}
    (below : (table base).follow? path = some (.table b))
    (leads : (table override).follow? path = some (.table t)) :
    ∃ m, (table (merge base override)).follow? path = some (.table m) ∧
      Entries.keys m = Entries.keys b ++ (Entries.keys t).filter (· ∉ Entries.keys b) := by
  have distinctTable : Table.Distinct t := distinct_of_follow? distinct leads
  refine ⟨merge b t, ?_, keys_overlayEntries distinctTable.nodup b⟩
  rw [follow?_merge base distinct leads, below, table_merge]

/-- What is found in a merged table at a dotted key: a value of the override that is no table; a
table of the override, laid over the one of the base if there is one; nothing, where the keys leave
the tables of the override; and what the base has, where a table of the override misses the next
key. One of these is the case. Wherever both sides have tables, the keys of the merged one are
those of the base, followed by the new ones of the override. -/
theorem lookup_merge (base : Table) {override : Table} (distinct : Table.Distinct override)
    (key : Text) (default : Value) :
    let path := Text.splitOn (.scalar '.') key
    let found := (table (merge base override)).lookup key default
    (∀ v, (table override).lookup? key = some v → v.isTable = false → found = v) ∧
    (∀ t, (table override).lookup? key = some (.table t) →
      (∀ b, (table base).lookup? key = some (.table b) → found = .table (merge b t)) ∧
      ((∀ b, (table base).lookup? key ≠ some (.table b)) → found = .table t)) ∧
    (Leaves (.table override) path → found = default) ∧
    (Misses (.table override) path → found = (table base).lookup key default) ∧
    ((∃ v, (table override).lookup? key = some v) ∨ Leaves (.table override) path ∨
      Misses (.table override) path) ∧
    ∀ keys b t, (table base).follow? keys = some (.table b) →
      (table override).follow? keys = some (.table t) →
      ∃ m, (table (merge base override)).follow? keys = some (.table m) ∧
        Entries.keys m =
          Entries.keys b ++ (Entries.keys t).filter (· ∉ Entries.keys b) := by
  intro path found
  refine ⟨?_, ?_, lookup_merge_of_leaves base distinct default,
    lookup_merge_of_misses base distinct default, ?_, ?_⟩
  · intro v leads other
    exact (lookup_merge_of_found base distinct default leads).trans
      (overlay_atom _ (asTable?_eq_none other))
  · intro t leads
    have laid := lookup_merge_of_found base distinct default leads
    constructor
    · intro b below
      rw [below, ← table_merge] at laid
      exact laid
    · intro none
      refine laid.trans ?_
      rw [overlay]
      intro b later below
      exact absurd below (none b)
  · cases leads : (table override).lookup? key with
    | some v => exact Or.inl ⟨v, rfl⟩
    | none => exact Or.inr (follow?_eq_none_iff.mp leads)
  · intro keys b t below leads
    exact exists_table_merge base distinct below leads

/-- Tables that clash in every way: a table over a table, over a number and over nothing, and a
number over a table. -/
theorem lookup_merge_clashes :
    let base : Table := [("a", .table [("b", .int 1), ("c", .table [("y", .null)])]),
      ("d", .int 2), ("e", .table [("z", .int 3)])]
    let override : Table := [("a", .table [("c", .table [("x", .int 4)])]),
      ("d", .table [("f", .bool false)]), ("e", .int 0), ("g", .table [])]
    let merged := table (merge base override)
    Table.Distinct override ∧
      merged.lookup "a.b" .null = .int 1 ∧
      merged.lookup "a.c" .null = .table (merge [("y", .null)] [("x", .int 4)]) ∧
      merged.lookup "d.f" .null = .bool false ∧ merged.lookup "e.z" .null = .null := by
  intro base override merged
  have distinct : Table.Distinct override := by
    have four : (Entries.keys override).Nodup := by decide
    refine distinct_table.mpr ⟨four, ?_⟩
    simp [override, Entries.keys, Distinct, DistinctEntries]
  have nested : (table override).lookup? "a.c" = some (.table [("x", .int 4)]) := rfl
  have flag : (table override).lookup? "d.f" = some (.bool false) := rfl
  have misses : Misses (.table override) (Text.splitOn (.scalar '.') "a.b") :=
    ⟨["a"], "b", [], _, rfl, rfl, rfl⟩
  have leaves : Leaves (.table override) (Text.splitOn (.scalar '.') "e.z") :=
    ⟨["e"], "z", [], .int 0, rfl, rfl, rfl⟩
  refine ⟨distinct, ?_, ?_, ?_, ?_⟩
  · exact (lookup_merge base distinct "a.b" .null).2.2.2.1 misses
  · exact ((lookup_merge base distinct "a.c" .null).2.1 _ nested).1 _ rfl
  · exact (lookup_merge base distinct "d.f" .null).1 _ flag rfl
  · exact (lookup_merge base distinct "e.z" .null).2.2.1 leaves

end Merge

end Value

end SourceLedger
