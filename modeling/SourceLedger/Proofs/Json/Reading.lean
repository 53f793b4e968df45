import SourceLedger.Json.Reading
import SourceLedger.Proofs.Results
import SourceLedger.Proofs.Value.Distinct

/-!
# What the reader of documents makes

The items of a list or a table are exactly what the reader of a single item made, and a table is
made by writing its entries one after another. So every value that is read has distinct keys,
however often a key comes in the text.
-/

namespace SourceLedger.Json

namespace Read

open Value (distinct_list distinct_table Distinct)

variable {α : Type} {P : α → Prop} {item : Reader α} {close : Char}

theorem separated_makes (h : Makes P item) :
    Makes (fun as => ∀ a ∈ as, P a) (separated item close) := by
  intro s
  induction hn : s.length using Nat.strongRecOn generalizing s with
  | ind n ih =>
      intro as rest hs
      rw [separated] at hs
      split at hs
      · cases hs
      · next a after ha =>
        split at hs
        · cases hs
        · split_ifs at hs
          · cases hs
            simpa using h s a after ha
          · simp only at hs
            split_ifs at hs with shorter
            · obtain ⟨⟨later, tail⟩, hlater, heq⟩ := map_eq_ok hs
              cases heq
              have := ih _ (hn ▸ shorter) _ rfl later tail hlater
              simpa using ⟨h s a after ha, this⟩
            · cases hs
          · cases hs

theorem enclosed_makes (h : Makes P item) :
    Makes (fun as => ∀ a ∈ as, P a) (enclosed item close) := by
  intro s as rest hs
  rw [enclosed] at hs
  split at hs
  · obtain ⟨⟨a, tail⟩, ha, heq⟩ := map_eq_ok hs
    cases heq
    simpa using h _ a _ ha
  · split_ifs at hs
    · cases hs
      simp
    · exact separated_makes h _ as rest hs

theorem entry_makes {value : Reader Value} (h : Makes Distinct value) :
    Makes (fun e : Text × Value => e.2.Distinct) (entry value) := by
  intro s e rest hs
  unfold entry at hs
  split at hs
  · next tail =>
    obtain ⟨⟨key, after⟩, _, hs⟩ := bind_eq_ok hs
    simp only at hs
    split at hs
    · obtain ⟨⟨v, after'⟩, hvalue, heq⟩ := bind_eq_ok hs
      cases heq
      exact h _ v _ hvalue
    · cases hs
  · cases hs

theorem unsigned_makes (negative : Bool) (start : List Char) :
    Makes Distinct (unsigned negative start) := by
  intro s v rest hs
  unfold unsigned at hs
  simp only at hs
  split_ifs at hs
  · cases hs
  · obtain ⟨v', hint, heq⟩ := bind_eq_ok hs
    cases heq
    unfold integer at hint
    split at hint <;> cases hint
    simp [Distinct]
  · cases hs
    simp [real, Distinct]

theorem atom_makes : Makes Distinct atom := by
  intro s v rest hs
  unfold atom at hs
  split at hs
  · obtain ⟨r, _, heq⟩ := map_eq_ok hs
    cases heq
    exact Value.distinct_text _
  · split at hs
    · next name v' found =>
      cases hs
      have hmem := List.mem_of_find?_eq_some found
      simp only [constants, List.mem_cons, List.not_mem_nil, or_false, Prod.mk.injEq] at hmem
      rcases hmem with ⟨_, rfl⟩ | ⟨_, rfl⟩ | ⟨_, rfl⟩ | ⟨_, rfl⟩ | ⟨_, rfl⟩ | ⟨_, rfl⟩ <;>
        simp [Distinct]
    · unfold number at hs
      split at hs
      · exact unsigned_makes _ _ _ v rest hs
      · exact unsigned_makes _ _ _ v rest hs

/-- A value is an atom, or a container of what is read one level below. -/
theorem value_cases {depth : ℕ} {s : List Char} {v : Value} {rest : List Char}
    (h : value depth s = .ok (v, rest)) :
    atom s = .ok (v, rest) ∨
      (∃ d tail items, depth = d + 1 ∧ enclosed (value d) ']' tail = .ok (items, rest) ∧
        v = .list items) ∨
      ∃ d tail entries, depth = d + 1 ∧
        enclosed (entry (value d)) '\x7d' tail = .ok (entries, rest) ∧
        v = .table (Entries.ofList entries) := by
  unfold value at h
  split at h
  · cases h
  · cases h
  · next d tail =>
    obtain ⟨⟨items, after⟩, hitems, heq⟩ := map_eq_ok h
    cases heq
    exact Or.inr (Or.inl ⟨d, tail, items, rfl, hitems, rfl⟩)
  · next d tail =>
    obtain ⟨⟨entries, after⟩, hentries, heq⟩ := map_eq_ok h
    cases heq
    exact Or.inr (Or.inr ⟨d, tail, entries, rfl, hentries, rfl⟩)
  · exact Or.inl h

theorem value_makes (depth : ℕ) : Makes Distinct (value depth) := by
  induction depth with
  | zero =>
      intro s v rest hs
      rcases value_cases hs with hs | ⟨_, _, _, hd, _⟩ | ⟨_, _, _, hd, _⟩
      · exact atom_makes s v rest hs
      · cases hd
      · cases hd
  | succ depth ih =>
      intro s v rest hs
      rcases value_cases hs with hs | ⟨d, tail, items, hd, hitems, rfl⟩ |
        ⟨d, tail, entries, hd, hentries, rfl⟩
      · exact atom_makes s v rest hs
      · cases hd
        exact distinct_list.mpr (enclosed_makes ih tail items rest hitems)
      · cases hd
        exact Value.Table.distinct_ofList
          (enclosed_makes (entry_makes ih) tail entries rest hentries)

end Read

/-- In a value that was read no table has a key twice. -/
theorem distinct_of_read {s : List Char} {v : Value} (h : read s = .ok v) : v.Distinct := by
  unfold read at h
  split at h
  · cases h
  · obtain ⟨⟨v', after⟩, hvalue, h⟩ := bind_eq_ok h
    simp only at h
    split at h
    · cases h
      exact Read.value_makes maxDepth _ v after hvalue
    · cases h

end SourceLedger.Json
