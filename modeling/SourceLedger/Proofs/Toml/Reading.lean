import SourceLedger.Proofs.Results
import SourceLedger.Proofs.Value.Distinct
import SourceLedger.Proofs.Value.Scalar
import SourceLedger.Toml.Reading

/-!
# What the reader of configurations makes

Statements write into tables within tables, and each writing goes through `Entries.put`. So whatever
statements a table is read from, it has every inherited property that the values without parts have:
at every depth its keys are distinct, and its texts are made of characters.
-/

namespace SourceLedger.Toml

variable {named : Text → Prop} {P : Value → Prop} {t u : Value.Table} {v : Value}

/-- Values that have neither parts nor a text. -/
def isSimple : Value → Bool
  | .bool _ | .int _ | .real _ | .moment _ => true
  | _ => false

/-- An inherited property of all values without parts that can be read. -/
structure Admits (named : Text → Prop) (P : Value → Prop) : Prop extends
    Value.Inherited named P where
  chars (cs : List Char) : named (Text.ofChars cs)
  text {t : Text} (h : named t) : P (.text t)
  simple {v : Value} (h : isSimple v = true) : P v

section Nests

/-- A change that keeps a property of tables. -/
def Keeps (P : Value → Prop) (change : Value.Table → Except Complaint Value.Table) : Prop :=
  ∀ t u, P (.table t) → change t = .ok u → P (.table u)

variable (inherited : Value.Inherited named P)
include inherited

theorem keeps_changeNest {throughLists : Bool}
    {change : Value.Table → Except Complaint Value.Table} (keeps : Keeps P change) {k : Key}
    (names : ∀ part ∈ k, named part) : Keeps P (changeNest throughLists change k) := by
  induction k with
  | nil => exact keeps
  | cons part k ih =>
      obtain ⟨name, names⟩ := List.forall_mem_cons.mp names
      intro t u ht h
      rw [changeNest] at h
      split at h
      · obtain ⟨sub, hsub, rfl⟩ := map_eq_ok h
        exact inherited.put ht name (ih names _ _ inherited.empty hsub)
      · next sub found =>
        obtain ⟨sub', hsub, rfl⟩ := map_eq_ok h
        exact inherited.put ht name (ih names _ _ (inherited.get? ht found) hsub)
      · next items found =>
        have old := inherited.list.mp (inherited.get? ht found)
        split at h
        · next sub last =>
          obtain ⟨sub', hsub, rfl⟩ := map_eq_ok h
          have hsub := ih names _ _ (old _ (List.mem_of_getLast? last)) hsub
          refine inherited.put ht name (inherited.list.mpr fun v hv => ?_)
          rcases List.mem_append.mp hv with hv | hv
          · exact old v (List.dropLast_subset _ hv)
          · obtain rfl := List.mem_singleton.mp hv
            exact hsub
        · cases h
      · cases h

theorem keeps_addEntry {part : Text} (name : named part) (value : P v) (present : Complaint) :
    Keeps P (addEntry part v present) := by
  intro t u ht h
  unfold addEntry at h
  split_ifs at h
  cases h
  exact inherited.put ht name value

theorem keeps_addToList {part : Text} (name : named part) : Keeps P (addToList part) := by
  intro t u ht h
  unfold addToList at h
  split at h
  · cases h
    exact inherited.put ht name (inherited.list.mpr (by simpa using inherited.empty))
  · next items found =>
    cases h
    refine inherited.put ht name (inherited.list.mpr fun v hv => ?_)
    rcases List.mem_append.mp hv with hv | hv
    · exact inherited.list.mp (inherited.get? ht found) v hv
    · obtain rfl := List.mem_singleton.mp hv
      exact inherited.empty
  · cases h

end Nests

section Texts

/-- A text that was read is made of characters. -/
def Spelt (t : Text) : Prop := ∃ cs, t = Text.ofChars cs

theorem basicText_makes : Makes Spelt basicText := by
  intro s t rest h
  obtain ⟨⟨cs, after⟩, _, heq⟩ := map_eq_ok h
  cases heq
  exact ⟨cs, rfl⟩

theorem literalText_makes : Makes Spelt literalText := by
  intro s t rest h
  obtain ⟨⟨cs, after⟩, _, heq⟩ := bind_eq_ok h
  cases heq
  exact ⟨cs, rfl⟩

theorem longBasicText_makes : Makes Spelt longBasicText := by
  intro s t rest h
  obtain ⟨⟨cs, after⟩, _, heq⟩ := bind_eq_ok h
  exact ⟨_, (congrArg Prod.fst (Except.ok.inj heq)).symm⟩

theorem longLiteralText_makes : Makes Spelt longLiteralText := by
  intro s t rest h
  obtain ⟨⟨cs, after⟩, _, heq⟩ := bind_eq_ok h
  exact ⟨_, (congrArg Prod.fst (Except.ok.inj heq)).symm⟩

theorem quotation_makes {s rest : List Char} {r : Except Fault (Text × List Char)} {t : Text}
    (h : quotation? s = some r) (hr : r = .ok (t, rest)) : Spelt t := by
  subst hr
  unfold quotation? at h
  split at h
  · exact longBasicText_makes _ _ _ (Option.some.inj h)
  · exact basicText_makes _ _ _ (Option.some.inj h)
  · exact longLiteralText_makes _ _ _ (Option.some.inj h)
  · exact literalText_makes _ _ _ (Option.some.inj h)
  · cases h

theorem keyPart_makes : Makes Spelt keyPart := by
  intro s t rest h
  unfold keyPart at h
  split at h
  · exact literalText_makes _ _ _ h
  · exact basicText_makes _ _ _ h
  · simp only at h
    split_ifs at h
    · cases h
    · cases h
      exact ⟨_, rfl⟩

theorem key_makes : Makes (fun k => ∀ part ∈ k, Spelt part) key := by
  intro s
  induction hn : s.length using Nat.strongRecOn generalizing s with
  | ind n ih =>
      intro k rest h
      rw [key] at h
      split at h
      · cases h
      · next part after hpart =>
        have first := keyPart_makes _ _ _ hpart
        split at h
        · next later _ =>
          by_cases shorter : (skipBlanks later).length < s.length
          · simp only [dif_pos shorter] at h
            obtain ⟨⟨parts, tail⟩, hparts, heq⟩ := map_eq_ok h
            cases heq
            exact List.forall_mem_cons.mpr ⟨first, ih _ (hn ▸ shorter) _ rfl _ _ hparts⟩
          · simp only [dif_neg shorter] at h
            cases h
        · cases h
          simpa using first

end Texts

section Values

theorem number_makes {s rest : List Char} {r : Except Fault Value}
    (h : number? s = some (r, rest)) (hr : r = .ok v) : isSimple v = true := by
  unfold number? at h
  split at h
  · next found =>
    cases h
    cases hr
    unfold marked? at found
    split at found
    · obtain ⟨base, _, found⟩ := Option.bind_eq_some_iff.mp found
      simp only at found
      split_ifs at found
      obtain ⟨n, _, found⟩ := Option.bind_eq_some_iff.mp found
      cases found
      rfl
    · cases found
  · split at h
    · next found =>
      cases h
      unfold decimal? at found
      simp only at found
      split_ifs at found
      · obtain ⟨rfl, _⟩ := Prod.mk.inj (Option.some.inj found)
        unfold integer at hr
        split_ifs at hr <;> cases hr <;> rfl
      · obtain ⟨rfl, _⟩ := Prod.mk.inj (Option.some.inj found)
        cases hr
        rfl
    · obtain ⟨⟨v', rest'⟩, found, heq⟩ := Option.map_eq_some_iff.mp h
      cases heq
      cases hr
      unfold named? at found
      simp only at found
      split_ifs at found <;> cases found <;> rfl

theorem moment_makes {s rest : List Char} {r : Except Fault Value}
    (h : moment? s = some (r, rest)) (hr : r = .ok v) : isSimple v = true := by
  unfold moment? at h
  split at h
  · simp only at h
    obtain ⟨rfl, _⟩ := Prod.mk.inj (Option.some.inj h)
    split_ifs at hr
    · cases hr
      rfl
    · cases hr
  · obtain ⟨⟨time, rest'⟩, _, heq⟩ := Option.map_eq_some_iff.mp h
    cases heq
    cases hr
    rfl

theorem constant_makes {s rest : List Char} {r : Except Fault Value}
    (h : constant? s = some (r, rest)) (hr : r = .ok v) : isSimple v = true := by
  obtain ⟨⟨name, v'⟩, found, heq⟩ := Option.map_eq_some_iff.mp h
  cases heq
  cases hr
  have hmem := List.mem_of_find?_eq_some found
  simp only [constants, List.mem_cons, List.not_mem_nil, or_false, Prod.mk.injEq] at hmem
  rcases hmem with ⟨_, rfl⟩ | ⟨_, rfl⟩ <;> rfl

variable {read : Reader Value}

theorem arrayItems_makes (h : Makes P read) :
    Makes (fun vs => ∀ v ∈ vs, P v) (arrayItems read) := by
  intro s
  induction hn : s.length using Nat.strongRecOn generalizing s with
  | ind n ih =>
      intro vs rest hs
      rw [arrayItems] at hs
      split at hs
      · cases hs
      · next v after hv =>
        have single : ∀ v' ∈ [v], P v' := by simpa using h s v after hv
        split at hs
        · cases hs
        · cases hs
          exact single
        · split at hs
          · cases hs
          · cases hs
            exact single
          · split_ifs at hs with shorter
            · obtain ⟨⟨later, tail⟩, hlater, heq⟩ := map_eq_ok hs
              cases heq
              have later := ih _ (hn ▸ shorter) _ rfl later _ hlater
              exact List.forall_mem_cons.mpr ⟨h s v after hv, later⟩
            · cases hs
        · cases hs

variable (admits : Admits named P)
include admits

theorem Admits.spelt {t : Text} (h : Spelt t) : named t := by
  obtain ⟨cs, rfl⟩ := h
  exact admits.chars cs

theorem Admits.names {k : Key} (h : ∀ part ∈ k, Spelt part) : ∀ part ∈ k, named part :=
  fun part hpart => admits.spelt (h part hpart)

theorem Admits.last {k : Key} (names : ∀ part ∈ k, named part) : named (k.getLastD []) := by
  rcases k.eq_nil_or_concat with rfl | ⟨before, last, rfl⟩
  · exact admits.chars []
  · rw [List.concat_eq_append, List.getLastD_concat]
    exact names last (by simp)

theorem atom_makes : Makes P atom := by
  intro s v rest h
  unfold atom at h
  split at h
  · next found quoted =>
    obtain ⟨⟨t, after⟩, read, heq⟩ := map_eq_ok h
    cases heq
    exact admits.text (admits.spelt (quotation_makes quoted read))
  · split at h
    · next r after found =>
      obtain ⟨v', hr, heq⟩ := map_eq_ok h
      cases heq
      simp only [Option.orElse_eq_or, Option.orElse_eq_orElse, Option.or_eq_some_iff] at found
      rcases found with (found | ⟨_, found⟩) | ⟨_, found⟩
      · exact admits.simple (constant_makes found hr)
      · exact admits.simple (moment_makes found hr)
      · exact admits.simple (number_makes found hr)
    · cases h

theorem array_makes (h : Makes P read) : Makes P (array read) := by
  intro s v rest hs
  obtain ⟨start, _, hs⟩ := bind_eq_ok hs
  split at hs
  · cases hs
    exact admits.list.mpr (by simp)
  · obtain ⟨⟨vs, after⟩, hvs, heq⟩ := bind_eq_ok hs
    cases heq
    exact admits.list.mpr (arrayItems_makes h _ _ _ hvs)

theorem pair_makes (h : Makes P read) :
    Makes (fun p => (∀ part ∈ p.1, named part) ∧ P p.2) (pair read) := by
  intro s p rest hs
  obtain ⟨⟨k, after⟩, hk, hs⟩ := bind_eq_ok hs
  simp only at hs
  split at hs
  · obtain ⟨⟨v, after'⟩, hv, heq⟩ := bind_eq_ok hs
    cases heq
    exact ⟨admits.names (key_makes _ _ _ hk), h _ _ _ hv⟩
  · cases hs

theorem holds_addInline {declared : Declarations} {k : Key} (ht : P (.table t))
    (names : ∀ part ∈ k, named part) (hv : P v) (h : addInline declared t k v = .ok u) :
    P (.table u) := by
  unfold addInline at h
  split_ifs at h
  refine keeps_changeNest admits.toInherited ?_ ?_ t u ht h
  · exact keeps_addEntry admits.toInherited (admits.last names) hv _
  · exact fun part hpart => names part (List.dropLast_subset _ hpart)

theorem inlineEntries_makes (h : Makes P read) (declared : Declarations) (ht : P (.table t)) :
    Makes (fun t => P (.table t)) (inlineEntries read declared t) := by
  intro s
  induction hn : s.length using Nat.strongRecOn generalizing s declared t with
  | ind n ih =>
      intro u rest hs
      rw [inlineEntries] at hs
      split at hs
      · cases hs
      · next k v after hp =>
        obtain ⟨names, hv⟩ := pair_makes admits h _ _ _ hp
        split at hs
        · cases hs
        · next t' added =>
          have ht' := holds_addInline admits ht names hv added
          split at hs
          · cases hs
            exact ht'
          · next later _ =>
            by_cases shorter : (skipBlanks later).length < s.length
            · simp only [dif_pos shorter] at hs
              exact ih _ (hn ▸ shorter) _ ht' _ rfl u rest hs
            · simp only [dif_neg shorter] at hs
              cases hs
          · cases hs

theorem inlineTable_makes (h : Makes P read) : Makes P (inlineTable read) := by
  intro s v rest hs
  unfold inlineTable at hs
  split at hs
  · cases hs
    exact admits.empty
  · obtain ⟨⟨t, after⟩, ht, heq⟩ := map_eq_ok hs
    cases heq
    exact inlineEntries_makes admits h .none admits.empty _ _ _ ht

theorem value_makes (depth : Nat) : Makes P (value depth) := by
  induction depth using Nat.strongRecOn with
  | ind depth ih =>
      intro s v rest hs
      unfold value at hs
      split at hs
      · exact array_makes admits (ih _ (by omega)) _ _ _ hs
      · cases hs
      · exact inlineTable_makes admits (ih _ (by omega)) _ _ _ hs
      · cases hs
      · exact atom_makes admits _ _ _ hs

end Values

section Statements

variable {d d' : Draft}

/-- What has been read has a property, and the current header is of names. -/
structure Draft.Has (named : Text → Prop) (P : Value → Prop) (d : Draft) : Prop where
  data : P (.table d.data)
  header : ∀ part ∈ d.header, named part

theorem Draft.passThrough_eq_ok {ks : List Key} (h : d.passThrough ks = .ok d') :
    d'.data = d.data ∧ d'.header = d.header := by
  induction ks generalizing d with
  | nil =>
      cases h
      exact ⟨rfl, rfl⟩
  | cons k ks ih =>
      rw [Draft.passThrough] at h
      split_ifs at h
      obtain ⟨data, header⟩ := ih h
      exact ⟨data, header⟩

theorem complainAt_eq_ok {α : Type} {r : Except Complaint α} {rest : List Char} {a : α}
    (h : complainAt r rest = .ok a) : r = .ok a := by
  unfold complainAt at h
  split at h
  · exact congrArg Except.ok (Except.ok.inj h)
  · cases h

variable (admits : Admits named P)
include admits

theorem Draft.Has.change (has : d.Has named P) {throughLists : Bool} {k : Key}
    {f : Value.Table → Except Complaint Value.Table} (names : ∀ part ∈ k, named part)
    (keeps : Keeps P f) (h : d.change throughLists k f = .ok d') : d'.Has named P := by
  obtain ⟨data, changed, rfl⟩ := map_eq_ok h
  exact ⟨keeps_changeNest admits.toInherited keeps names _ _ has.data changed, has.header⟩

theorem Draft.Has.addPair (has : d.Has named P) {k : Key} (names : ∀ part ∈ k, named part)
    (hv : P v) (h : d.addPair k v = .ok d') : d'.Has named P := by
  obtain ⟨passed, hp, h⟩ := bind_eq_ok h
  obtain ⟨data, header⟩ := Draft.passThrough_eq_ok hp
  have start : passed.Has named P := ⟨data ▸ has.data, header ▸ has.header⟩
  have nest : ∀ part ∈ (d.header ++ k).dropLast, named part := fun part hpart =>
    (List.mem_append.mp (List.dropLast_subset _ hpart)).elim (has.header part) (names part)
  have adds := keeps_addEntry admits.toInherited (admits.last names) hv .overwritten
  simp only at h
  split_ifs at h
  · cases h
  · cases h
  · obtain ⟨changed, hc, h⟩ := bind_eq_ok h
    obtain ⟨data, header⟩ := start.change admits nest adds hc
    cases h
    exact ⟨data, header⟩
  · obtain ⟨changed, hc, h⟩ := bind_eq_ok h
    cases h
    exact start.change admits nest adds hc

theorem Draft.Has.openTable (has : d.Has named P) {k : Key} (names : ∀ part ∈ k, named part)
    (h : d.openTable k = .ok d') : d'.Has named P := by
  unfold Draft.openTable at h
  split_ifs at h
  · cases h
  · have start : ({ d with declared := d.declared.declare k, header := k } : Draft).Has named P :=
      ⟨has.data, names⟩
    exact start.change admits names (fun t u ht hu => by cases hu; exact ht) h

theorem Draft.Has.openListTable (has : d.Has named P) {k : Key} (names : ∀ part ∈ k, named part)
    (h : d.openListTable k = .ok d') : d'.Has named P := by
  unfold Draft.openListTable at h
  split_ifs at h
  · cases h
  · have start : ({ d with
        declared := (d.declared.forget k).declare k, header := k } : Draft).Has named P :=
      ⟨has.data, names⟩
    refine start.change admits ?_ (keeps_addToList admits.toInherited (admits.last names)) h
    exact fun part hpart => names part (List.dropLast_subset _ hpart)

theorem has_headerStatement (has : d.Has named P) {s rest : List Char} {isList : Bool}
    (h : headerStatement d s isList = .ok (d', rest)) : d'.Has named P := by
  obtain ⟨⟨k, after⟩, hk, h⟩ := bind_eq_ok h
  have names := admits.names (key_makes _ _ _ hk)
  have start : ({ d with declared := d.declared.settlePending } : Draft).Has named P :=
    ⟨has.data, has.header⟩
  simp only at h
  split_ifs at h
  · obtain ⟨opened, ho, h⟩ := bind_eq_ok h
    have := start.openListTable admits names (complainAt_eq_ok ho)
    split at h
    · cases h
      exact this
    · cases h
  · obtain ⟨opened, ho, h⟩ := bind_eq_ok h
    have := start.openTable admits names (complainAt_eq_ok ho)
    split at h
    · cases h
      exact this
    · cases h

theorem has_statement (has : d.Has named P) {s rest : List Char}
    (h : statement d s = .ok (d', rest)) : d'.Has named P := by
  unfold statement at h
  split at h
  · exact has_headerStatement admits has h
  · exact has_headerStatement admits has h
  · cases h
    exact has
  · split_ifs at h
    · obtain ⟨⟨⟨k, v⟩, after⟩, hp, h⟩ := bind_eq_ok h
      obtain ⟨added, ha, h⟩ := bind_eq_ok h
      cases h
      obtain ⟨names, hv⟩ := pair_makes admits (value_makes admits maxDepth) _ _ _ hp
      exact has.addPair admits names hv (complainAt_eq_ok ha)
    · cases h
  · cases h
    exact has

theorem holds_of_statements (has : d.Has named P) {s : List Char}
    (h : statements d s = .ok t) : P (.table t) := by
  induction hn : s.length using Nat.strongRecOn generalizing s d with
  | ind n ih =>
      rw [statements] at h
      split at h
      · cases h
        exact has.data
      · split_ifs at h with shorter
        · exact ih _ (hn ▸ shorter) has h rfl
        · cases h
          exact has.data
      · split at h
        · cases h
        · next d' rest hs =>
          have has' := has_statement admits has hs
          split at h
          · cases h
          · cases h
            exact has'.data
          · split_ifs at h with shorter
            · exact ih _ (hn ▸ shorter) has' h rfl
            · cases h
              exact has'.data
          · cases h

/-- A table that was read has every property that reading admits. -/
theorem holds_of_read {s : List Char} (h : read s = .ok t) : P (.table t) :=
  holds_of_statements admits (d := Draft.start) ⟨admits.empty, nofun⟩ h

end Statements

/-- No key of a table that is read comes twice, at any depth. -/
theorem admits_distinct : Admits (fun _ => True) Value.Distinct where
  toInherited := Value.distinct_inherited
  chars _ := trivial
  text _ := Value.distinct_text _
  simple {v} h := by
    cases v with
    | bool | int | real | moment => simp [Value.Distinct]
    | _ => cases h

/-- No text that is read has a surrogate in it. -/
theorem admits_scalar : Admits (fun t => t.isScalar = true) Value.Scalar where
  toInherited := Value.scalar_inherited
  chars := Text.isScalar_ofChars
  text h := h
  simple {v} h := by
    cases v with
    | bool | int | real | moment => trivial
    | _ => cases h

end SourceLedger.Toml
