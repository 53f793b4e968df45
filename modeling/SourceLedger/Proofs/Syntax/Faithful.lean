import SourceLedger.Proofs.Syntax.Outlines

/-!
# Serialising loses no structure

Trees with the same value are the same up to places, if their constants are of kinds that values
have. A table is the same as another one if it has the same members, in whatever order.

The class of a node is read off its table at `type`. A handler has its exception there, which may be
anything, but it is known by its other keys: of the nodes with a name and a body it alone has no
decorators. The class gives the names of the parts, and each part has its own key.
-/

namespace SourceLedger

namespace Value

/-- Neither a list nor a table. -/
def isAtomic : Value → Bool
  | .list _ | .table _ => false
  | _ => true

mutual

/-- The same value: numbers of different kinds are different, and so are numbers and truth values,
and the order of the members of a table does not matter. -/
inductive Same : Value → Value → Prop
  | atom {v : Value} (atomic : v.isAtomic = true) : Same v v
  | list {xs ys : List Value} (each : ItemsSame xs ys) : Same (.list xs) (.list ys)
  | table {es fs : Value.Table} (keys : ∀ k, k ∈ Entries.keys es ↔ k ∈ Entries.keys fs)
      (each : ∀ k v w, Entries.get? es k = some v → Entries.get? fs k = some w → Same v w) :
      Same (.table es) (.table fs)

inductive ItemsSame : List Value → List Value → Prop
  | nil : ItemsSame [] []
  | cons {x y : Value} {xs ys : List Value} (first : Same x y) (rest : ItemsSame xs ys) :
      ItemsSame (x :: xs) (y :: ys)

end

mutual

theorem Same.refl (v : Value) : Same v v := by
  match v with
  | .null | .bool _ | .int _ | .real _ | .text _ | .moment _ => exact .atom rfl
  | .list items => exact .list (ItemsSame.refl items)
  | .table entries =>
      refine .table (fun _ => Iff.rfl) fun k v w left right => ?_
      cases left.symm.trans right
      exact Same.refl_of_mem entries (k, v) (Entries.mem_of_get? left)

theorem ItemsSame.refl (items : List Value) : ItemsSame items items := by
  match items with
  | [] => exact .nil
  | v :: rest => exact .cons (Same.refl v) (ItemsSame.refl rest)

theorem Same.refl_of_mem (entries : List (Text × Value)) : ∀ e ∈ entries, Same e.2 e.2 := by
  match entries with
  | [] => exact nofun
  | (_, v) :: rest => exact List.forall_mem_cons.mpr ⟨Same.refl v, Same.refl_of_mem rest⟩

end

theorem Same.eq_of_isAtomic {v w : Value} (h : Same v w) (atomic : v.isAtomic = true) : v = w := by
  cases h with
  | atom => rfl
  | list => cases atomic
  | table => cases atomic

theorem Same.isAtomic_eq {v w : Value} (h : Same v w) : v.isAtomic = w.isAtomic := by
  cases h <;> rfl

theorem Same.items {xs ys : List Value} (h : Same (.list xs) (.list ys)) : ItemsSame xs ys := by
  cases h with
  | atom atomic => cases atomic
  | list each => exact each

theorem Same.members {es fs : Value.Table} (h : Same (.table es) (.table fs)) :
    (∀ k, k ∈ Entries.keys es ↔ k ∈ Entries.keys fs) ∧
      ∀ k v w, Entries.get? es k = some v → Entries.get? fs k = some w → Same v w := by
  cases h with
  | atom atomic => cases atomic
  | table keys each => exact ⟨keys, each⟩

end Value

namespace Syntax

namespace Constant

/-- Whether values have constants of this kind. -/
def isPlain : Constant → Bool
  | .none | .bool _ | .int _ | .text _ => true
  | .real x => x.isFinite
  | .imaginary _ | .bytes _ | .ellipsis => false

theorem isAtomic_toValue (c : Constant) : c.toValue.isAtomic = true := by
  cases c with
  | real x =>
      rw [toValue]
      split_ifs <;> rfl
  | _ => rfl

/-- The constant of one of these kinds that has a value. -/
def ofValue : Value → Constant
  | .bool b => .bool b
  | .int n => .int n
  | .real x => .real x
  | .text t => .text t
  | _ => .none

theorem ofValue_toValue {c : Constant} (plain : c.isPlain = true) : ofValue c.toValue = c := by
  cases c with
  | real x =>
      rw [isPlain] at plain
      rw [toValue, if_pos plain]
      rfl
  | imaginary | bytes | ellipsis => cases plain
  | _ => rfl

end Constant

namespace Shape

variable {s t : Shape}

/-- The class of a node says what parts it has. -/
theorem eq_of_className (known : s ∈ all) (known' : t ∈ all) (h : s.className = t.className) :
    s = t := by
  have distinct : (all.map className).Nodup := by decide +kernel
  exact List.inj_on_of_nodup_map distinct known known' h

/-- A node with a name and a body has decorators, unless it is a handler. -/
theorem decorated (known : s ∈ all) (apart : s.className ≠ handlerName) (name : "name" ∈ s.parts)
    (body : "body" ∈ s.parts) : "decorator_list" ∈ s.parts := by
  have each : ∀ s ∈ all, s.className ≠ handlerName → "name" ∈ s.parts → "body" ∈ s.parts →
      "decorator_list" ∈ s.parts := by
    decide +kernel
  exact each s known apart name body

end Shape

namespace Outline

mutual

/-- The constants of an outline, at any depth. -/
def constants : Outline → List Constant
  | .constant c => [c]
  | .many items => itemConstants items
  | .node _ _ parts => partConstants parts

def itemConstants : List Outline → List Constant
  | [] => []
  | item :: rest => constants item ++ itemConstants rest

def partConstants : List (String × Outline) → List Constant
  | [] => []
  | (_, part) :: rest => constants part ++ partConstants rest

end

variable {locations : Bool} {className : String} {place : Option Span}
  {parts : List (String × Outline)} {es : Value.Table}

theorem mem_partValues {name : String} {part : Outline} (h : (name, part) ∈ parts) :
    (Text.ofString name, part.toValue locations) ∈ partValues locations parts := by
  induction parts with
  | nil => cases h
  | cons p rest ih =>
      rw [partValues]
      rcases List.mem_cons.mp h with rfl | h
      · exact List.mem_cons_self
      · exact List.mem_cons_of_mem _ (ih h)

theorem mem_keys_members {first : Value} {k : Text}
    (h : k ∈ Entries.keys (members locations first (partValues locations parts) place)) :
    k = "type" ∨ k ∈ (parts.map Prod.fst).map Text.ofString ∨ k = "loc" := by
  have placed : ∀ k ∈ Entries.keys (placeEntry locations place), k = "loc" := by
    unfold placeEntry
    split_ifs
    · cases place with
      | none => exact nofun
      | some s => exact fun k h => List.mem_singleton.mp h
    · exact nofun
  rw [members, Entries.keys_cons, Entries.keys_append, keys_partValues] at h
  rcases List.mem_cons.mp h with h | h
  · exact .inl h
  · exact .inr ((List.mem_append.mp h).imp_right (placed k))

/-- What the table of a node says of the node: its keys are `type`, the names of the parts and
perhaps `loc`, each part is under its name, and the class name is under `type` but for handlers. -/
structure Recorded (locations : Bool) (className : String) (parts : List (String × Outline))
    (es : Value.Table) : Prop where
  keys : ∀ k ∈ Entries.keys es, k = "type" ∨ k ∈ (parts.map Prod.fst).map Text.ofString ∨ k = "loc"
  part : ∀ name part, (name, part) ∈ parts →
    Entries.get? es (Text.ofString name) = some (part.toValue locations)
  named : className ≠ Shape.handlerName → Entries.get? es "type" = some (.text className)

theorem exists_recorded (locations : Bool)
    (known : ⟨className, parts.map Prod.fst, place.isSome⟩ ∈ Shape.all) :
    ∃ es, (node className place parts).toValue locations = .table es ∧
      Recorded locations className parts es := by
  have distinct := distinct_toValue locations (node className place parts)
  by_cases handler : className = Shape.handlerName
  · subst handler
    obtain ⟨exception, rest, rfl, nodup⟩ := exists_exception known
    rw [toValue_node_type nodup] at distinct ⊢
    have distinct := (Value.distinct_table.mp distinct).1
    refine ⟨_, rfl, ⟨fun k h => ?_, fun name part h => ?_, fun h => absurd rfl h⟩⟩
    · exact (mem_keys_members h).imp_right (Or.imp_left (List.mem_cons_of_mem _))
    · refine Entries.get?_of_mem distinct ?_
      rcases List.mem_cons.mp h with h | h
      · cases h
        exact List.mem_cons_self
      · exact List.mem_cons_of_mem _ (List.mem_append_left _ (mem_partValues h))
  · rw [toValue_node (Shape.nodup_parts known handler)] at distinct ⊢
    have distinct := (Value.distinct_table.mp distinct).1
    refine ⟨_, rfl, ⟨fun k h => mem_keys_members h, fun name part h => ?_, fun _ => rfl⟩⟩
    exact Entries.get?_of_mem distinct
      (List.mem_cons_of_mem _ (List.mem_append_left _ (mem_partValues h)))

namespace Recorded

variable {className' : String} {place' : Option Span} {parts' : List (String × Outline)}
  {es' : Value.Table} {name : String}

theorem mem_keys (recorded : Recorded locations className parts es)
    (h : name ∈ parts.map Prod.fst) : Text.ofString name ∈ Entries.keys es := by
  obtain ⟨⟨_, part⟩, mem, rfl⟩ := List.mem_map.mp h
  exact Entries.mem_keys_iff.mpr ⟨_, recorded.part _ part mem⟩

theorem mem_names (recorded : Recorded locations className parts es)
    (h : Text.ofString name ∈ Entries.keys es) (untyped : name ≠ "type") (unplaced : name ≠ "loc") :
    name ∈ parts.map Prod.fst := by
  rcases recorded.keys _ h with same | mem | same
  · exact absurd (Text.ofString_injective same) untyped
  · exact (List.mem_map_of_injective Text.ofString_injective).mp mem
  · exact absurd (Text.ofString_injective same) unplaced

/-- No other node has the keys of a handler. -/
theorem not_handler (recorded : Recorded locations className parts es)
    (known : ⟨className, parts.map Prod.fst, place.isSome⟩ ∈ Shape.all)
    (apart : className ≠ Shape.handlerName)
    (recorded' : Recorded locations Shape.handlerName parts' es')
    (known' : ⟨Shape.handlerName, parts'.map Prod.fst, place'.isSome⟩ ∈ Shape.all)
    (keys : ∀ k, k ∈ Entries.keys es ↔ k ∈ Entries.keys es') : False := by
  have names : parts'.map Prod.fst = ["type", "name", "body"] :=
    Shape.parts_of_handler known' rfl
  have shared : ∀ name ∈ ["name", "body"], name ∈ parts.map Prod.fst := by
    intro name h
    have listed : name ∈ parts'.map Prod.fst := names ▸ List.mem_cons_of_mem _ h
    refine recorded.mem_names ((keys _).mpr (recorded'.mem_keys listed)) ?_ ?_
    · rintro rfl
      exact absurd h (by decide)
    · rintro rfl
      exact absurd h (by decide)
  have decorated := Shape.decorated known apart (shared "name" (by simp)) (shared "body" (by simp))
  have listed := recorded'.mem_names ((keys _).mp (recorded.mem_keys decorated)) (by decide)
    (by decide)
  rw [names] at listed
  exact absurd listed (by decide)

/-- Nodes with the same table are of one class. -/
theorem className_eq (recorded : Recorded locations className parts es)
    (known : ⟨className, parts.map Prod.fst, place.isSome⟩ ∈ Shape.all)
    (recorded' : Recorded locations className' parts' es')
    (known' : ⟨className', parts'.map Prod.fst, place'.isSome⟩ ∈ Shape.all)
    (keys : ∀ k, k ∈ Entries.keys es ↔ k ∈ Entries.keys es')
    (each : ∀ k v w, Entries.get? es k = some v → Entries.get? es' k = some w → Value.Same v w) :
    className = className' := by
  by_cases handler : className = Shape.handlerName
  · by_cases handler' : className' = Shape.handlerName
    · rw [handler, handler']
    · subst handler
      exact (recorded'.not_handler known' handler' recorded known fun k => (keys k).symm).elim
  · by_cases handler' : className' = Shape.handlerName
    · subst handler'
      exact (recorded.not_handler known handler recorded' known' keys).elim
    · have same := each _ _ _ (recorded.named handler) (recorded'.named handler')
      exact Text.ofString_injective (Value.text.inj (same.eq_of_isAtomic rfl))

end Recorded

mutual

/-- Outlines with the same value are the same up to places. The induction is on the first one. -/
theorem unplaced_eq_of_same {o : Outline} : ∀ {o' : Outline}, o.Shaped → o'.Shaped →
    (∀ c ∈ o.constants, c.isPlain = true) → (∀ c ∈ o'.constants, c.isPlain = true) →
    Value.Same (o.toValue locations) (o'.toValue locations) → o.unplaced = o'.unplaced := by
  intro o' shaped shaped' plain plain' same
  match o, o', shaped, shaped' with
  | .constant c, .constant c', _, _ =>
      rw [constants, List.forall_mem_singleton] at plain plain'
      rw [toValue, toValue] at same
      have same := same.eq_of_isAtomic c.isAtomic_toValue
      rw [← Constant.ofValue_toValue plain, same, Constant.ofValue_toValue plain']
  | .many items, .many items', .many each, .many each' =>
      rw [toValue, toValue] at same
      rw [constants] at plain plain'
      rw [unplaced, unplaced, unplacedItems_eq_of_same each each' plain plain' same.items]
  | .node className place parts, .node className' place' parts', .node known each,
      .node known' each' =>
      obtain ⟨es, made, recorded⟩ := exists_recorded locations known
      obtain ⟨es', made', recorded'⟩ := exists_recorded locations known'
      rw [made, made'] at same
      obtain ⟨keys, members⟩ := same.members
      obtain rfl := recorded.className_eq known recorded' known' keys members
      have names : parts.map Prod.fst = parts'.map Prod.fst :=
        congrArg Shape.parts (Shape.eq_of_className known known' rfl)
      rw [constants] at plain plain'
      rw [unplaced, unplaced, unplacedParts_eq_of_same names each each' plain plain'
        fun name part part' mem mem' =>
          members _ _ _ (recorded.part name part mem) (recorded'.part name part' mem')]
  | .constant c, .many _, _, _ | .constant c, .node .., _, _ =>
      rw [toValue, toValue] at same
      cases c.isAtomic_toValue.symm.trans same.isAtomic_eq
  | .many _, .constant c, _, _ | .node .., .constant c, _, _ =>
      rw [toValue, toValue] at same
      cases same.isAtomic_eq.trans c.isAtomic_toValue
  | .many _, .node .., _, _ | .node .., .many _, _, _ =>
      rw [toValue, toValue] at same
      nomatch same
termination_by structural o

theorem unplacedItems_eq_of_same {items : List Outline} : ∀ {items' : List Outline},
    (∀ o ∈ items, o.Shaped) → (∀ o ∈ items', o.Shaped) →
    (∀ c ∈ itemConstants items, c.isPlain = true) →
    (∀ c ∈ itemConstants items', c.isPlain = true) →
    Value.ItemsSame (itemValues locations items) (itemValues locations items') →
    unplacedItems items = unplacedItems items' := by
  intro items' shaped shaped' plain plain' same
  match items, items' with
  | [], [] => rfl
  | [], _ :: _ => nomatch same
  | _ :: _, [] => nomatch same
  | item :: rest, item' :: rest' =>
      rw [itemConstants, List.forall_mem_append] at plain plain'
      rw [itemValues, itemValues] at same
      obtain ⟨first, others⟩ := List.forall_mem_cons.mp shaped
      obtain ⟨first', others'⟩ := List.forall_mem_cons.mp shaped'
      cases same with
      | cons head tail =>
          rw [unplacedItems, unplacedItems,
            unplaced_eq_of_same first first' plain.1 plain'.1 head,
            unplacedItems_eq_of_same others others' plain.2 plain'.2 tail]
termination_by structural items

theorem unplacedParts_eq_of_same {parts : List (String × Outline)} :
    ∀ {parts' : List (String × Outline)}, parts.map Prod.fst = parts'.map Prod.fst →
    (∀ p ∈ parts, p.2.Shaped) → (∀ p ∈ parts', p.2.Shaped) →
    (∀ c ∈ partConstants parts, c.isPlain = true) →
    (∀ c ∈ partConstants parts', c.isPlain = true) →
    (∀ name part part', (name, part) ∈ parts → (name, part') ∈ parts' →
      Value.Same (part.toValue locations) (part'.toValue locations)) →
    unplacedParts parts = unplacedParts parts' := by
  intro parts' names shaped shaped' plain plain' same
  match parts, parts' with
  | [], [] => rfl
  | [], _ :: _ => nomatch names
  | _ :: _, [] => nomatch names
  | (name, part) :: rest, (name', part') :: rest' =>
      obtain ⟨rfl, tails⟩ := List.cons.inj names
      rw [partConstants, List.forall_mem_append] at plain plain'
      obtain ⟨first, others⟩ := List.forall_mem_cons.mp shaped
      obtain ⟨first', others'⟩ := List.forall_mem_cons.mp shaped'
      have firstSame := same _ _ _ List.mem_cons_self List.mem_cons_self
      rw [unplacedParts, unplacedParts,
        unplaced_eq_of_same first first' plain.1 plain'.1 firstSame,
        unplacedParts_eq_of_same tails others others' plain.2 plain'.2
          fun name part part' mem mem' =>
            same name part part' (List.mem_cons_of_mem _ mem) (List.mem_cons_of_mem _ mem')]
termination_by structural parts

end

end Outline

namespace Module

/-- Whether all constants of a module are of kinds that values have. -/
def IsPlain (m : Module) : Prop := ∀ c ∈ m.outline.constants, c.isPlain = true

instance (m : Module) : Decidable m.IsPlain := List.decidableBAll _ _

/-- The law of structure. Modules of plain constants that are serialised to the same value, with
locations or without, are the same module up to places. -/
theorem unplaced_eq_of_same_value (locations : Bool) {m m' : Module} (plain : m.IsPlain)
    (plain' : m'.IsPlain)
    (same : Value.Same (m.outline.toValue locations) (m'.outline.toValue locations)) :
    m.unplaced = m'.unplaced :=
  unplaced_eq (Outline.unplaced_eq_of_same m.shaped m'.shaped plain plain' same)

/-- A handler at one place and at another one. -/
def handlerAt (place : Span) : Module where
  body := [.trying place false [.expr place (.constant place (.real (.zero false)) false)]
    [.mk place (some (.name place "E" .load)) (some "e") [.pass place]] [] []]
  typeIgnores := []

theorem unplaced_eq_of_same_value_handler :
    let m := handlerAt ⟨⟨1, 0⟩, ⟨4, 5⟩⟩
    let m' := handlerAt ⟨⟨2, 0⟩, ⟨6, 1⟩⟩
    m.IsPlain ∧ m'.IsPlain ∧
      Value.Same (m.outline.toValue false) (m'.outline.toValue false) ∧
      m.unplaced = m'.unplaced := by
  intro m m'
  have plain : m.IsPlain := by decide
  have plain' : m'.IsPlain := by decide
  have equal : m.outline.toValue false = m'.outline.toValue false := rfl
  have same : Value.Same (m.outline.toValue false) (m'.outline.toValue false) :=
    equal ▸ Value.Same.refl _
  exact ⟨plain, plain', same, unplaced_eq_of_same_value false plain plain' same⟩

/-- Beyond plain constants the law fails: an ellipsis has the value of a text. -/
example : Constant.ellipsis.toValue = (Constant.text "Ellipsis").toValue := rfl

end Module

end Syntax

end SourceLedger
