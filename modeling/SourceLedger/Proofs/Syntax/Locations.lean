import SourceLedger.Proofs.Syntax.Escapes
import SourceLedger.Proofs.Syntax.Members

/-!
# Locations

Where locations are kept, the table of a node has one more entry, and nothing else in a tree is
different. Taking these entries out at every depth gives the tree that is made without locations,
in which there are none.
-/

namespace SourceLedger

namespace Value

mutual

/-- A value without the entries of one key, at every depth. -/
def without (key : Text) : Value → Value
  | .list items => .list (itemsWithout key items)
  | .table entries => .table (entriesWithout key entries)
  | v => v

def itemsWithout (key : Text) : List Value → List Value
  | [] => []
  | v :: rest => without key v :: itemsWithout key rest

def entriesWithout (key : Text) : List (Text × Value) → List (Text × Value)
  | [] => []
  | (k, v) :: rest =>
    if k = key then entriesWithout key rest else (k, without key v) :: entriesWithout key rest

end

mutual

/-- No table in a value has an entry of this key. -/
def Lacks (key : Text) : Value → Prop
  | .list items => ItemsLack key items
  | .table entries => EntriesLack key entries
  | _ => True

def ItemsLack (key : Text) : List Value → Prop
  | [] => True
  | v :: rest => Lacks key v ∧ ItemsLack key rest

def EntriesLack (key : Text) : List (Text × Value) → Prop
  | [] => True
  | (k, v) :: rest => (k ≠ key ∧ Lacks key v) ∧ EntriesLack key rest

end

variable {key : Text}

theorem entriesWithout_append (es later : List (Text × Value)) :
    entriesWithout key (es ++ later) = entriesWithout key es ++ entriesWithout key later := by
  induction es with
  | nil => simp [entriesWithout]
  | cons e es ih =>
      obtain ⟨k, v⟩ := e
      rw [List.cons_append, entriesWithout, entriesWithout, ih]
      split_ifs <;> rfl

mutual

theorem lacks_without (key : Text) (v : Value) : (v.without key).Lacks key := by
  match v with
  | .list items =>
      rw [without, Lacks]
      exact itemsLack_without key items
  | .table entries =>
      rw [without, Lacks]
      exact entriesLack_without key entries
  | .null | .bool _ | .int _ | .real _ | .text _ | .moment _ => simp [without, Lacks]

theorem itemsLack_without (key : Text) (items : List Value) :
    ItemsLack key (itemsWithout key items) := by
  match items with
  | [] => simp [itemsWithout, ItemsLack]
  | v :: rest =>
      rw [itemsWithout, ItemsLack]
      exact ⟨lacks_without key v, itemsLack_without key rest⟩

theorem entriesLack_without (key : Text) (entries : List (Text × Value)) :
    EntriesLack key (entriesWithout key entries) := by
  match entries with
  | [] => simp [entriesWithout, EntriesLack]
  | (k, v) :: rest =>
      rw [entriesWithout]
      split_ifs with same
      · exact entriesLack_without key rest
      · rw [EntriesLack]
        exact ⟨⟨same, lacks_without key v⟩, entriesLack_without key rest⟩

end

end Value

namespace Syntax

/-- The value of a constant has no entries. -/
theorem Constant.without_toValue (c : Constant) (key : Text) :
    c.toValue.without key = c.toValue := by
  cases c with
  | real x =>
      rw [Constant.toValue]
      split_ifs <;> simp only [Value.without]
  | _ => simp only [Constant.toValue, Value.without]

namespace Outline

/-- Under which key the place of a node is. -/
def placeKey : Text := "loc"

/-- Of the members of a node, taking out its place leaves all others. -/
theorem without_members (locations : Bool) (first : Value) {fields : Value.Table}
    (place : Option Span) :
    (Value.table (members locations first fields place)).without placeKey =
      .table (members false (first.without placeKey) (Value.entriesWithout placeKey fields)
        place) := by
  have apart : ("type" : Text) ≠ placeKey := by decide
  have taken : Value.entriesWithout placeKey (placeEntry locations place) = [] := by
    unfold placeEntry
    split_ifs
    · cases place with
      | none => simp [Value.entriesWithout]
      | some s => simp [Value.entriesWithout, placeKey]
    · simp [Value.entriesWithout]
  rw [Value.without, members, Value.entriesWithout, if_neg apart, Value.entriesWithout_append,
    taken]
  rfl

mutual

theorem without_toValue (locations : Bool) {o : Outline} (shaped : o.Shaped) :
    (o.toValue locations).without placeKey = o.toValue false := by
  match o, shaped with
  | .constant c, _ =>
      rw [toValue, toValue]
      exact c.without_toValue placeKey
  | .many items, .many each =>
      rw [toValue, toValue, Value.without, itemsWithout_itemValues locations each]
  | .node className place parts, .node known each =>
      by_cases h : className = Shape.handlerName
      · subst h
        obtain ⟨exception, rest, rfl, nodup⟩ := exists_exception known
        have each := List.forall_mem_cons.mp each
        have others := entriesWithout_partValues locations each.2 fun unplaced =>
          (List.nodup_append.mp (List.nodup_cons.mp nodup).2).2.2 _ unplaced _ (by simp) rfl
        rw [toValue_node_type nodup, toValue_node_type nodup, without_members,
          without_toValue locations each.1, others]
      · have nodup := Shape.nodup_parts known h
        have others := entriesWithout_partValues locations each fun unplaced =>
          (List.nodup_append.mp (List.nodup_cons.mp nodup).2).2.2 _ unplaced _ (by simp) rfl
        have named : (Value.text className).without placeKey = .text className := by
          rw [Value.without] <;> nofun
        rw [toValue_node nodup, toValue_node nodup, without_members, others, named]

theorem itemsWithout_itemValues (locations : Bool) {items : List Outline}
    (shaped : ∀ o ∈ items, o.Shaped) :
    Value.itemsWithout placeKey (itemValues locations items) = itemValues false items := by
  match items with
  | [] => simp [itemValues, Value.itemsWithout]
  | item :: rest =>
      obtain ⟨first, others⟩ := List.forall_mem_cons.mp shaped
      rw [itemValues, itemValues, Value.itemsWithout, without_toValue locations first,
        itemsWithout_itemValues locations others]

theorem entriesWithout_partValues (locations : Bool) {parts : List (String × Outline)}
    (shaped : ∀ p ∈ parts, p.2.Shaped) (unplaced : "loc" ∉ parts.map Prod.fst) :
    Value.entriesWithout placeKey (partValues locations parts) = partValues false parts := by
  match parts with
  | [] => simp [partValues, Value.entriesWithout]
  | (name, part) :: rest =>
      obtain ⟨first, others⟩ := List.forall_mem_cons.mp shaped
      rw [List.map_cons, List.mem_cons, not_or] at unplaced
      have apart : Text.ofString name ≠ placeKey :=
        fun same => unplaced.1 (Text.ofString_injective same).symm
      rw [partValues, partValues, Value.entriesWithout, if_neg apart,
        without_toValue locations first, entriesWithout_partValues locations others unplaced.2]

end

end Outline

end Syntax

namespace Parsing

open Syntax (Outline)

variable {options : ParseOptions} {source filename : Text} {v : Value}

/-- The law of locations. A source that is parsed with locations is also parsed without, and gives
the same tree but for the places, which are taken out of it at every depth. A tree that was made
without locations has no places. -/
theorem locations_only_add (options : ParseOptions) (source filename : Text) :
    (∀ located, parse { options with locations := true } source filename = .ok located →
      parse { options with locations := false } source filename =
        .ok (located.without Outline.placeKey)) ∧
    ∀ plain, parse { options with locations := false } source filename = .ok plain →
      plain.Lacks Outline.placeKey := by
  constructor
  · intro located parsed
    -- A tree is read in the same way whether or not its places are wanted.
    have same : ∀ b, tree { options with locations := b } source filename =
        tree options source filename := fun _ => rfl
    obtain ⟨m, read, rfl⟩ := parse_eq_ok parsed
    rw [parse_of_tree read] at parsed
    rw [parse_of_tree ((same false).trans ((same true).symm.trans read)),
      Outline.without_toValue true m.shaped]
    split_ifs at parsed with tall deep
    rw [if_neg tall, if_neg deep]
    rfl
  · intro plain parsed
    obtain ⟨m, -, rfl⟩ := parse_eq_ok parsed
    rw [← Outline.without_toValue true m.shaped]
    exact Value.lacks_without _ _

section Examples

theorem locations_only_add_handler :
    let source : Text := "try:\n x\nexcept E as e:\n y = 1.5\n"
    let options : ParseOptions := { ParseOptions.default with minorVersion := some 8 }
    ∃ located, parse { options with locations := true } source unknownName = .ok located ∧
      parse { options with locations := false } source unknownName =
        .ok (located.without Outline.placeKey) ∧
      (located.without Outline.placeKey).Lacks Outline.placeKey ∧
      located.equals (located.without Outline.placeKey) = false := by
  intro source options
  have parses : (parse { options with locations := true } source unknownName).toOption.map
      (fun v => v.equals (v.without Outline.placeKey)) = some false := by decide +kernel
  obtain ⟨located, parsed, differs⟩ := Option.map_eq_some_iff.mp parses
  have parsed := eq_ok_of_toOption parsed
  obtain ⟨only, lacks⟩ := locations_only_add options source unknownName
  have plain := only located parsed
  exact ⟨located, parsed, plain, lacks _ plain, differs⟩

end Examples

end Parsing

end SourceLedger
