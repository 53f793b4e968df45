import SourceLedger.Proofs.Syntax.Serialization
import SourceLedger.Proofs.Syntax.Shape
import SourceLedger.Value.Equality

/-!
# The members of serialised nodes

A node becomes a table of its class name, its parts in order, and its place. Only a handler has a
part that is called `type`, and no node has one called `loc`; so no part is lost, and a handler
alone loses its class name, to the exception that it handles.
-/

namespace SourceLedger

/-- Different strings are different texts. -/
theorem Text.ofString_injective : Function.Injective Text.ofString := by
  intro s t h
  have chars : s.toList = t.toList := List.map_injective_iff.mpr (fun _ _ => CodePoint.scalar.inj) h
  exact String.toList_inj.mp chars

namespace Syntax

namespace Shape

/-- The one class of nodes with a part that is called `type`. -/
def handlerName : String := "ExceptHandler"

variable {s : Shape}

theorem nodup_parts (known : s ∈ all) (apart : s.className ≠ handlerName) :
    ("type" :: (s.parts ++ ["loc"])).Nodup := by
  have each : ∀ s ∈ all, s.className ≠ handlerName → ("type" :: (s.parts ++ ["loc"])).Nodup := by
    decide +kernel
  exact each s known apart

theorem parts_of_handler (known : s ∈ all) (handler : s.className = handlerName) :
    s.parts = ["type", "name", "body"] := by
  have each : ∀ s ∈ all, s.className = handlerName → s.parts = ["type", "name", "body"] := by
    decide +kernel
  exact each s known handler

end Shape

namespace Outline

/-- The entry for the place of a node. -/
def placeEntry (locations : Bool) (place : Option Span) : Value.Table :=
  if locations then place.toList.map fun s => ("loc", s.toValue) else []

/-- The table of a node: what is under `type`, the fields in their order, and the place. -/
def members (locations : Bool) (first : Value) (fields : Value.Table) (place : Option Span) :
    Value.Table :=
  ("type", first) :: (fields ++ placeEntry locations place)

mutual

/-- How an outline is written as a value, where no member of a table takes the place of another.
The exception of a handler is under `type`, where other nodes have their class name. -/
inductive Serialized (locations : Bool) : Outline → Value → Prop
  | constant (c : Constant) : Serialized locations (.constant c) c.toValue
  | many {items : List Outline} {values : List Value}
      (each : ItemsSerialized locations items values) :
      Serialized locations (.many items) (.list values)
  | node {className : String} {place : Option Span} {parts : List (String × Outline)}
      {fields : Value.Table} (apart : className ≠ Shape.handlerName)
      (each : PartsSerialized locations parts fields) :
      Serialized locations (.node className place parts)
        (.table (members locations (.text className) fields place))
  | handler {place : Option Span} {exception : Outline} {v : Value}
      {parts : List (String × Outline)} {fields : Value.Table}
      (first : Serialized locations exception v) (each : PartsSerialized locations parts fields) :
      Serialized locations (.node Shape.handlerName place (("type", exception) :: parts))
        (.table (members locations v fields place))

inductive ItemsSerialized (locations : Bool) : List Outline → List Value → Prop
  | nil : ItemsSerialized locations [] []
  | cons {item : Outline} {v : Value} {items : List Outline} {values : List Value}
      (first : Serialized locations item v) (rest : ItemsSerialized locations items values) :
      ItemsSerialized locations (item :: items) (v :: values)

inductive PartsSerialized (locations : Bool) : List (String × Outline) → Value.Table → Prop
  | nil : PartsSerialized locations [] []
  | cons {name : String} {part : Outline} {v : Value} {parts : List (String × Outline)}
      {fields : Value.Table} (first : Serialized locations part v)
      (rest : PartsSerialized locations parts fields) :
      PartsSerialized locations ((name, part) :: parts) ((name, v) :: fields)

end

variable {locations : Bool}

theorem withPlace_of_notMem {place : Option Span} {es : Value.Table}
    (h : ("loc" : Text) ∉ Entries.keys es) :
    withPlace locations place es = es ++ placeEntry locations place := by
  cases locations with
  | false => simp [withPlace, placeEntry]
  | true =>
      cases place with
      | none => simp [withPlace, placeEntry]
      | some s => exact Entries.put_of_notMem h s.toValue

theorem keys_partValues (locations : Bool) (parts : List (String × Outline)) :
    Entries.keys (partValues locations parts) = (parts.map Prod.fst).map Text.ofString := by
  induction parts with
  | nil => rfl
  | cons p parts ih => simpa [partValues] using ih

/-- Parts with names of their own follow what is under `type`, and the place follows them. -/
theorem withPlace_update (v : Value) (place : Option Span) {parts : List (String × Outline)}
    (nodup : ("type" :: (parts.map Prod.fst ++ ["loc"])).Nodup) :
    withPlace locations place (Entries.update [("type", v)] (partValues locations parts)) =
      members locations v (partValues locations parts) place := by
  have keys : Entries.keys (("type", v) :: partValues locations parts : Value.Table) =
      ("type" :: parts.map Prod.fst).map Text.ofString :=
    congrArg (_ :: ·) (keys_partValues locations parts)
  obtain ⟨apart, -, new⟩ := List.nodup_append.mp (List.cons_append ▸ nodup)
  have first : Entries.update [("type", v)] (partValues locations parts) =
      (("type", v) :: partValues locations parts : Value.Table) := by
    refine Entries.update_of_nodup ?_
    exact keys ▸ apart.map Text.ofString_injective
  rw [first]
  refine withPlace_of_notMem ?_
  rw [keys]
  intro h
  exact new _ ((List.mem_map_of_injective Text.ofString_injective).mp h) _ (by simp) rfl

/-- What is under `type` is the class name, unless the first part is called so too. -/
theorem toValue_node {className : String} {place : Option Span} {parts : List (String × Outline)}
    (nodup : ("type" :: (parts.map Prod.fst ++ ["loc"])).Nodup) :
    (node className place parts).toValue locations =
      .table (members locations (.text className) (partValues locations parts) place) := by
  rw [toValue, withPlace_update _ place nodup]

theorem toValue_node_type {className : String} {place : Option Span} {exception : Outline}
    {parts : List (String × Outline)} (nodup : ("type" :: (parts.map Prod.fst ++ ["loc"])).Nodup) :
    (node className place (("type", exception) :: parts)).toValue locations =
      .table (members locations (exception.toValue locations) (partValues locations parts)
        place) := by
  have again : Entries.put [("type", .text className)] "type" (exception.toValue locations) =
      ([("type", exception.toValue locations)] : Value.Table) := if_pos rfl
  rw [toValue, partValues, Entries.update_cons, again, withPlace_update _ place nodup]

/-- The parts of a handler are its exception, its name and its body. -/
theorem exists_exception {place : Option Span} {parts : List (String × Outline)}
    (known : ⟨Shape.handlerName, parts.map Prod.fst, place.isSome⟩ ∈ Shape.all) :
    ∃ exception rest, parts = ("type", exception) :: rest ∧
      ("type" :: (rest.map Prod.fst ++ ["loc"])).Nodup := by
  have names := Shape.parts_of_handler known rfl
  obtain ⟨⟨_, exception⟩, rest, rfl, rfl, others⟩ := List.map_eq_cons_iff.mp names
  refine ⟨exception, rest, rfl, ?_⟩
  rw [others]
  decide

mutual

theorem Shaped.serialized {o : Outline} (shaped : o.Shaped) :
    Serialized locations o (o.toValue locations) := by
  match o, shaped with
  | .constant c, _ =>
      rw [toValue]
      exact .constant c
  | .many items, .many each =>
      rw [toValue]
      exact .many (itemsSerialized each)
  | .node className place parts, .node known each =>
      by_cases h : className = Shape.handlerName
      · subst h
        obtain ⟨exception, rest, rfl, nodup⟩ := exists_exception known
        rw [toValue_node_type nodup]
        have each := List.forall_mem_cons.mp each
        exact .handler (Shaped.serialized each.1) (partsSerialized each.2)
      · rw [toValue_node (Shape.nodup_parts known h)]
        exact .node h (partsSerialized each)

theorem itemsSerialized {items : List Outline} (shaped : ∀ o ∈ items, o.Shaped) :
    ItemsSerialized locations items (itemValues locations items) := by
  match items with
  | [] => exact .nil
  | item :: rest =>
      obtain ⟨first, others⟩ := List.forall_mem_cons.mp shaped
      exact .cons first.serialized (itemsSerialized others)

theorem partsSerialized {parts : List (String × Outline)} (shaped : ∀ p ∈ parts, p.2.Shaped) :
    PartsSerialized locations parts (partValues locations parts) := by
  match parts with
  | [] => exact .nil
  | (name, part) :: rest =>
      obtain ⟨first, others⟩ := List.forall_mem_cons.mp shaped
      exact .cons (Shaped.serialized first) (partsSerialized others)

end

end Outline

/-- Every expression is a node. -/
theorem Expr.exists_node (e : Expr) :
    ∃ className place parts, e.outline = .node className place parts := by
  cases e <;> exact ⟨_, _, _, rfl⟩

/-- What is under `type` in the table of a handler is `null` or a table, so that the table does not
say what class it is of. -/
theorem Handler.nameless (h : Handler) (locations : Bool) :
    ∃ es : Value.Table, h.outline.toValue locations = .table es ∧
      ∀ t, Entries.get? es "type" ≠ some (.text t) := by
  obtain ⟨s, exception, name, body⟩ := h
  refine ⟨_, Outline.toValue_node_type ?_, ?_⟩
  · simp only [List.map]
    decide
  · intro t found
    obtain ⟨⟩ | e := exception
    · cases found
    · obtain ⟨className, place, parts, node⟩ := e.exists_node
      rw [Outline.members, Entries.get?, if_pos rfl, optional, node, Outline.toValue] at found
      cases found

end Syntax

namespace Parsing

open Syntax (Outline)

variable {options : ParseOptions} {source filename : Text} {v : Value}

/-- The law of serialised trees. All nodes of the tree of a source have a class and parts that the
grammar knows. The value of the source has, for each node at any depth, a table whose members are
exactly the class name, the parts in order, and the place if it is wanted and known; except that a
handler has its exception in the place of the class name. No two members of a table have one key. -/
theorem parse_members (parsed : parse options source filename = .ok v) :
    ∃ m, tree options source filename = .ok m ∧ m.outline.Shaped ∧
      Outline.Serialized options.locations m.outline v ∧ v.Distinct := by
  obtain ⟨m, read, rfl⟩ := parse_eq_ok parsed
  have shaped := m.shaped
  exact ⟨m, read, shaped, shaped.serialized, Outline.distinct_toValue _ _⟩

section Examples

theorem parse_members_handler :
    let source : Text := "try:\n x\nexcept E as e:\n y = 1.5\n"
    let options : ParseOptions := { ParseOptions.default with locations := true }
    ∃ v, parse options source unknownName = .ok v ∧
      ∃ m, tree options source unknownName = .ok m ∧ m.outline.Shaped ∧
        Outline.Serialized options.locations m.outline v ∧ v.Distinct := by
  intro source options
  have parses : (parse options source unknownName).toOption.isSome = true := by decide +kernel
  obtain ⟨v, parsed⟩ := Option.isSome_iff_exists.mp parses
  have parsed := eq_ok_of_toOption parsed
  exact ⟨v, parsed, parse_members parsed⟩

/-- A handler of every exception has `null` in the place of its class name. -/
theorem bare_handler_nameless :
    let pass : Value := .table [("type", .text "Pass")]
    let tried (first : Value) : Value :=
      .table [("type", .text "Module"), ("type_ignores", .list []), ("body", .list [.table
        [("type", .text "Try"), ("body", .list [pass]), ("orelse", .list []),
          ("finalbody", .list []), ("handlers", .list [.table
            [("type", first), ("name", .null), ("body", .list [pass])]])]])]
    (parse .default "try:\n pass\nexcept:\n pass\n" unknownName).toOption.map
      (fun v => (v.equals (tried .null), v.equals (tried (.text "ExceptHandler")))) =
        some (true, false) := by
  decide +kernel

end Examples

end Parsing

end SourceLedger
