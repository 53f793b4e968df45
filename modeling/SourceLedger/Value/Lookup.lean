import SourceLedger.Value.Basic

/-!
# Dotted look-up

A dotted key such as `parse.options` names an entry of a table within a table. Each segment is
looked up as it stands, the empty one too, so a key that itself holds a dot cannot be reached.
-/

namespace SourceLedger.Value

/-- Follows a path of keys; `none` when the path leaves the tables or a key is absent. -/
def follow? : Value → List Text → Option Value
  | v, [] => some v
  | .table entries, key :: rest =>
    match Entries.get? entries key with
    | some v => follow? v rest
    | none => none
  | _, _ :: _ => none

/-- The value at a dotted key. -/
def lookup? (v : Value) (dottedKey : Text) : Option Value :=
  v.follow? (Text.splitOn (.scalar '.') dottedKey)

/-- The value at a dotted key, or a default. -/
def lookup (v : Value) (dottedKey : Text) (default : Value) : Value :=
  (v.lookup? dottedKey).getD default

@[simp] theorem follow?_nil (v : Value) : v.follow? [] = some v := by
  cases v <;> rfl

theorem follow?_append (v : Value) (p q : List Text) :
    v.follow? (p ++ q) = (v.follow? p).bind (·.follow? q) := by
  induction p generalizing v with
  | nil => simp
  | cons k p ih =>
    cases v with
    | table entries =>
      simp only [List.cons_append, follow?]
      cases Entries.get? entries k with
      | none => rfl
      | some w => exact ih w
    | _ => rfl

end SourceLedger.Value
