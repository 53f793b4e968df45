import SourceLedger.Text.Basic

/-!
# Ordered entries

A table is a list of entries in the order in which their keys were first written. Writing to a
key that is present keeps its place.
-/

namespace SourceLedger

abbrev Entries (α : Type u) := List (Text × α)

namespace Entries

variable {α : Type u} {β : Type v}

def keys (es : Entries α) : List Text := es.map Prod.fst

def values (es : Entries α) : List α := es.map Prod.snd

def get? (es : Entries α) (key : Text) : Option α :=
  match es with
  | [] => none
  | (k, v) :: rest => if k = key then some v else get? rest key

def contains (es : Entries α) (key : Text) : Bool := (es.get? key).isSome

/-- Writes a value, in the place of the key if it is present and at the end otherwise. -/
def put (es : Entries α) (key : Text) (value : α) : Entries α :=
  match es with
  | [] => [(key, value)]
  | (k, v) :: rest => if k = key then (k, value) :: rest else (k, v) :: put rest key value

/-- Writes the later entries one after another over the earlier ones. -/
def update (es later : Entries α) : Entries α :=
  later.foldl (fun es (k, v) => es.put k v) es

/-- Entries written one after another into an empty table. -/
def ofList (es : List (Text × α)) : Entries α := update [] es

def mapValues (f : α → β) (es : Entries α) : Entries β := es.map fun (k, v) => (k, f v)

/-- Writes a value only where the key is absent. -/
def putDefault (es : Entries α) (key : Text) (value : α) : Entries α :=
  if es.contains key then es else es.put key value

theorem get?_put (es : Entries α) (key other : Text) (value : α) :
    (es.put key value).get? other = if key = other then some value else es.get? other := by
  induction es with
  | nil => simp [put, get?]
  | cons e rest ih =>
    obtain ⟨k, v⟩ := e
    by_cases h : k = key
    · subst h
      by_cases h' : k = other <;> simp [put, get?, h']
    · by_cases h' : k = other
      · subst h'
        simp [put, get?, h, Ne.symm h]
      · simp [put, get?, h, h', ih]

theorem keys_put (es : Entries α) (key : Text) (value : α) :
    (es.put key value).keys = if key ∈ es.keys then es.keys else es.keys ++ [key] := by
  induction es with
  | nil => simp [put, keys]
  | cons e rest ih =>
    obtain ⟨k, v⟩ := e
    by_cases h : k = key
    · simp [put, keys, h]
    · have : (put rest key value).keys = _ := ih
      simp only [keys] at this
      simp only [put, h, if_false, keys, List.map_cons, this, List.mem_cons, Ne.symm h, false_or]
      split <;> simp_all

end Entries

end SourceLedger
