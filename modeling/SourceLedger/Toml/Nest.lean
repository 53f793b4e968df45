import SourceLedger.Toml.Basic

/-!
# Tables under construction

Statements put values into tables within tables. What has been declared in which way decides
what may still be added: a table with a header is not declared again, and a value written in
one piece is closed.
-/

namespace SourceLedger.Toml

/-- Changes the table at a key, which is made where it is absent. With `throughLists` the last
table of a list of tables stands for the list. Fails where something else is in the way. -/
def changeNest (throughLists : Bool) (change : Value.Table → Except Complaint Value.Table) :
    Key → Value.Table → Except Complaint Value.Table
  | [], t => change t
  | part :: key, t =>
    match Entries.get? t part with
    | none => (changeNest throughLists change key []).map fun u => Entries.put t part (.table u)
    | some (.table sub) =>
      (changeNest throughLists change key sub).map fun u => Entries.put t part (.table u)
    | some (.list items) =>
      match throughLists, items.getLast? with
      | true, some (.table sub) =>
        (changeNest throughLists change key sub).map fun u =>
          Entries.put t part (.list (items.dropLast ++ [.table u]))
      | _, _ => .error .overwritten
    | some _ => .error .overwritten

/-- Adds an entry that is not there yet. -/
def addEntry (part : Text) (v : Value) (present : Complaint) (t : Value.Table) :
    Except Complaint Value.Table :=
  if Entries.contains t part then .error present else .ok (Entries.put t part v)

/-- Adds an empty table to a list of tables, which is made where it is absent. -/
def addToList (part : Text) (t : Value.Table) : Except Complaint Value.Table :=
  match Entries.get? t part with
  | none => .ok (Entries.put t part (.list [.table []]))
  | some (.list items) => .ok (Entries.put t part (.list (items ++ [.table []])))
  | some _ => .error .overwritten

/-- What is known of the keys that have been used. -/
structure Declarations where
  /-- Tables that may not be declared with a header any more. -/
  explicit : List Key
  /-- Values in one piece; nothing can be added in or below them. -/
  frozen : List Key
  /-- Tables that become explicit at the next header. -/
  pending : List Key

namespace Declarations

def none : Declarations := ⟨[], [], []⟩

def isExplicit (d : Declarations) (key : Key) : Bool := d.explicit.contains key

def isFrozen (d : Declarations) (key : Key) : Bool := d.frozen.any (·.isPrefixOf key)

def declare (d : Declarations) (key : Key) : Declarations :=
  { d with explicit := key :: d.explicit }

def freeze (d : Declarations) (key : Key) : Declarations := { d with frozen := key :: d.frozen }

def awaitHeader (d : Declarations) (key : Key) : Declarations :=
  { d with pending := key :: d.pending }

def settlePending (d : Declarations) : Declarations :=
  { d with explicit := d.pending ++ d.explicit, pending := [] }

/-- Forgets everything about a key and the keys below it. -/
def forget (d : Declarations) (key : Key) : Declarations :=
  { d with
    explicit := d.explicit.filter fun k => !key.isPrefixOf k
    frozen := d.frozen.filter fun k => !key.isPrefixOf k }

end Declarations

end SourceLedger.Toml
