import SourceLedger.Entries
import SourceLedger.Failure
import SourceLedger.Path

/-!
# Items

An item records one tracked file: its identity, where it was found, its content and its syntax
tree. Content and tree may be unset, which is not the same as empty: an unset one is left out
of the stored form.
-/

namespace SourceLedger

/-- The fields are values, since a document that was written by hand may hold anything. -/
structure Item where
  id : Value
  fullPath : Value
  index : Value
  content : Option Value
  tree : Option Value
  deriving Inhabited

abbrev Items := Entries Item

namespace Item

/-- A stored `null` is the same as none at all. -/
def optional (entries : Value.Table) (key : Text) : Option Value :=
  match Entries.get? entries key with
  | some .null => none
  | v => v

def required (entries : Value.Table) (key : Text) : Except Unexpected Value :=
  match Entries.get? entries key with
  | some v => .ok v
  | none => .error (.missingKey key)

def entry (key : Text) : Option Value → Value.Table
  | some v => [(key, v)]
  | none => []

/-- The entries of the stored form. -/
def entries (item : Item) : Value.Table :=
  entry "fullPath" item.fullPath ++ entry "index" item.index ++ entry "id" item.id ++
    entry "data" item.content ++ entry "ast" item.tree

/-- The stored form. -/
def toValue (item : Item) : Value := .table item.entries

def ofValue (v : Value) : Except Unexpected Item :=
  match v with
  | .table entries => do
    let id ← required entries "id"
    let fullPath ← required entries "fullPath"
    let index ← required entries "index"
    return { id, fullPath, index, content := optional entries "data",
             tree := optional entries "ast" }
  | _ => .error .wrongType

/-- A new item for a path that was found from a working directory. -/
def create (id : Text) (workingDirectory path : Text) : Item where
  id := .text id
  fullPath := .text (Path.resolve workingDirectory path)
  index := .text path
  content := some (.text [])
  tree := some (.table [])

end Item

namespace Items

/-- The stored form of all items. -/
def toTable (items : Items) : Value.Table := items.mapValues Item.toValue

def ofTable : Value.Table → Except Unexpected Items
  | [] => .ok []
  | (key, v) :: rest => do
    let item ← Item.ofValue v
    return (key, item) :: (← ofTable rest)

def ofValue (v : Value) : Except Unexpected Items :=
  match v with
  | .table entries => ofTable entries
  | _ => .error .noMember

end Items

end SourceLedger
