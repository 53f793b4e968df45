import SourceLedger.Store.Writing

/-!
# The store

The store holds the document in memory. It is read when it is first needed, and changes reach
the disk when the document is flushed. Namespaces are read and written as a whole. What goes in or
comes out of the store is a copy, of values nested to any depth: only the text of a document has a
limit of nesting here.
-/

namespace SourceLedger

namespace Value

/-- What a list item stands for when a table is updated with it. -/
def updateOf (n : Nat) (item : Value) : Except Unexpected (Text × Value) :=
  let parts : Option (List Value) :=
    match item with
    | .list vs => some vs
    | .text t => some (t.map fun c => .text [c])
    | .table es => some (es.map fun (k, _) => .text k)
    | _ => none
  match parts with
  | none => .error .wrongType
  | some [.text k, v] => .ok (k, v)
  | some [_, _] => .error .wrongType
  | some vs =>
    .error <| .badValue <|
      "dictionary update sequence element #" ++ Text.ofNat n ++ " has length " ++
        Text.ofNat vs.length ++ "; 2 is required"

/-- The entries that a table is updated with: those of a table, or a list of pairs. -/
def updates (v : Value) : Except Unexpected Table :=
  match v with
  | .table es => .ok es
  | .list items => items.zipIdx.mapM fun (item, n) => updateOf n item
  | .text t => t.zipIdx.mapM fun (c, n) => updateOf n (.text [c])
  | _ => .error .wrongType

end Value

namespace Store

def remember (d : Document) : Job Unit :=
  modify fun w => { w with store := { w.store with cached := some d } }

/-- The document, read from disk if that has not been done. -/
def load : Job Document := do
  let w ← get
  match w.store.cached with
  | some d => return d
  | none =>
    let d ← Job.ofExcept (Document.read w.files w.store.path)
    remember d
    return d

/-- One namespace; an absent one is empty. -/
def getNamespace (name : Text) : Job Value := do
  return ((← load).get? name).getD (.table [])

/-- Replaces one namespace in memory. -/
def putNamespace (name : Text) (value : Value) : Job Unit := do
  remember (Entries.put (← load) name value)

/-- Writes the whole document to disk. -/
def flush : Job Unit := do
  let d ← load
  let path := (← get).store.path
  match ← Job.script (Writing.write path d).run with
  | .ok () => return
  | .error problem => Job.fail (problem.failure path)

/-- Writes entries into a namespace, replacing it if it is no table, and flushes. -/
def merge (name : Text) (update : Value) : Job Unit := do
  let d ← load
  let current := ((d.get? name).bind Value.asTable?).getD []
  let entries ← Job.ofUnexpected update.updates
  remember (d.put name (.table (current.update entries)))
  flush

/-- Forgets the document in memory. -/
def close : Job Unit :=
  modify fun w => { w with store := { w.store with cached := none } }

/-- Runs a job and forgets the document afterwards, however the job ends. -/
def closing {α : Type} (job : Job α) : Job α := fun w =>
  let (r, w) := job w
  (r, { w with store := { w.store with cached := none } })

/-- How many files a document tracks, and of how many it has content and tree. -/
structure Summary where
  files : Nat
  loaded : Nat
  parsed : Nat
  deriving DecidableEq, Repr

def tableOf (v : Value) : Except Unexpected Value.Table :=
  match v with
  | .table es => .ok es
  | _ => .error .noMember

/-- Only texts, lists and tables have a length, and only tables have entries. -/
def Summary.ofValue (files : Value) : Except Unexpected Summary := do
  let entries ←
    match files with
    | .table es => pure es
    | .list _ | .text _ => throw .noMember
    | _ => throw .wrongType
  let items ← entries.mapM fun (_, v) => tableOf v
  let hasContent (es : Value.Table) : Bool :=
    match Entries.get? es "data" with
    | none | some .null => false
    | some _ => true
  let hasTree (es : Value.Table) : Bool := !((Entries.get? es "ast").getD .null).isEmpty
  return { files := entries.length, loaded := items.countP hasContent,
           parsed := items.countP hasTree }

def summary : Job Summary := do
  Job.ofUnexpected (Summary.ofValue (← getNamespace Document.filesName))

/-- The items of the document. -/
def items : Job Items := do
  Job.ofUnexpected (Items.ofValue (← getNamespace Document.filesName))

/-- Writes items over those of the same path, and flushes. -/
def mergeItems (items : Items) : Job Unit :=
  merge Document.filesName (.table items.toTable)

/-- The full path of every item. -/
def fullPaths : Job (List Value) := do
  match ← getNamespace Document.filesName with
  | .table es =>
    es.mapM fun (_, v) =>
      match v with
      | .table entries =>
        match Entries.get? entries "fullPath" with
        | some p => pure p
        | none => Job.fail (.unexpected (.missingKey "fullPath"))
      | _ => Job.fail (.unexpected .wrongType)
  | _ => Job.fail (.unexpected .noMember)

end Store

/-- The name of the document file. -/
def Document.fileName : Text := "db.json"

/-- Where the document of an output directory is. -/
def Document.pathIn (directory : Path) : Path := directory.child fileName

end SourceLedger
