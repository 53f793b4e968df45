import SourceLedger.Proofs.Loading.Contents
import SourceLedger.Proofs.Store.Merged
import SourceLedger.Proofs.Text.Utf8

/-!
# Contents are kept byte for byte

The content of an item is decoded from the bytes of its file, written into the document and read
back by a new store. Encoding it gives these bytes again, whatever line ends, marks and control
characters are among them. The one thing that can come between is the path of the document: where
it came past its own end, a new store finds no document at all.
-/

namespace SourceLedger

open FileSystem

namespace Loading

variable {fs : FileSystem} {v : Value} {w w' : Workspace} {d : Document} {items : Items} {n : Nat}

/-- What content belongs to a full path: a text with exactly the bytes of the regular file that it
leads to, and none if it does not lead to one. -/
inductive Holds (fs : FileSystem) (fullPath : Value) : Option Value → Prop
  | file {path t : Text} {bytes : Bytes} (isPath : fullPath = .text path)
      (found : fs.find true path = .ok (.file bytes)) (encoded : Utf8.encode t = .ok bytes) :
      Holds fs fullPath (some (.text t))
  | other (noFile : ∀ path node, fullPath = .text path → fs.find true path = .ok node →
        node.isRegular = false) :
      Holds fs fullPath none

/-- The full path of an item leads to a regular file. -/
def leadsToFile (fs : FileSystem) (item : Item) : Bool :=
  match item.fullPath.asText?.map (fs.find true) with
  | some (.ok node) => node.isRegular
  | _ => false

/-- A text that was read has the bytes of its file. -/
theorem holds_textAt {r : Option (Text × Text)} (read : readContent fs v = .ok r) :
    Holds fs v ((textAt fs v).map .text) := by
  rw [textAt_of_ok read]
  cases r with
  | none => exact .other fun path node isPath => readContent_none read isPath
  | some r =>
      obtain ⟨path, bytes, s, isPath, found, decoded, rfl⟩ := readContent_some read
      refine .file isPath found ?_
      rw [Utf8.encode_ofChars, Utf8.encodeChars_of_decode decoded]

theorem leadsToFile_eq {item : Item} {r : Option (Text × Text)}
    (read : readContent fs item.fullPath = .ok r) :
    leadsToFile fs item = (reread fs item).hasContent := by
  have holds := holds_textAt read
  rw [Item.hasContent, reread, leadsToFile]
  generalize (textAt fs item.fullPath).map Value.text = content at holds ⊢
  cases holds with
  | file isPath found _ =>
      simp only [isPath, Value.asText?, Option.map_some, found]
      rfl
  | other noFile =>
      split
      · next leads =>
        obtain ⟨path, isPath, found⟩ := Option.map_eq_some_iff.mp leads
        exact noFile path _ (Value.asText?_eq_some.mp isPath) found
      · rfl

/-- The law of loaded contents. If loading them succeeds, a new store reads the same items with the
same other parts, where each item has a content that encodes to the bytes of the regular file at its
full path, or none if there is no such file; unless the path of the document came past its own end.
The number of full paths that lead to regular files is answered. -/
theorem contents_byte_for_byte (tree : w.files.IsTree) (proper : w.store.path.Proper)
    (loaded : Store.load w = (.ok d, Store.holding w d)) (complete : d.Complete)
    (tracks : Store.Tracks d items) (done : loadContents w = (.ok n, w')) :
    Writing.UnlessPast w.files w'.files w.store.path
        ((Store.items { w' with store := Store.new w.store.path }).1 =
          .ok (items.mapValues (reread w.files))) ∧
      (∀ e ∈ items, Holds w.files e.2.fullPath (reread w.files e.2).content) ∧
      n = (items.fullPathsOf (leadsToFile w.files)).length := by
  rcases loadContents_of_load loaded with
    ⟨failure, log, failed, -⟩ | ⟨items', log, tracks', read, run⟩
  · cases failed.symm.trans done
  obtain rfl := tracks'.unique tracks
  obtain ⟨rfl, written, rfl⟩ := Store.mergeItems_eq_ok (run.symm.trans done)
  refine ⟨?_, fun e he => ?_, ?_⟩
  · have complete' : (Store.withItems d (items.mapValues (reread w.files))).Complete :=
      tracks.complete_mapValues complete fun e _ distinct => reread_distinct distinct
    have tracks' : Store.Tracks (Store.withItems d (items.mapValues (reread w.files))) _ :=
      tracks.mapValues complete.distinct fun e he => reread_plain (tracks.plain e he)
    exact (Store.load_of_written (w := { w with log }) tree (ending_of_proper proper) complete'
      written).imp fun read => Store.items_of_load_ok read tracks'
  · obtain ⟨r, read⟩ := read e he
    exact holds_textAt read
  · rw [Items.fullPathsOf_mapValues (f := reread w.files) fun _ => rfl]
    refine congrArg List.length (Items.fullPathsOf_congr fun e he => ?_)
    obtain ⟨r, read⟩ := read e he
    exact (leadsToFile_eq read).symm

section Examples

/-- A byte order mark, both line ends, a control character and one beyond the first plane. -/
def oddBytes : Bytes := Utf8.encodeChars "\uFEFFx\r\ny\n\x01😀".toList

/-- One item for a file and one for a directory. -/
def fileAndDirectory : Items :=
  [("a.py", Item.create "0" "/" "a.py"), ("d", Item.create "1" "/" "d")]

def withFileAndDirectory : Document := Store.withItems (Document.withDefaults []) fileAndDirectory

theorem withFileAndDirectory_complete : withFileAndDirectory.Complete :=
  Store.withItems_new_complete (by decide) (by simp [fileAndDirectory, Item.create_distinct])

/-- A workspace with such a file and directory, that holds a document with their items. -/
def aboutToRead (nodes : List (Location × Node)) (path : Text) : Workspace :=
  let given : List (Location × Node) := [(["a.py"], .file oddBytes), (["d"], .directory)]
  Store.holding (Store.opened (given ++ nodes) path) withFileAndDirectory

theorem contents_byte_for_byte_odd :
    let w := aboutToRead [] "db.json"
    let d := withFileAndDirectory
    let items := fileAndDirectory
    ∃ w', (w.files.IsTree ∧ w.store.path.Proper ∧ Store.load w = (.ok d, Store.holding w d) ∧
        d.Complete ∧ Store.Tracks d items ∧ loadContents w = (.ok 1, w')) ∧
      Writing.UnlessPast w.files w'.files w.store.path
        ((Store.items { w' with store := Store.new w.store.path }).1 =
          .ok (items.mapValues (reread w.files))) ∧
      (∀ e ∈ items, Holds w.files e.2.fullPath (reread w.files e.2).content) ∧
      1 = (items.fullPathsOf (leadsToFile w.files)).length := by
  intro w d items
  have tree : w.files.IsTree := isTree_of_nodes (by decide +kernel)
  have proper : w.store.path.Proper := Path.ofText_proper _
  have complete : d.Complete := withFileAndDirectory_complete
  have answer : (loadContents w).1.toOption = some 1 := by decide +kernel
  have done : loadContents w = (.ok 1, (loadContents w).2) :=
    Prod.ext (eq_ok_of_toOption answer) rfl
  exact ⟨_, ⟨tree, proper, rfl, complete, rfl, done⟩,
    contents_byte_for_byte tree proper rfl complete rfl done⟩

/-- The path of a document can go through a link of the name at its own end. Once the document has
taken the place of the link, the path leads nowhere, and a new store has no items. -/
theorem document_past_its_end :
    let w := aboutToRead [(["sub"], .directory), (["db.json"], .link "sub")]
      "db.json/x/../../db.json"
    let itemsRead (w : Workspace) := (Store.items { w with store := Store.new w.store.path }).1
    (loadContents w).1.toOption = some 1 ∧
      (Store.items (loadContents w).2).1.toOption.map Entries.keys = some [("a.py" : Text), "d"] ∧
      (itemsRead (loadContents w).2).toOption.map Entries.keys = some [] := by
  decide +kernel

end Examples

end Loading

end SourceLedger
