import SourceLedger.Proofs.Loading.Trees
import SourceLedger.Proofs.Store.Merged

/-!
# What a rejected write leaves behind

A merge changes the document in memory and then writes it. If the writing fails, nothing takes the
change back: the namespace keeps the new entries, later writing carries them to disk, and one of
them that cannot be written makes it fail. Work that fails before it comes to the writing leaves
every namespace as it was.
-/

namespace SourceLedger

open FileSystem

namespace Store

variable {w w' : Workspace} {d : Document} {name : Text} {entries : Value.Table} {path : Path}

/-- After work a new store reads a document, unless its path came past its own end. -/
def Reads (w w' : Workspace) (path : Path) (d : Document) : Prop :=
  Writing.UnlessPast w.files w'.files path
    ((load { w' with store := Store.new path }).1 = .ok d)

/-- An entry of a namespace can be written. -/
def Writable (e : Text × Value) : Prop := e.1.isScalar = true ∧ e.2.Fits (Json.maxDepth - 2)

/-- Entries that were merged into a document are in memory, and nothing else has changed there. -/
structure Lingers (w : Workspace) (d : Document) (name : Text) (entries : Value.Table)
    (w' : Workspace) : Prop where
  here : (getNamespace name w').1 = .ok (.table ((tableIn d name).update entries))
  others : ∀ other, other ≠ name → (getNamespace other w').1 = (getNamespace other w).1
  /-- Flushing writes them. -/
  flushed : ∀ w'', flush w' = (.ok (), w'') → Reads w' w'' w.store.path (merged d name entries)
  /-- Merging others writes them too. -/
  carried : ∀ other update w'', Value.Table.Distinct update →
    merge other (.table update) w' = (.ok (), w'') →
    Reads w' w'' w.store.path (merged (merged d name entries) other update)
  /-- One that cannot be written makes all merges fail that do not replace it. -/
  blocks : ∀ e ∈ entries, ¬Writable e → ∀ other update w'', (Entries.keys update).Nodup →
    (other = name → e.1 ∉ Entries.keys update) → merge other (.table update) w' ≠ (.ok (), w'')

/-- What keeps an entry that cannot be written cannot be written. -/
theorem fault_of_kept (distinct : Value.Table.Distinct d) (nodup : (Entries.keys entries).Nodup)
    {e : Text × Value} (he : e ∈ entries) (unwritable : ¬Writable e) {other : Text}
    {update : Value.Table} (nodup' : (Entries.keys update).Nodup)
    (kept : other = name → e.1 ∉ Entries.keys update)
    (distinct' : Value.Table.Distinct (merged d name entries)) :
    (Json.write (.table (merged (merged d name entries) other update))).fault ≠ none := by
  intro written
  obtain ⟨⟨others, older⟩, -⟩ := fits_of_fault_merged distinct' nodup' written
  have here := (get?_merged d name name entries).trans (if_pos rfl)
  by_cases same : other = name
  · subst same
    have found : Entries.get? (tableIn (merged d other entries) other) e.1 = some e.2 := by
      rw [tableIn, here]
      refine (Entries.get?_update nodup _).trans ?_
      rw [Entries.get?_of_mem nodup he, Option.some_or]
    exact unwritable (older _ _ found (kept rfl))
  · have fits := (others name _ here (Ne.symm same)).2
    exact unwritable (((fits_updated_iff distinct nodup name (Json.maxDepth - 2)).mp fits).2 e he)

/-- Nothing is taken back after a document was written or not. -/
theorem lingers_of_merged {log : List Message} (tree : w.files.IsTree)
    (ending : Ending w.store.path) (loaded : load w = (.ok d, holding w d))
    (distinct : Value.Table.Distinct d) (nodup : (Entries.keys entries).Nodup)
    (complete : (merged d name entries).Complete) :
    Lingers w d name entries (written { w with log } (merged d name entries)) := by
  have loaded' : load (written { w with log } (merged d name entries)) = (.ok _, _) :=
    load_of_cached rfl
  have tree' : (written { w with log } (merged d name entries)).files.IsTree :=
    Script.isTree_final _ _ tree
  refine ⟨?_, fun other ne => ?_, fun w'' done => ?_, fun other update w'' distinct' done => ?_,
    fun e he unwritable other update w'' nodup' kept done => ?_⟩
  · rw [getNamespace_of_load loaded', namespaceOf_merged]
  · rw [getNamespace_of_load loaded', getNamespace_of_load loaded,
      namespaceOf_merged_of_ne (Ne.symm ne)]
  · rw [flush_of_ok loaded'] at done
    obtain ⟨result, rfl⟩ := Prod.mk.inj done
    exact load_of_written tree' ending complete (mapError_eq_ok result)
  · obtain ⟨result, rfl⟩ := merge_eq_ok loaded' done
    exact load_of_written tree' ending (merged_complete complete other distinct' rfl) result
  · have fault := fault_of_written tree' ending (merge_eq_ok loaded' done).1
    exact fault_of_kept distinct nodup he unwritable nodup' kept complete.distinct fault

end Store

namespace Loading

/-- Work that ends in a merge: merging entries or items, and loading contents or trees. -/
inductive Merging
  | entries (name : Text) (update : Value.Table)
  | items (items : Items)
  | contents
  | trees (parser : SourceParser)
  /-- With a parser of the options that the document asks for. -/
  | storedTrees

namespace Merging

variable {w w' : Workspace} {d : Document} {name : Text} {entries : Value.Table} {m : Merging}

def job : Merging → Job Unit
  | .entries name update => Store.merge name (.table update)
  | .items new => Store.mergeItems new
  | .contents => loadContents >>= fun _ => pure ()
  | .trees parser => loadTreesWith parser >>= fun _ => pure ()
  | .storedTrees => loadTrees none >>= fun _ => pure ()

/-- Nothing that is merged in has a key twice. -/
def Distinct : Merging → Prop
  | .entries _ update => Value.Table.Distinct update
  | .items new => (Entries.keys new).Nodup ∧ ∀ e ∈ new, e.2.Distinct
  | .trees parser => ∀ source path tree, parser source path = .ok tree → tree.Distinct
  | .contents | .storedTrees => True

/-- The merge that work comes to with a document: work on items comes to it if all can be read, and
if trees can be made of all contents and stored under all full paths. -/
inductive Attempts (w : Workspace) (d : Document) : Merging → Text → Value.Table → Prop
  | entries (name : Text) (update : Value.Table) : Attempts w d (.entries name update) name update
  | items (new : Items) : Attempts w d (.items new) Document.filesName new.toTable
  | contents {old : Items} (tracks : Store.Tracks d old) (read : AllRead w.files old) :
      Attempts w d .contents Document.filesName (Items.toTable (old.mapValues (reread w.files)))
  | trees {parser : SourceParser} {old : Items} {made : List (Text × Value)}
      (tracks : Store.Tracks d old) (isMade : MadeBy parser old made) (keyed : Keyed old) :
      Attempts w d (.trees parser) Document.filesName
        (Items.toTable (old.mapValues (withTree (Entries.ofList made))))
  | storedTrees {options : ParseOptions} {name : Text} {update : Value.Table}
      (accepted : optionsOf d = .ok options)
      (attempts : Attempts w d (.trees (Parsing.attempt options)) name update) :
      Attempts w d .storedTrees name update

/-- Work comes to no more than one merge. -/
theorem Attempts.unique {name' : Text} {entries' : Value.Table}
    (attempts : m.Attempts w d name entries) (attempts' : m.Attempts w d name' entries') :
    name' = name ∧ entries' = entries := by
  induction attempts with
  | entries | items =>
      cases attempts'
      exact ⟨rfl, rfl⟩
  | contents tracks read =>
      cases attempts' with
      | contents tracks' read' => exact ⟨rfl, by rw [tracks.unique tracks']⟩
  | trees tracks isMade keyed =>
      cases attempts' with
      | trees tracks' isMade' keyed' =>
        rw [tracks.unique tracks'] at isMade' ⊢
        exact ⟨rfl, by rw [isMade.unique isMade']⟩
  | storedTrees accepted attempts ih =>
      cases attempts' with
      | storedTrees accepted' attempts' =>
        cases accepted.symm.trans accepted'
        exact ih attempts'

theorem Attempts.complete (attempts : m.Attempts w d name entries) (complete : d.Complete)
    (distinct : m.Distinct) :
    (Entries.keys entries).Nodup ∧ (Store.merged d name entries).Complete := by
  have changed {items : Items} {f : Item → Item} (tracks : Store.Tracks d items)
      (distinct : ∀ e ∈ items, e.2.Distinct → (f e.2).Distinct) :
      (Entries.keys (Items.toTable (items.mapValues f))).Nodup ∧
        (Store.withItems d (items.mapValues f)).Complete := by
    refine ⟨?_, tracks.complete_mapValues complete distinct⟩
    rw [Items.keys_toTable, Entries.keys_mapValues]
    exact tracks.nodup complete.distinct
  induction attempts with
  | entries name update =>
      have whole : (Value.table update).Distinct := distinct
      exact ⟨Value.Table.Distinct.nodup distinct, Store.merged_complete complete name whole rfl⟩
  | items new =>
      exact ⟨(Items.keys_toTable new).symm ▸ distinct.1,
        Store.withItems_complete complete distinct.1 distinct.2⟩
  | contents tracks read => exact changed tracks fun _ _ => reread_distinct
  | trees tracks isMade keyed => exact changed tracks fun _ _ => isMade.distinct_withTree distinct
  | storedTrees accepted attempts ih =>
      exact ih fun _ _ _ parsed => Parsing.distinct_parse (mapError_eq_ok parsed)

/-- Where the document cannot be read, nothing happens. -/
theorem job_of_unread (m : Merging) {failure : Failure}
    (unread : Store.load w = (.error failure, w)) : m.job w = (.error failure, w) := by
  have space (name : Text) : Store.getNamespace name w = (.error failure, w) :=
    Job.bind_of_error unread
  have items : Store.items w = (.error failure, w) := Job.bind_of_error (space _)
  cases m with
  | entries | items => exact Job.bind_of_error unread
  | contents | trees => exact Job.bind_of_error (Job.bind_of_error items)
  | storedTrees =>
      have options : storedOptions w = (.error failure, w) := Job.bind_of_error (space _)
      exact Job.bind_of_error (Job.bind_of_error options)

/-- With a document, work comes to no merge, fails, and does nothing but read the document and
speak. -/
def StopsEarly (m : Merging) (w : Workspace) (d : Document) : Prop :=
  (∀ name entries, ¬m.Attempts w d name entries) ∧
    ∃ failure log, m.job w = (.error failure, { Store.holding w d with log })

/-- With a document, work comes to a merge and does nothing before it but read the document and
speak. -/
def Merges (m : Merging) (w : Workspace) (d : Document) : Prop :=
  ∃ name entries log, m.Attempts w d name entries ∧
    m.job w = Store.merge name (.table entries) { Store.holding w d with log }

theorem trees_of_load (parser : SourceParser)
    (loaded : Store.load w = (.ok d, Store.holding w d)) :
    (trees parser).StopsEarly w d ∨ (trees parser).Merges w d := by
  rcases loadTreesWith_of_load parser loaded with
    ⟨failure, log, failed, never⟩ | ⟨old, made, log, tracks, isMade, keyed, run⟩
  · refine .inl ⟨fun name entries attempts => ?_, failure, log, Job.bind_of_error failed⟩
    cases attempts with
    | trees tracks isMade keyed => exact never _ _ tracks isMade keyed
  · exact .inr ⟨_, _, log, .trees tracks isMade keyed, Job.discard_of_eq run⟩

theorem job_of_load (m : Merging) (loaded : Store.load w = (.ok d, Store.holding w d)) :
    m.StopsEarly w d ∨ m.Merges w d := by
  have inMemory (name : Text) (update : Value) :
      Store.merge name update w = Store.merge name update (Store.holding w d) :=
    (Store.merge_of_ok name update loaded).trans
      (Store.merge_of_ok (w := Store.holding w d) name update rfl).symm
  cases m with
  | entries name update => exact .inr ⟨name, update, w.log, .entries name update, inMemory _ _⟩
  | items new => exact .inr ⟨_, _, w.log, .items new, inMemory _ _⟩
  | contents =>
      rcases loadContents_of_load loaded with
        ⟨failure, log, failed, never⟩ | ⟨old, log, tracks, read, run⟩
      · refine .inl ⟨fun name entries attempts => ?_, failure, log, Job.bind_of_error failed⟩
        cases attempts with
        | contents tracks read => exact never _ tracks read
      · exact .inr ⟨_, _, log, .contents tracks read, Job.discard_of_eq run⟩
  | trees parser => exact trees_of_load parser loaded
  | storedTrees =>
      rcases loadTrees_of_load none loaded with
        ⟨fault, rejected, failed⟩ | ⟨options, accepted, loads⟩
      · refine .inl ⟨fun name entries attempts => ?_, _, w.log, Job.bind_of_error failed⟩
        cases attempts with
        | storedTrees accepted => cases accepted.symm.trans rejected
      · have works : storedTrees.job w =
            (trees (Parsing.attempt options)).job (Store.holding w d) := by
          rw [job, job, Job.bind_apply, Job.bind_apply, loads]
        rw [StopsEarly, Merges, works]
        rcases trees_of_load (w := Store.holding w d) (Parsing.attempt options) rfl with
          ⟨never, failed⟩ | ⟨_, _, log, attempts, run⟩
        · refine .inl ⟨fun name entries attempts => ?_, failed⟩
          cases attempts with
          | storedTrees accepted' attempts =>
            cases accepted'.symm.trans accepted
            cases attempts with
            | trees tracks isMade keyed => exact never _ _ (.trees tracks isMade keyed)
        · cases attempts with
          | trees tracks isMade keyed =>
            exact .inr ⟨_, _, log, .storedTrees accepted (.trees tracks isMade keyed), run⟩

end Merging

variable {w w' : Workspace} {d : Document} {failure : Failure}

section Examples

/-- A merge of an entry that has no bytes, since it is a lone surrogate. -/
def mergingSurrogate : Merging := .entries Document.configName Store.unwritable

end Examples

end Loading

end SourceLedger
