import SourceLedger.Proofs.Store.Atomic
import SourceLedger.Proofs.Store.Document

/-!
# The store as two levels

A store is a document on disk and perhaps one in memory. Work is done on the one in memory, which
is the one on disk until there is another, and it reaches the disk when a merge or flush succeeds.
Closing forgets it.

What is on disk is what a new store reads, for every sequence of operations and however writing
fails.
-/

namespace SourceLedger

open FileSystem

namespace Store

/-- What can be done with a store. -/
inductive Operation
  | load
  | getNamespace (name : Text)
  | putNamespace (name : Text) (value : Value)
  | merge (name : Text) (update : Value)
  | flush
  | close

namespace Operation

/-- The job that does it and what it answers. -/
def job : Operation → Job Value
  | load => do return .table (← Store.load)
  | getNamespace name => Store.getNamespace name
  | putNamespace name value => do Store.putNamespace name value; return .null
  | merge name update => do Store.merge name update; return .null
  | flush => do Store.flush; return .null
  | close => do Store.close; return .null

/-- The values that are handed to the store have no key twice. -/
def Distinct : Operation → Prop
  | putNamespace _ value => value.Distinct
  | merge _ update => update.Distinct
  | _ => True

end Operation

/-- The document on disk and the one in memory. -/
structure Levels where
  disk : Document
  memory : Option Document

namespace Levels

/-- The document that work is done on. -/
def current (m : Levels) : Document := m.memory.getD m.disk

/-- A document is written to disk, if that succeeds. -/
def write (m : Levels) (succeeds : Bool) (d : Document) : Levels where
  disk := if succeeds then d else m.disk
  memory := some d

/-- What an operation does to the levels. -/
def step (m : Levels) (succeeds : Bool) : Operation → Levels
  | .load | .getNamespace _ => { m with memory := some m.current }
  | .putNamespace name value => { m with memory := some (m.current.put name value) }
  | .merge name update =>
    match update.updates with
    | .error _ => { m with memory := some m.current }
    | .ok entries => m.write succeeds (merged m.current name entries)
  | .flush => m.write succeeds m.current
  | .close => { m with memory := none }

/-- What an operation answers. -/
def answer (m : Levels) : Operation → Value
  | .load => .table m.current
  | .getNamespace name => (m.current.get? name).getD (.table [])
  | _ => .null

end Levels

theorem distinct_updateOf {n : Nat} {item : Value} (h : item.Distinct) {e : Text × Value}
    (hu : Value.updateOf n item = .ok e) : e.2.Distinct := by
  have parts : ∀ vs : List Value, (∀ v ∈ vs, v.Distinct) →
      Value.updateOf n (.list vs) = .ok e → e.2.Distinct := by
    intro vs hvs heq
    simp only [Value.updateOf] at heq
    split at heq
    · cases heq
    · next k v hsome =>
      cases hsome
      cases heq
      exact hvs v (by simp)
    · cases heq
    · cases heq
  cases item with
  | list vs => exact parts vs (Value.distinct_list.mp h) hu
  | text t => exact parts (t.map fun c => .text [c]) (by simp) hu
  | table es =>
      refine parts _ ?_ hu
      intro v hv
      obtain ⟨⟨k, _⟩, _, rfl⟩ := List.mem_map.mp hv
      exact Value.distinct_text k
  | null | bool | int | real | moment => cases hu

/-- What a table is updated with has no key twice where the values it came from have not. -/
theorem distinct_updates {update : Value} (h : update.Distinct) {entries : Value.Table}
    (hu : update.updates = .ok entries) : ∀ e ∈ entries, e.2.Distinct := by
  intro e he
  cases update with
  | table es =>
      cases hu
      exact (Value.distinct_table.mp h).2 e he
  | list items =>
      obtain ⟨⟨item, n⟩, hx, hf⟩ := exists_of_mapM_eq_ok hu e he
      exact distinct_updateOf (Value.distinct_list.mp h item (List.fst_mem_of_mem_zipIdx hx)) hf
  | text t =>
      obtain ⟨⟨c, n⟩, _, hf⟩ := exists_of_mapM_eq_ok hu e he
      exact distinct_updateOf (Value.distinct_text [c]) hf
  | null | bool | int | real | moment => cases hu

/-- There is no document at a path, and one that is written there will be found. There may be a link
that leads nowhere, but not to where the document is going to be drafted. -/
structure Unwritten (fs : FileSystem) (path : Path) : Prop where
  missing : Missing fs path
  settled : Settled fs path
  straight : Writing.Straight fs path
  undrafted : ∀ place, ¬Writing.LeadsToDraft fs path place

section Unwritten

variable {fs fs' : FileSystem} {path : Path} {w : Json.Written}

theorem unwritten_of_vacant (tree : fs.IsTree) (proper : path.Proper) (vacant : Vacant fs path)
    (settled : Settled fs path) : Unwritten fs path where
  missing := vacant.missing
  settled := settled
  straight := Writing.straight_of_vacant tree proper vacant
  undrafted := by
    rintro _ ⟨⟨above, n, rfl⟩, -, free, walk⟩
    obtain ⟨place, hw, rfl | ⟨target, link⟩⟩ := walk_false_of_walk_true walk
    · obtain ⟨before, ends⟩ := (ending_of_proper proper).ends tree hw (by simp [free])
      obtain ⟨_, there, _, heq⟩ := ends.walk_iff.mp hw
      obtain ⟨_, heq⟩ := List.append_inj' heq rfl
      exact Writing.temporaryName_ne (List.singleton_inj.mp heq)
    · exact vacant _ (find_eq_ok_iff.mpr ⟨place, hw, link⟩)

/-- There is no document as long as there is at most a draft of it. -/
theorem Unwritten.halfway (unwritten : Unwritten fs path) (tree : fs.IsTree) (proper : path.Proper)
    (halfway : Writing.Halfway fs path fs') : Unwritten fs' path := by
  have settled := unwritten.settled.keeps halfway.keeps
  have intact := halfway.intact tree proper
  have tree' := halfway.isTree tree
  cases halfway with
  | unchanged => exact unwritten
  | broken segments breaks =>
      exact unwritten_of_vacant tree' proper (breaks.vacant proper segments) settled
  | drafted draft =>
      by_cases vacant : Vacant fs path
      · exact unwritten_of_vacant tree' proper (intact.vacant vacant) settled
      -- There is a link that leads nowhere, and it still does.
      simp only [Vacant, not_forall, not_not] at vacant
      obtain ⟨link, found⟩ := vacant
      refine ⟨intact.missing unwritten.missing unwritten.undrafted, settled,
        unwritten.straight.keeps found intact.keeps, ?_⟩
      rintro place ⟨named, ⟨n, beside⟩, free, walk⟩
      refine unwritten.undrafted place ⟨named, ⟨n, walk_of_put_file draft.free beside⟩, ?_,
        walk_of_put_file draft.free walk⟩
      cases hn : fs.node? place with
      | none => rfl
      | some node => cases free.symm.trans (intact.keeps.node _ _ hn)

end Unwritten

/-- What there is at a path is a document: that of a file, or the empty one where none is. -/
inductive OnDisk (fs : FileSystem) (path : Path) : Document → Prop
  | absent (unwritten : Unwritten fs path) : OnDisk fs path (Document.withDefaults [])
  | present {bytes : Bytes} {d : Document} (read : fs.read path.toText = .ok bytes)
      (denotes : Document.ofBytes bytes = .ok d) : OnDisk fs path d.withDefaults

variable {w : Workspace} {fs : FileSystem} {path : Path} {d disk : Document} {m : Levels}

namespace OnDisk

/-- A new store reads it, if the path can be looked at. -/
theorem read (h : OnDisk fs path d) (absent : Missing fs path → Absent fs path) :
    Document.read fs path = .ok d := by
  cases h with
  | absent unwritten => exact Document.read_of_absent (absent unwritten.missing)
  | present read denotes => exact Document.read_of_bytes read denotes

theorem eq_of_read {d' : Document} (h : OnDisk fs path d) (read : Document.read fs path = .ok d') :
    d' = d := by
  cases h with
  | absent unwritten => exact Document.eq_of_read_missing unwritten.missing read
  | present bytes denotes =>
      exact Except.ok.inj (read.symm.trans (Document.read_of_bytes bytes denotes))

theorem complete (h : OnDisk fs path d) : d.Complete := by
  cases h with
  | absent => exact Document.withDefaults_complete Value.Table.distinct_nil
  | present _ denotes => exact Document.withDefaults_complete (Document.distinct_of_ofBytes denotes)

theorem settled (h : OnDisk fs path d) (proper : path.Proper) : Settled fs path := by
  cases h with
  | absent unwritten => exact unwritten.settled
  | present read => exact settled_of_find proper (read_eq_ok_iff.mp read)

theorem straight (h : OnDisk fs path d) (tree : fs.IsTree) (proper : path.Proper) :
    Writing.Straight fs path := by
  cases h with
  | absent unwritten => exact unwritten.straight
  | present read =>
      rw [read_eq_ok_iff] at read
      exact Writing.straight_of_find tree proper (by simp [read]) (by simp [read])

/-- What is on disk stays there while a document is being written. -/
theorem underway {fs' : FileSystem} {w : Json.Written} (h : OnDisk fs path d)
    (underway : Writing.Underway fs path w fs') (tree : fs.IsTree) (proper : path.Proper) :
    OnDisk fs' path d := by
  cases h with
  | absent unwritten => exact .absent (unwritten.halfway tree proper underway.halfway)
  | present read denotes => exact .present (underway.halfway.keeps.read read) denotes

/-- A document that was written is on disk. -/
theorem finished {fs' : FileSystem} (h : OnDisk fs path disk)
    (finished : Writing.Finished fs path (Json.write (.table d)) fs') (tree : fs.IsTree)
    (proper : path.Proper) (complete : d.Complete) : ¬Missing fs' path ∧ OnDisk fs' path d := by
  obtain ⟨text, htext, replaced⟩ := storesWhole_of_finished finished proper
  have found := replaced.reads (h.straight tree proper)
  have denotes := Document.ofBytes_of_text? complete.distinct htext
  refine ⟨fun missing => missing _ (found true), ?_⟩
  exact complete.withDefaults ▸ OnDisk.present (read_eq_ok_iff.mpr (found true)) denotes

end OnDisk

/-- A workspace and two levels agree on what is in memory and on disk. -/
structure Agrees (path : Path) (w : Workspace) (m : Levels) : Prop where
  store : w.store = ⟨path, m.memory⟩
  tree : w.files.IsTree
  disk : OnDisk w.files path m.disk
  absent : Missing w.files path → Absent w.files path
  memory : ∀ d, m.memory = some d → d.Complete

namespace Agrees

theorem current (h : Agrees path w m) : m.current.Complete := by
  unfold Levels.current
  cases hm : m.memory with
  | none => exact h.disk.complete
  | some d => exact h.memory d hm

theorem load (h : Agrees path w m) : load w = (.ok m.current, holding w m.current) := by
  have cached : w.store.cached = m.memory := by rw [h.store]
  have read : Document.read w.files w.store.path = .ok m.disk := by
    rw [h.store, h.disk.read h.absent]
  unfold Levels.current
  cases hm : m.memory with
  | some d => exact load_of_cached (cached.trans hm)
  | none =>
      rw [load_of_none (cached.trans hm), read]
      rfl

/-- Having another document in memory changes nothing on disk. -/
theorem holding (h : Agrees path w m) (complete : d.Complete) :
    Agrees path (holding w d) { m with memory := some d } where
  store := by rw [Store.holding, h.store]
  tree := h.tree
  disk := h.disk
  absent := h.absent
  memory d' hd := by
    cases hd
    exact complete

/-- A job that works in memory only, with the document that it leaves there and its answer. -/
theorem held (h : Agrees path w m) (complete : d.Complete) {job : Job Value} {v : Value}
    (run : job w = (.ok v, Store.holding w d)) :
    Agrees path (job w).2 { m with memory := some d } ∧ ∀ v', (job w).1 = .ok v' → v' = v := by
  rw [run]
  refine ⟨h.holding complete, ?_⟩
  rintro _ ⟨⟩
  rfl

/-- Writing a document puts it on disk, if it succeeds. -/
theorem written (h : Agrees path w m) (proper : path.Proper) (nameable : Nameable path)
    (complete : d.Complete) :
    Agrees path (written w d) (m.write (writing w d).result.isOk d) := by
  have hpath : w.store.path = path := by rw [h.store]
  have settled := h.disk.settled proper
  have cases := writing_cases (w := w) d h.tree (hpath ▸ proper) (hpath ▸ settled)
  have tree : (Store.written w d).files.IsTree := Script.isTree_final _ _ h.tree
  have store : (Store.written w d).store = ⟨path, some d⟩ := by
    simp only [Store.written, Store.holding, hpath]
  have memory : ∀ d', some d = some d' → d'.Complete := by
    rintro _ ⟨⟩
    exact complete
  rw [hpath] at cases
  rcases cases with ⟨problem, failed, underway⟩ | ⟨done, finished⟩
  · rw [failed]
    refine ⟨store, tree, h.disk.underway underway h.tree proper, fun missing => ?_, memory⟩
    have halfway := underway.halfway
    exact halfway.absent proper nameable missing (h.absent (missing.of_keeps halfway.keeps))
  · rw [done]
    obtain ⟨filled, disk⟩ := h.disk.finished finished h.tree proper complete
    exact ⟨store, tree, disk, fun missing => absurd missing filled, memory⟩

end Agrees

theorem merged_complete (complete : d.Complete) (name : Text) {update : Value}
    (h : update.Distinct) {entries : Value.Table} (hu : update.updates = .ok entries) :
    (merged d name entries).Complete := by
  have old : Value.Table.Distinct (((Entries.get? d name).bind Value.asTable?).getD []) := by
    cases hv : Entries.get? d name with
    | none => exact Value.Table.distinct_nil
    | some v =>
        have hd := complete.distinct.get? hv
        cases v with
        | table es => exact hd
        | _ => exact Value.Table.distinct_nil
  exact complete.put name (old.update (distinct_updates h hu))

/-- Of a job that writes a document, whether that succeeds is all there is to know. -/
theorem agrees_writing (h : Agrees path (written w d) (m.write (writing w d).result.isOk d))
    {job : Job Unit}
    (run : job w = ((writing w d).result.mapError (·.failure w.store.path), written w d)) :
    let r := (do job; return .null : Job Value) w
    Agrees path r.2 (m.write r.1.isOk d) ∧ ∀ v, r.1 = .ok v → v = .null := by
  intro r
  cases hr : (writing w d).result with
  | error problem =>
      rw [hr] at run h
      have run : r = (.error (problem.failure w.store.path), written w d) := Job.bind_of_error run
      rw [run]
      exact ⟨h, nofun⟩
  | ok =>
      rw [hr] at run h
      have run : r = (.ok .null, written w d) := Job.bind_of_ok run
      rw [run]
      refine ⟨h, ?_⟩
      rintro v ⟨⟩
      rfl

/-- What an operation does and answers, in a workspace as in the two levels. -/
theorem agrees_step (proper : path.Proper) (nameable : Nameable path) (h : Agrees path w m)
    {op : Operation} (distinct : op.Distinct) :
    Agrees path (op.job w).2 (m.step (op.job w).1.isOk op) ∧
      ∀ v, (op.job w).1 = .ok v → v = m.answer op := by
  have loaded := h.load
  cases op with
  | load =>
      have run : Operation.load.job w = (.ok (.table m.current), Store.holding w m.current) :=
        Job.bind_of_ok loaded
      exact h.held h.current run
  | getNamespace name =>
      have run : (Operation.getNamespace name).job w =
          (.ok ((m.current.get? name).getD (.table [])), Store.holding w m.current) :=
        Job.bind_of_ok loaded
      exact h.held h.current run
  | putNamespace name value =>
      have put : Store.putNamespace name value w =
          (.ok (), Store.holding w (m.current.put name value)) :=
        (Job.bind_of_ok loaded).trans rfl
      have run : (Operation.putNamespace name value).job w =
          (.ok .null, Store.holding w (m.current.put name value)) := Job.bind_of_ok put
      exact h.held (h.current.put name distinct) run
  | merge name update =>
      have run := merge_of_ok name update loaded
      simp only [Levels.step]
      cases hu : update.updates with
      | error e =>
          rw [hu] at run
          have run : (Operation.merge name update).job w = _ := Job.bind_of_error run
          rw [run]
          exact ⟨h.holding h.current, nofun⟩
      | ok entries =>
          rw [hu] at run
          have complete := merged_complete h.current name distinct hu
          exact agrees_writing (h.written proper nameable complete) run
  | flush => exact agrees_writing (h.written proper nameable h.current) (flush_of_ok loaded)
  | close =>
      refine ⟨⟨?_, h.tree, h.disk, h.absent, nofun⟩, ?_⟩
      · change ({ w.store with cached := none } : Store) = ⟨path, none⟩
        rw [h.store]
      · rintro v ⟨⟩
        rfl

/-- One operation after another, in a workspace and in the two levels. Whether writing succeeds is
decided in the workspace. -/
def perform (ops : List Operation) (w : Workspace) (m : Levels) : Workspace × Levels :=
  ops.foldl (fun (w, m) op => ((op.job w).2, m.step (op.job w).1.isOk op)) (w, m)

theorem agrees_perform (proper : path.Proper) (nameable : Nameable path) {ops : List Operation}
    (distinct : ∀ op ∈ ops, op.Distinct) (h : Agrees path w m) :
    Agrees path (perform ops w m).1 (perform ops w m).2 := by
  induction ops generalizing w m with
  | nil => exact h
  | cons op ops ih =>
      rw [List.forall_mem_cons] at distinct
      exact ih distinct.2 (agrees_step proper nameable h distinct.1).1

/-- A new store at the same path reads what is on disk. -/
theorem Agrees.reads (h : Agrees path w m) :
    (Store.load { w with store := Store.new path }).1 = .ok m.disk := by
  rw [load_of_none rfl]
  simp only [Store.new, h.disk.read h.absent]

section Examples

/-- A workspace with a new store. -/
def opened (nodes : List (Location × Node)) (path : Text) : Workspace where
  files := ⟨nodes, []⟩
  faults := []
  schedule := id
  store := Store.new (Path.ofText path)
  ids := ⟨0⟩
  log := []

end Examples

end Store

end SourceLedger
