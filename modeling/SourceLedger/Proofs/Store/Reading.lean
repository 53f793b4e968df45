import SourceLedger.Proofs.Json.Faults
import SourceLedger.Proofs.Store.Tracked

/-!
# What reading a document comes to

A new store reads the file at its path when its document is first asked for. It answers a document
that has all members of the file and both namespaces, or it reports what is wrong with the file and
holds nothing, so that it reads again the next time. Two things are not looked out for: a path of
which the system cannot say what is there, and bytes that break no rule of the grammar and are not
read all the same. `Document.Escapes` lists them.
-/

namespace SourceLedger

open FileSystem

variable {fs : FileSystem} {path : Path} {d told : Document} {bytes : Bytes} {f : Failure}
  {u : Unexpected}

namespace Document

/-- Bytes that are not read for another reason than the encoding or the grammar: an integer in them
has more digits than are read, or values are nested too deeply. -/
inductive Unread (bytes : Bytes) : Unexpected → Prop
  | longInteger {s : List Char} {digits : Nat} (text : Utf8.decode bytes = .ok s)
      (many : Numeral.maxDigits < digits)
      (long : Json.read (Line.unify s) = .error (.longInteger digits)) :
      Unread bytes (.badValue (Numeral.tooLongToRead digits))
  | tooDeep {s : List Char} (text : Utf8.decode bytes = .ok s)
      (deep : Json.read (Line.unify s) = .error .tooDeep) : Unread bytes .tooDeep

/-- What is met unexpectedly when a document is read. -/
inductive Escapes (fs : FileSystem) (path : Path) : Unexpected → Prop
  | tooLong (long : fs.find true path.toText = .error (.system .nameTooLong)) :
      Escapes fs path SystemError.nameTooLong.unexpected
  | unread {bytes : Bytes} {u : Unexpected} (file : fs.read path.toText = .ok bytes)
      (unread : Unread bytes u) : Escapes fs path u

/-- The members that a file tells; where there is none, there are none. -/
inductive Tells (fs : FileSystem) (path : Path) : Document → Prop
  | nothing (absent : Absent fs path) : Tells fs path []
  | file {bytes : Bytes} {told : Document} (file : fs.read path.toText = .ok bytes)
      (denotes : ofBytes bytes = .ok told) : Tells fs path told

section Bytes

theorem ofBytes_of_decode {s : List Char} (text : Utf8.decode bytes = .ok s) :
    ofBytes bytes = ofChars (Line.unify s) := by
  rw [ofBytes, text]
  rfl

/-- A file that is no document is reported, and of any other it is said why it is not read. -/
theorem names_or_unread {fault : ReadFault} (h : ofBytes bytes = .error fault) (path : Text) :
    (fault.failure path).Names .persistence path ∨
      ∃ u, fault.failure path = .unexpected u ∧ Unread bytes u := by
  have cannot (why : Text) : (ReadFault.failure.cannotRead path why).Names .persistence path :=
    ⟨rfl, List.infix_append_of_infix_left (List.infix_append _ _ _)⟩
  cases text : Utf8.decode bytes with
  | error failure =>
      rw [ofBytes, text] at h
      cases h
      exact Or.inl (cannot _)
  | ok s =>
      rw [ofBytes_of_decode text, ofChars] at h
      split at h
      · cases h
      · cases h
        exact Or.inl ⟨rfl, List.infix_append_left⟩
      · next reason read =>
        cases reason with
        | longInteger digits =>
            cases h
            exact Or.inr ⟨_, rfl, .longInteger text (Json.lt_of_longInteger read) read⟩
        | tooDeep =>
            cases h
            exact Or.inr ⟨_, rfl, .tooDeep text read⟩
        | malformed complaint remaining =>
            cases h
            exact Or.inl (cannot _)

theorem Unread.ofBytes (unread : Unread bytes u) :
    ∃ fault, Document.ofBytes bytes = .error fault ∧
      ∀ path, fault.failure path = .unexpected u := by
  cases unread with
  | longInteger text many long =>
      rw [ofBytes_of_decode text, ofChars, long]
      exact ⟨_, rfl, fun _ => rfl⟩
  | tooDeep text deep =>
      rw [ofBytes_of_decode text, ofChars, deep]
      exact ⟨_, rfl, fun _ => rfl⟩

/-- An integer of more digits than are read, and nothing else. -/
theorem unread_of_many {ds : List ℕ} (lt : ∀ d ∈ ds, d < 10) (leading : ds.head? ≠ some 0)
    (many : Numeral.maxDigits < ds.length) :
    Unread (Utf8.encodeChars (ds.map Numeral.digitChar))
      (.badValue (Numeral.tooLongToRead ds.length)) := by
  have unbroken : '\r' ∉ ds.map Numeral.digitChar := by
    intro mem
    obtain ⟨d, digit, same⟩ := List.mem_map.mp mem
    exact (Json.Read.starts_digit d (lt d digit)).2 same
  have refused := Json.read_of_many lt leading many
  rw [← Line.unify_of_unbroken unbroken] at refused
  exact .longInteger (Utf8.decode_encodeChars _) many refused

end Bytes

section Read

theorem absent_of_find? (h : fs.find? path.toText = .ok none) : Absent fs path := by
  rw [find?] at h
  split at h
  · cases h
  · next r found =>
    split_ifs at h with means
    exact ⟨r, found, means⟩

/-- What is there and cannot be read is reported. -/
theorem read_of_refused {node : Node} {r : Refusal}
    (there : fs.find true path.toText = .ok node) (refused : fs.read path.toText = .error r) :
    read fs path = .error ((ReadFault.refused r).failure path.toText) := by
  rw [read, present, find?_eq_some_iff.mpr there]
  change ((fs.read path.toText).mapError _ >>= _) = _
  rw [refused]
  rfl

theorem names_refused (r : Refusal) (path : Text) :
    ((ReadFault.refused r).failure path).Names .persistence path :=
  ⟨rfl, List.infix_append_of_infix_left (List.infix_append _ _ _)⟩

/-- What is read of a regular file is up to its bytes. -/
theorem read_of_file (file : fs.read path.toText = .ok bytes) :
    read fs path = ((ofBytes bytes).mapError (·.failure path.toText)).map withDefaults := by
  have found : fs.find? path.toText = .ok (some (.file bytes)) :=
    find?_eq_some_iff.mpr (read_eq_ok_iff.mp file)
  rw [read, present, found]
  change ((fs.read path.toText).mapError _ >>= _) = _
  rw [file]
  change ((ofBytes bytes).mapError _ >>= _) = _
  cases ofBytes bytes <;> rfl

/-- What reading a document comes to, by what is at the path. -/
theorem read_cases (fs : FileSystem) (path : Path) :
    (fs.find true path.toText = .error (.system .nameTooLong) ∧
      read fs path = .error (.unexpected SystemError.nameTooLong.unexpected)) ∨
    (Absent fs path ∧ read fs path = .ok (withDefaults [])) ∨
    (∃ r, fs.read path.toText = .error r ∧
      read fs path = .error ((ReadFault.refused r).failure path.toText)) ∨
    ∃ bytes, fs.read path.toText = .ok bytes ∧
      read fs path = ((ofBytes bytes).mapError (·.failure path.toText)).map withDefaults := by
  cases found : fs.find? path.toText with
  | error u =>
      obtain ⟨long, rfl⟩ := find?_eq_error_iff.mp found
      refine Or.inl ⟨long, ?_⟩
      rw [read, present, found]
      rfl
  | ok node? =>
      cases node? with
      | none =>
          have absent := absent_of_find? found
          exact Or.inr (Or.inl ⟨absent, read_of_absent absent⟩)
      | some node =>
          have there := find?_eq_some_iff.mp found
          refine Or.inr (Or.inr ?_)
          cases content : fs.read path.toText with
          | error r => exact Or.inl ⟨r, rfl, read_of_refused there content⟩
          | ok bytes => exact Or.inr ⟨bytes, rfl, read_of_file content⟩

/-- The document that is read is what the file tells, with the namespaces that are missing. -/
theorem read_of_tells (tells : Tells fs path told) : read fs path = .ok (withDefaults told) := by
  cases tells with
  | nothing absent => exact read_of_absent absent
  | file file denotes => exact read_of_bytes file denotes

theorem exists_tells (h : read fs path = .ok d) :
    ∃ told, Tells fs path told ∧ d = withDefaults told := by
  rcases read_cases fs path with ⟨_, eq⟩ | ⟨absent, eq⟩ | ⟨_, _, eq⟩ | ⟨bytes, file, eq⟩
  · cases h.symm.trans eq
  · cases h.symm.trans eq
    exact ⟨[], .nothing absent, rfl⟩
  · cases h.symm.trans eq
  · obtain ⟨told, denotes, rfl⟩ := map_eq_ok (eq.symm.trans h)
    exact ⟨told, .file file (mapError_eq_ok denotes), rfl⟩

theorem names_or_escapes (h : read fs path = .error f) :
    f.Names .persistence path.toText ∨ ∃ u, f = .unexpected u ∧ Escapes fs path u := by
  rcases read_cases fs path with ⟨long, eq⟩ | ⟨_, eq⟩ | ⟨r, _, eq⟩ | ⟨bytes, file, eq⟩
  · cases h.symm.trans eq
    exact Or.inr ⟨_, rfl, .tooLong long⟩
  · cases h.symm.trans eq
  · cases h.symm.trans eq
    exact Or.inl (names_refused r _)
  · rw [eq] at h
    cases denotes : ofBytes bytes with
    | ok told =>
        rw [denotes] at h
        cases h
    | error fault =>
        rw [denotes] at h
        cases h
        refine (names_or_unread denotes path.toText).imp_right ?_
        rintro ⟨u, failure, unread⟩
        exact ⟨u, failure, .unread file unread⟩

theorem read_of_escapes (escapes : Escapes fs path u) :
    read fs path = .error (.unexpected u) := by
  cases escapes with
  | tooLong long =>
      rw [read, present, find?_eq_error_iff.mpr ⟨long, rfl⟩]
      rfl
  | unread file unread =>
      obtain ⟨fault, denotes, failure⟩ := unread.ofBytes
      rw [read_of_file file, denotes]
      exact congrArg Except.error (failure _)

theorem prefix_withDefaults (told : Document) : told <+: withDefaults told := by
  have one (es : Document) (key : Text) : es <+: Entries.putDefault es key (.table []) := by
    rw [Entries.putDefault]
    split_ifs with present
    · exact List.prefix_rfl
    · rw [Entries.put_of_notMem (mt Entries.contains_iff.mpr present)]
      exact List.prefix_append _ _
  exact (one told configName).trans (one _ filesName)

end Read

end Document

namespace Store

variable {w w' : Workspace}

theorem load_new_eq (w : Workspace) (path : Path) :
    load { w with store := Store.new path } =
      match Document.read w.files path with
      | .ok d => (.ok d, holding { w with store := Store.new path } d)
      | .error f => (.error f, { w with store := Store.new path }) :=
  load_of_none rfl

theorem load_new_of_tells {path : Path} {told : Document}
    (tells : Document.Tells w.files path told) :
    load { w with store := Store.new path } = (.ok (Document.withDefaults told),
      holding { w with store := Store.new path } (Document.withDefaults told)) :=
  load_new (Document.read_of_tells tells)

theorem load_new_eq_ok {path : Path} {d : Document}
    (h : load { w with store := Store.new path } = (.ok d, w')) :
    Document.read w.files path = .ok d ∧ w' = holding { w with store := Store.new path } d := by
  rw [load_new_eq] at h
  split at h
  · next read =>
    cases h
    exact ⟨read, rfl⟩
  · cases h

theorem load_new_eq_error {path : Path} {f : Failure}
    (h : load { w with store := Store.new path } = (.error f, w')) :
    Document.read w.files path = .error f ∧ w' = { w with store := Store.new path } := by
  rw [load_new_eq] at h
  split at h
  · cases h
  · next read =>
    cases h
    exact ⟨read, rfl⟩

/-- A new store that loads its document either answers and holds one that has all members of the
file, in order, and both namespaces; or it reports what is wrong with the file, as with a directory
or a file that does not let itself be opened; or what it met is one of the things that nobody has
looked out for, which all make it fail. Wherever it fails, it holds nothing and no file has changed,
so that it reads what is there when it loads again. -/
theorem load_new_outcome (w : Workspace) (path : Path) :
    let opened := { w with store := Store.new path }
    (∀ d w', load opened = (.ok d, w') → w' = holding opened d ∧
      ∃ told, Document.Tells w.files path told ∧ told <+: d ∧ d = Document.withDefaults told ∧
        Document.configName ∈ Entries.keys d ∧ Document.filesName ∈ Entries.keys d) ∧
    (∀ told, Document.Tells w.files path told →
      (load opened).1 = .ok (Document.withDefaults told)) ∧
    (∀ f w', load opened = (.error f, w') → w' = opened ∧
      (f.Names .persistence path.toText ∨
        ∃ u, f = .unexpected u ∧ Document.Escapes w.files path u)) ∧
    (∀ u, Document.Escapes w.files path u → load opened = (.error (.unexpected u), opened)) ∧
    (∀ node r, w.files.find true path.toText = .ok node → w.files.read path.toText = .error r →
      ∃ f, load opened = (.error f, opened) ∧ f.Names .persistence path.toText) ∧
    ∀ f w', load opened = (.error f, w') → ∀ files told, Document.Tells files path told →
      (load { w' with files }).1 = .ok (Document.withDefaults told) := by
  intro opened
  refine ⟨?_, ?_, ?_, ?_, ?_, ?_⟩
  · intro d w' loaded
    obtain ⟨read, rfl⟩ := load_new_eq_ok loaded
    obtain ⟨told, tells, rfl⟩ := Document.exists_tells read
    have complete := Document.complete_of_read read
    exact ⟨rfl, told, tells, Document.prefix_withDefaults told, rfl, complete.config,
      complete.files⟩
  · intro told tells
    rw [load_new_of_tells tells]
  · intro f w' failed
    obtain ⟨read, rfl⟩ := load_new_eq_error failed
    exact ⟨rfl, Document.names_or_escapes read⟩
  · intro u escapes
    rw [load_new_eq, Document.read_of_escapes escapes]
  · intro node r there refused
    have read := Document.read_of_refused there refused
    exact ⟨_, by rw [load_new_eq, read], Document.names_refused r _⟩
  · intro f w' failed files told tells
    obtain ⟨_, rfl⟩ := load_new_eq_error failed
    rw [load_new_of_tells (w := { w with files }) tells]

section Examples

private def documentPath : Path := Path.ofText "db.json"

/-- A workspace in which something is where the document should be. -/
private def around (node : Node) : Workspace := opened [(["db.json"], node)] "db.json"

/-- A workspace with a new store for what is there. -/
private def reading (node : Node) : Workspace :=
  { around node with store := Store.new documentPath }

private theorem read_around (bytes : Bytes) :
    (around (.file bytes)).files.read documentPath.toText = .ok bytes := rfl

/-- A document with a member of its own. -/
private def goodNode : Node := .file (Utf8.encodeChars "\x7b\"a\": 1\x7d".toList)

/-- The digits of an integer that is not read. -/
private def longDigits : List ℕ := List.replicate (Numeral.maxDigits + 1) 1

private def longNode : Node := .file (Utf8.encodeChars (longDigits.map Numeral.digitChar))

private theorem escapes_long : Document.Escapes (around longNode).files documentPath
    (.badValue (Numeral.tooLongToRead longDigits.length)) := by
  have digits : ∀ d ∈ longDigits, d < 10 := by
    intro d mem
    rw [List.eq_of_mem_replicate mem]
    decide
  have leading : longDigits.head? ≠ some 0 := by
    rw [longDigits, List.replicate_succ]
    nofun
  have many : Numeral.maxDigits < longDigits.length := by
    rw [longDigits, List.length_replicate]
    exact Nat.lt_succ_self Numeral.maxDigits
  exact .unread (read_around _) (Document.unread_of_many digits leading many)

/-- A file with a member of its own, a directory and a file that cannot be opened in its place, and
a file with an integer that is too long, which is replaced after it could not be read. -/
theorem load_new_outcome_files :
    (∃ d told w', load (reading goodNode) = (.ok d, w') ∧
      Document.Tells (around goodNode).files documentPath told ∧ told <+: d ∧
      Document.configName ∈ Entries.keys d) ∧
    (∀ node, node = .directory ∨ node = .locked →
      ∃ f, load (reading node) = (.error f, reading node) ∧
        f.Names .persistence documentPath.toText) ∧
    ∃ u told, Document.Escapes (around longNode).files documentPath u ∧
      load (reading longNode) = (.error (.unexpected u), reading longNode) ∧
      Document.Tells (around goodNode).files documentPath told ∧
      (load { reading longNode with files := (around goodNode).files }).1 =
        .ok (Document.withDefaults told) := by
  have reads : (Document.read (around goodNode).files documentPath).toOption.isSome = true := by
    decide +kernel
  obtain ⟨d, read⟩ := Option.isSome_iff_exists.mp reads
  obtain ⟨told, tells, rfl⟩ := Document.exists_tells (eq_ok_of_toOption read)
  have loaded : load (reading goodNode) = (.ok (Document.withDefaults told), _) :=
    load_new_of_tells tells
  refine ⟨?_, ?_, ?_⟩
  · obtain ⟨_, told', tells', before, _, config, _⟩ :=
      (load_new_outcome (around goodNode) documentPath).1 _ _ loaded
    exact ⟨_, told', _, loaded, tells', before, config⟩
  · rintro node (rfl | rfl)
    · exact (load_new_outcome (around .directory) documentPath).2.2.2.2.1 .directory _ rfl rfl
    · exact (load_new_outcome (around .locked) documentPath).2.2.2.2.1 .locked _ rfl rfl
  · have failed := (load_new_outcome (around longNode) documentPath).2.2.2.1 _ escapes_long
    exact ⟨_, told, escapes_long, failed, tells,
      (load_new_outcome (around longNode) documentPath).2.2.2.2.2 _ _ failed _ told tells⟩

/-- Nothing looks out for an integer with too many digits. -/
theorem long_integer_escapes :
    load (reading longNode) =
      (.error (.unexpected (.badValue (Numeral.tooLongToRead longDigits.length))),
        reading longNode) := by
  rw [reading, load_new_eq, Document.read_of_escapes escapes_long]

end Examples

end Store

end SourceLedger
