import SourceLedger.Proofs.Configuration.Nearest
import SourceLedger.Proofs.Toml.Faults
import SourceLedger.Proofs.Value.Overlay

/-!
# What loading a configuration comes to

A configuration that is loaded has passed the check and keeps each default that its file leaves
out. What stands in the way is reported with the file that it is in, with four exceptions: the
start cannot be resolved, the system cannot say what is at a path, the bytes of a file are not read
for another reason than that they break the grammar, or its table is nested too deeply to be copied.
`Escapes` lists them, and it is exactly then that loading fails unexpectedly.
-/

namespace SourceLedger.Configuration

variable {fs : FileSystem} {start path source real : Path} {own t : Value.Table} {bytes : Bytes}
  {f : Failure} {u : Unexpected} {kind : ErrorKind} {message : Text}

/-- Bytes that are not read for another reason than the grammar: they are not UTF-8, an integer in
them has more digits than are read, or values are nested too deeply. -/
inductive Unread (bytes : Bytes) : Unexpected → Prop
  | undecodable {failure : Utf8.DecodeFailure} (bad : Utf8.decode bytes = .error failure) :
      Unread bytes .undecodable
  | longInteger {s : List Char} {digits : Nat} (text : Utf8.decode bytes = .ok s)
      (many : Numeral.maxDigits < digits)
      (long : Toml.read (Toml.joinBreaks s) = .error (.longInteger digits)) :
      Unread bytes (.badValue (Numeral.tooLongToRead digits))
  | tooDeep {s : List Char} (text : Utf8.decode bytes = .ok s)
      (deep : Toml.read (Toml.joinBreaks s) = .error .tooDeep) : Unread bytes .tooDeep

/-- What is met unexpectedly when a configuration is loaded. -/
inductive Escapes (fs : FileSystem) (start : Path) : Unexpected → Prop
  | unresolved {u : Unexpected} (unresolved : fs.realPath start = .error u) : Escapes fs start u
  | tooLong {real path : Path} {nearer later : List Path} (resolved : fs.realPath start = .ok real)
      (comes : ComesTo fs real nearer path later)
      (long : fs.find true path.toText = .error (.system .nameTooLong)) :
      Escapes fs start SystemError.nameTooLong.unexpected
  | unread {real path : Path} {nearer later : List Path} {bytes : Bytes} {u : Unexpected}
      (resolved : fs.realPath start = .ok real) (comes : ComesTo fs real nearer path later)
      (file : fs.read path.toText = .ok bytes) (unread : Unread bytes u) : Escapes fs start u
  | uncopied {real source : Path} {nearer later : List Path} {own : Value.Table}
      (resolved : fs.realPath start = .ok real) (comes : ComesTo fs real nearer source later)
      (holds : HoldsTable fs source own) (deep : maxNesting < (Value.table own).nesting) :
      Escapes fs start .tooDeep

section ReadTable

theorem ofBytes_of_decode {s : List Char} (text : Utf8.decode bytes = .ok s) :
    ofBytes bytes = (Toml.read (Toml.joinBreaks s)).mapError fun f =>
      match f with
      | .longInteger digits => .longInteger digits
      | .tooDeep => .tooDeep
      | _ => .malformed ((f.message? (Toml.joinBreaks s)).getD []) := by
  rw [ofBytes, text]
  rfl

/-- A file that breaks the grammar is reported, and of any other it is said why it is not read. -/
theorem names_or_unread (h : readTable path.toText bytes = .error f) :
    f.Names .config path.toText ∨ ∃ u, f = .unexpected u ∧ Unread bytes u := by
  obtain ⟨fault, failed, rfl⟩ := mapError_eq_error h
  cases text : Utf8.decode bytes with
  | error failure =>
      rw [ofBytes, text] at failed
      cases failed
      exact Or.inr ⟨_, rfl, .undecodable text⟩
  | ok s =>
      rw [ofBytes_of_decode text] at failed
      obtain ⟨reason, read, rfl⟩ := mapError_eq_error failed
      cases reason with
      | longInteger digits =>
          exact Or.inr ⟨_, rfl, .longInteger text (Toml.lt_of_longInteger read) read⟩
      | tooDeep => exact Or.inr ⟨_, rfl, .tooDeep text read⟩
      | malformed complaint remaining =>
          exact Or.inl ⟨rfl, List.infix_append_of_infix_left (List.infix_append _ _ _)⟩

theorem Unread.readTable (unread : Unread bytes u) (path : Text) :
    readTable path bytes = .error (.unexpected u) := by
  cases unread with
  | undecodable bad =>
      rw [Configuration.readTable, ofBytes, bad]
      rfl
  | longInteger text many long =>
      rw [Configuration.readTable, ofBytes_of_decode text, long]
      rfl
  | tooDeep text deep =>
      rw [Configuration.readTable, ofBytes_of_decode text, deep]
      rfl

end ReadTable

section Load

/-- What spoils a search is reported with the path, or it cannot be looked at or read. -/
theorem names_or_unexpected (spoils : Spoils fs path f) :
    f.Names .config path.toText ∨
      (fs.find true path.toText = .error (.system .nameTooLong) ∧
        f = .unexpected SystemError.nameTooLong.unexpected) ∨
      ∃ bytes u, fs.read path.toText = .ok bytes ∧ Unread bytes u ∧ f = .unexpected u := by
  cases spoils with
  | unopened file refused =>
      exact Or.inl ⟨rfl, List.infix_append_of_infix_left (List.infix_append _ _ _)⟩
  | malformed file bad =>
      rcases names_or_unread bad with names | ⟨u, rfl, unread⟩
      · exact Or.inl names
      · exact Or.inr (Or.inr ⟨_, u, file, unread, rfl⟩)
  | misplaced named file table tool entry other =>
      exact Or.inl ⟨rfl, List.infix_append _ _ _⟩
  | tooLong long => exact Or.inr (Or.inl ⟨long, rfl⟩)

theorem names_of_validate (h : validate t source = .error f) : f.Names .config source.toText := by
  have wrong (what name must : Text) : Failure.Names .config source.toText (.reported .config
      ("Config " ++ what ++ " '" ++ name ++ "' in " ++ source.toText ++ " must be " ++ must ++
        ".")) := by
    refine ⟨rfl, List.infix_append_of_infix_left (List.infix_append_of_infix_left ?_)⟩
    exact List.infix_append _ _ _
  rw [validate] at h
  dsimp only at h
  split at h
  · split at h
    · split at h
      · cases h
      · cases h
        exact wrong _ _ _
    · cases h
      exact wrong _ _ _
  · cases h
    exact wrong _ _ _

/-- Loading fails while the start is resolved, in the search, in copying what was found or in the
check. -/
theorem load_eq_error (h : load fs start = .error f) :
    (∃ u, fs.realPath start = .error u ∧ f = .unexpected u) ∨
      ∃ real, fs.realPath start = .ok real ∧
        (find fs real = .error f ∨ ∃ source own, find fs real = .ok (some (source, own)) ∧
          (overDefaults own = .error f ∨ ∃ values, validate values source = .error f)) := by
  rcases bind_eq_error h with unresolved | ⟨real, resolved, h⟩
  · obtain ⟨u, failed, rfl⟩ := mapError_eq_error unresolved
    exact Or.inl ⟨u, failed, rfl⟩
  · refine Or.inr ⟨real, mapError_eq_ok resolved, ?_⟩
    rcases bind_eq_error h with failed | ⟨found, search, h⟩
    · exact Or.inl failed
    · cases found with
      | none => cases h
      | some found =>
          rcases bind_eq_error h with uncopied | ⟨values, _, h⟩
          · exact Or.inr ⟨_, _, search, Or.inl uncopied⟩
          · rcases bind_eq_error h with invalid | ⟨_, _, h⟩
            · exact Or.inr ⟨_, _, search, Or.inr ⟨values, invalid⟩⟩
            · cases h

theorem load_of_unresolved (h : fs.realPath start = .error u) :
    load fs start = .error (.unexpected u) := by
  rw [load, h]
  rfl

theorem load_of_spoilt {nearer later : List Path} (resolved : fs.realPath start = .ok real)
    (comes : ComesTo fs real nearer path later) (spoils : Spoils fs path f) :
    load fs start = .error f := by
  rw [load_of_resolved resolved, find_eq_error_iff.mpr ⟨nearer, path, later, comes, spoils⟩]
  rfl

theorem load_of_escapes (escapes : Escapes fs start u) :
    load fs start = .error (.unexpected u) := by
  cases escapes with
  | unresolved unresolved => exact load_of_unresolved unresolved
  | tooLong resolved comes long => exact load_of_spoilt resolved comes (.tooLong long)
  | unread resolved comes file unread =>
      exact load_of_spoilt resolved comes (.malformed file (unread.readTable _))
  | uncopied resolved comes holds deep =>
      rw [load_of_resolved resolved, find_eq_some_iff.mpr ⟨_, _, comes, holds⟩]
      change (overDefaults _ >>= _) = _
      rw [overDefaults_eq_error_iff.mpr ⟨deep, rfl⟩]
      rfl

/-- Whatever loading fails with names a file that was looked at, or nobody has looked out for
it. -/
theorem names_or_escapes (h : load fs start = .error f) :
    (∃ real path, fs.realPath start = .ok real ∧ path ∈ searchPaths real ∧
      f.Names .config path.toText) ∨ ∃ u, f = .unexpected u ∧ Escapes fs start u := by
  rcases load_eq_error h with
    ⟨u, unresolved, rfl⟩ | ⟨real, resolved, failed | ⟨source, own, found, failed⟩⟩
  · exact Or.inr ⟨u, rfl, .unresolved unresolved⟩
  · obtain ⟨nearer, path, later, comes, spoils⟩ := find_eq_error_iff.mp failed
    rcases names_or_unexpected spoils with
      names | ⟨long, rfl⟩ | ⟨bytes, u, file, unread, rfl⟩
    · have looked : path ∈ searchPaths real := by simp [comes.order]
      exact Or.inl ⟨real, path, resolved, looked, names⟩
    · exact Or.inr ⟨_, rfl, .tooLong resolved comes long⟩
    · exact Or.inr ⟨u, rfl, .unread resolved comes file unread⟩
  · obtain ⟨nearer, later, comes, holds⟩ := find_eq_some_iff.mp found
    rcases failed with uncopied | ⟨_, invalid⟩
    · obtain ⟨deep, rfl⟩ := overDefaults_eq_error_iff.mp uncopied
      exact Or.inr ⟨_, rfl, .uncopied resolved comes holds deep⟩
    · have looked : source ∈ searchPaths real := by simp [comes.order]
      exact Or.inl ⟨real, source, resolved, looked, names_of_validate invalid⟩

end Load

/-- Where a configuration comes from: from the defaults alone, if no file counts, or from the table
of the first file that does, laid over them, if it is not nested too deeply to be copied. -/
inductive Provided (fs : FileSystem) (start : Path) : Configuration → Value.Table → Prop
  | alone {real : Path} (resolved : fs.realPath start = .ok real)
      (passed : ∀ p ∈ searchPaths real, Passed fs p) :
      Provided fs start ⟨defaults, real, none⟩ []
  | overlaid {real source : Path} {nearer later : List Path} {own : Value.Table}
      (resolved : fs.realPath start = .ok real) (comes : ComesTo fs real nearer source later)
      (holds : HoldsTable fs source own) (shallow : (Value.table own).nesting ≤ maxNesting) :
      Provided fs start ⟨Value.merge defaults own, source.parent, some source⟩ own

section Provided

variable {c : Configuration}

theorem exists_provided (h : load fs start = .ok c) : ∃ own, Provided fs start c own := by
  obtain ⟨real, resolved, ⟨search, rfl⟩ | ⟨source, own, search, shallow, -, rfl⟩⟩ := load_eq_ok h
  · exact ⟨[], .alone resolved (find_eq_none_iff.mp search)⟩
  · obtain ⟨nearer, later, comes, holds⟩ := find_eq_some_iff.mp search
    exact ⟨own, .overlaid resolved comes holds shallow⟩

theorem Provided.load_eq (provided : Provided fs start c own) (accepted : Accepted c.values) :
    load fs start = .ok c := by
  cases provided with
  | alone resolved passed =>
      rw [load_of_resolved resolved, find_eq_none_iff.mpr passed]
      rfl
  | overlaid resolved comes holds shallow =>
      exact load_of_found resolved (find_eq_some_iff.mpr ⟨_, _, comes, holds⟩) shallow
        (validate_eq_ok_iff.mpr accepted)

/-- A configuration is loaded exactly if it comes from what is there and passes the check. -/
theorem load_eq_ok_iff :
    load fs start = .ok c ↔ Accepted c.values ∧ ∃ own, Provided fs start c own := by
  constructor
  · intro loaded
    exact ⟨accepted_of_load loaded, exists_provided loaded⟩
  · rintro ⟨accepted, own, provided⟩
    exact provided.load_eq accepted

theorem HoldsTable.distinct (holds : HoldsTable fs path own) : Value.Table.Distinct own := by
  cases holds with
  | own named file table => exact holds_readTable Toml.admits_distinct table
  | shared named file table tool entry =>
      have shared := holds_readTable Toml.admits_distinct table
      exact Toml.admits_distinct.get? (Toml.admits_distinct.get? shared tool) entry

/-- A default to which a file says nothing is kept. -/
theorem Provided.keeps (provided : Provided fs start c own) {keys : List Text} {v : Value}
    (default : (Value.table defaults).follow? keys = some v)
    (misses : Value.Misses (.table own) keys) :
    (Value.table c.values).follow? keys = some v := by
  cases provided with
  | alone => exact default
  | overlaid resolved comes holds =>
      rw [Value.table_merge, Value.follow?_overlay_of_misses holds.distinct _ misses]
      exact default

end Provided

/-- Loading a configuration succeeds exactly if the one that comes from the files passes the check,
and that one has every default to which its file says nothing. If it fails, what is wrong is
reported with the file in which it is; or it is one of the things that nobody has looked out for,
which all make it fail. -/
theorem load_outcome (fs : FileSystem) (start : Path) :
    (∀ c, load fs start = .ok c ↔ Accepted c.values ∧ ∃ own, Provided fs start c own) ∧
    (∀ c own, Provided fs start c own → ∀ keys v, (Value.table defaults).follow? keys = some v →
      Value.Misses (.table own) keys → (Value.table c.values).follow? keys = some v) ∧
    (∀ f, load fs start = .error f →
      (∃ real path, fs.realPath start = .ok real ∧ path ∈ searchPaths real ∧
        f.Names .config path.toText) ∨ ∃ u, f = .unexpected u ∧ Escapes fs start u) ∧
    ∀ u, Escapes fs start u → load fs start = .error (.unexpected u) :=
  ⟨fun _ => load_eq_ok_iff, fun _ _ provided _ _ => provided.keeps, fun _ => names_or_escapes,
    fun _ => load_of_escapes⟩

section Examples

/-- A root directory with a configuration file in it. -/
private def configuredBy (bytes : Bytes) : FileSystem where
  nodes := [(["syndox.toml"], .file bytes)]
  current := []

private def rootPath : Path := ⟨.single, []⟩

/-- The configuration file is the first that is looked at. -/
private theorem comesTo_own (bytes : Bytes) :
    ∃ later, ComesTo (configuredBy bytes) rootPath [] (rootPath.child "syndox.toml") later :=
  ⟨_, rfl, List.forall_mem_nil _⟩

private theorem escapes_invalid : Escapes (configuredBy [0xFF]) rootPath .undecodable := by
  obtain ⟨later, comes⟩ := comesTo_own [0xFF]
  have bad : Utf8.decode [0xFF] = .error ⟨0, 1, 0xFF, .invalidStart⟩ := by decide +kernel
  exact .unread rfl comes rfl (.undecodable bad)

/-- A file that adds a setting to a default section. -/
private def addingBytes : Bytes := Utf8.encodeChars "[parse]\nx = 1".toList

/-- Where a table sets one thing of a section, it says nothing about the options there. -/
private theorem misses_options {own es : Value.Table} {v : Value}
    (entry : Entries.get? own parseKey = some v) (isTable : v.asTable? = some es)
    (keys : Entries.keys es = ["x"]) : Value.Misses (.table own) [parseKey, "options"] := by
  refine ⟨[parseKey], "options", [], es, rfl, ?_, ?_⟩
  · rw [Value.follow?_cons_table, entry, Value.eq_table_of_asTable? isTable]
    rfl
  · rw [Entries.get?_eq_none_iff, keys]
    decide

/-- The table of that file passes the check and leaves the options out. -/
private theorem exists_adding : ∃ own, HoldsTable (configuredBy addingBytes)
    (rootPath.child "syndox.toml") own ∧ (Value.table own).nesting ≤ maxNesting ∧
      Accepted (Value.merge defaults own) ∧ Value.Misses (.table own) [parseKey, "options"] := by
  let source := rootPath.child "syndox.toml"
  have reads : (readTable source.toText addingBytes).toOption.map (fun own =>
      ((overDefaults own >>= fun values => validate values source).toOption,
        (Entries.get? own parseKey).map fun v => v.asTable?.map Entries.keys)) =
      some (some (), some (some [("x" : Text)])) := by decide +kernel
  obtain ⟨own, table, checked⟩ := Option.map_eq_some_iff.mp reads
  obtain ⟨valid, settings⟩ := Prod.mk.inj checked
  obtain ⟨_, copied, valid⟩ := bind_eq_ok (eq_ok_of_toOption valid)
  obtain ⟨shallow, rfl⟩ := overDefaults_eq_ok_iff.mp copied
  obtain ⟨v, found, settings⟩ := Option.map_eq_some_iff.mp settings
  obtain ⟨es, isTable, keys⟩ := Option.map_eq_some_iff.mp settings
  have holds : HoldsTable (configuredBy addingBytes) source own :=
    .own (by decide) rfl (eq_ok_of_toOption table)
  have accepted := validate_eq_ok_iff.mp valid
  exact ⟨own, holds, shallow, accepted, misses_options found isTable keys⟩

/-- A file with a key of many parts, which is read without being nested itself. -/
private def deepBytes : Bytes :=
  Utf8.encodeChars ((List.replicate 600 ['a', '.']).flatten ++ "a = 1".toList)

set_option maxRecDepth 2000 in
private theorem escapes_deep : Escapes (configuredBy deepBytes) rootPath .tooDeep := by
  let source := rootPath.child "syndox.toml"
  have reads : (readTable source.toText deepBytes).toOption.map
      (fun own => (Value.table own).nesting) = some 601 := by decide +kernel
  obtain ⟨own, table, deep⟩ := Option.map_eq_some_iff.mp reads
  have holds : HoldsTable (configuredBy deepBytes) source own :=
    .own (by decide) rfl (eq_ok_of_toOption table)
  obtain ⟨later, comes⟩ := comesTo_own deepBytes
  exact .uncopied rfl comes holds (deep ▸ by decide)

private def isReported : Failure → Bool
  | .reported .. => true
  | .unexpected _ => false

/-- A file that adds a setting and leaves the options out, one whose output directory is a number,
one that is not UTF-8, and one whose tables are nested too deeply. -/
theorem load_outcome_files :
    let adding := configuredBy addingBytes
    let wrong := configuredBy (Utf8.encodeChars "out = 1".toList)
    (∃ c own, (Accepted c.values ∧ Provided adding rootPath c own ∧
        Value.Misses (.table own) [parseKey, "options"]) ∧ load adding rootPath = .ok c ∧
      (Value.table c.values).follow? [parseKey, "options"] = some (.table [])) ∧
    (∃ f path, load wrong rootPath = .error f ∧ path ∈ searchPaths rootPath ∧
      f.Names .config path.toText) ∧
    Escapes (configuredBy [0xFF]) rootPath .undecodable ∧
    load (configuredBy [0xFF]) rootPath = .error (.unexpected .undecodable) ∧
    Escapes (configuredBy deepBytes) rootPath .tooDeep ∧
    load (configuredBy deepBytes) rootPath = .error (.unexpected .tooDeep) := by
  intro adding wrong
  have fails : ((load wrong rootPath).mapError isReported).map (fun _ => ()) = .error true := by
    decide +kernel
  refine ⟨?_, ?_, escapes_invalid, (load_outcome _ _).2.2.2 _ escapes_invalid, escapes_deep,
    (load_outcome _ _).2.2.2 _ escapes_deep⟩
  · obtain ⟨own, holds, shallow, accepted, misses⟩ := exists_adding
    obtain ⟨later, comes⟩ := comesTo_own addingBytes
    have resolved : adding.realPath rootPath = .ok rootPath := rfl
    have provided := Provided.overlaid resolved comes holds shallow
    have loaded := ((load_outcome adding rootPath).1 _).mpr ⟨accepted, own, provided⟩
    exact ⟨_, own, ⟨accepted, provided, misses⟩, loaded,
      (load_outcome adding rootPath).2.1 _ own provided _ _ rfl misses⟩
  · cases failed : load wrong rootPath with
    | ok c =>
        rw [failed] at fails
        cases fails
    | error f =>
        rw [failed] at fails
        rcases (load_outcome wrong rootPath).2.2.1 f failed with
          ⟨real, path, resolved, looked, names⟩ | ⟨u, rfl, escapes⟩
        · cases resolved
          exact ⟨f, path, rfl, looked, names⟩
        · cases fails

/-- Nothing looks out for bytes that are not UTF-8. -/
theorem undecodable_escapes :
    load (configuredBy [0xFF]) rootPath = .error (.unexpected .undecodable) :=
  load_of_escapes escapes_invalid

end Examples

end SourceLedger.Configuration
