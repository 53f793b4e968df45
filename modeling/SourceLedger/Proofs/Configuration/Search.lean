import Mathlib.Tactic.ByContra
import SourceLedger.Proofs.Configuration
import SourceLedger.Proofs.FileSystem.Exchange

/-!
# Where a configuration is found

The search goes through paths in a fixed order, three in each directory from the first one up to
the root, and ends at the first path that settles it: a file with a configuration in it, or one
that should have one and cannot be read. `Candidate`, `HoldsTable` and `Spoils` say when a path
does so, without the search. So the search answers what stands at that path, and nothing that
comes after it has any influence, unless a nearer path leads there.
-/

namespace SourceLedger.Configuration

variable {fs fs' : FileSystem} {path start : Path} {own t tools : Value.Table} {bytes : Bytes}
  {f : Failure}

/-- The names that are looked for in each directory, in order of precedence. -/
def candidateNames : List Text := fileNames ++ [sharedFileName]

/-- The paths that are looked at, in order. -/
def searchPaths (start : Path) : List Path :=
  start.selfAndParents.flatMap fun directory => candidateNames.map directory.child

/-- A regular file that counts as a configuration file: one of the program's own, or a shared one
that has an entry for it. -/
inductive Candidate (fs : FileSystem) (path : Path) : Prop
  | own (named : path.name ∈ fileNames) (file : fs.isFile path.toText = .ok true)
  | shared {bytes : Bytes} {t tools : Value.Table} (named : path.name = sharedFileName)
      (file : fs.read path.toText = .ok bytes) (table : readTable path.toText bytes = .ok t)
      (tool : Entries.get? t "tool" = some (.table tools)) (entry : toolName ∈ Entries.keys tools)

/-- The table of a configuration file. -/
inductive HoldsTable (fs : FileSystem) (path : Path) (own : Value.Table) : Prop
  | own {bytes : Bytes} (named : path.name ∈ fileNames) (file : fs.read path.toText = .ok bytes)
      (table : readTable path.toText bytes = .ok own)
  | shared {bytes : Bytes} {t tools : Value.Table} (named : path.name = sharedFileName)
      (file : fs.read path.toText = .ok bytes) (table : readTable path.toText bytes = .ok t)
      (tool : Entries.get? t "tool" = some (.table tools))
      (entry : Entries.get? tools toolName = some (.table own))

/-- A path at which a search ends with a failure: a regular file that cannot be opened or does not
have a table in it, a shared one whose entry is no table, or a path of which the system cannot say
what is there, since it is too long. -/
inductive Spoils (fs : FileSystem) (path : Path) : Failure → Prop
  | unopened {e : SystemError} (file : fs.isFile path.toText = .ok true)
      (refused : fs.read path.toText = .error (.system e)) :
      Spoils fs path (cannotRead path.toText (.system e))
  | malformed {bytes : Bytes} {f : Failure} (file : fs.read path.toText = .ok bytes)
      (bad : readTable path.toText bytes = .error f) : Spoils fs path f
  | misplaced {bytes : Bytes} {t tools : Value.Table} {v : Value}
      (named : path.name = sharedFileName) (file : fs.read path.toText = .ok bytes)
      (table : readTable path.toText bytes = .ok t)
      (tool : Entries.get? t "tool" = some (.table tools))
      (entry : Entries.get? tools toolName = some v) (other : v.isTable = false) :
      Spoils fs path (.reported .config
        ("[tool." ++ toolName ++ "] in " ++ path.toText ++ " must be a table."))
  | tooLong (long : fs.find true path.toText = .error (.system .nameTooLong)) :
      Spoils fs path (.unexpected SystemError.nameTooLong.unexpected)

/-- A path that a search passes by. -/
def Passed (fs : FileSystem) (path : Path) : Prop :=
  ¬Candidate fs path ∧ ∀ f, ¬Spoils fs path f

section Content

theorem content?_of_error {u : Unexpected} (h : fs.isFile path.toText = .error u) :
    content? fs path = .error (.unexpected u) := by
  rw [content?, h]
  rfl

theorem content?_of_isFile (h : fs.isFile path.toText = .ok true) :
    content? fs path = (fs.read path.toText).mapError (cannotRead path.toText) >>= pure ∘ some := by
  rw [content?, h]
  rfl

theorem content?_eq_none_iff : content? fs path = .ok none ↔
    fs.isFile path.toText = .ok false := by
  rw [content?]
  cases fs.isFile path.toText with
  | error u => simp [bind, Except.bind, Except.mapError]
  | ok isFile =>
      cases isFile <;> cases fs.read path.toText <;>
        simp [bind, Except.bind, pure, Except.pure, Except.mapError]

theorem content?_eq_some_iff : content? fs path = .ok (some bytes) ↔
    fs.read path.toText = .ok bytes := by
  constructor
  · intro h
    obtain ⟨isFile, _, h⟩ := bind_eq_ok h
    cases isFile with
    | false => cases h
    | true =>
        obtain ⟨_, file, h⟩ := bind_eq_ok h
        cases h
        exact mapError_eq_ok file
  · intro h
    rw [content?_of_isFile (FileSystem.isFile_of_read h), h]
    rfl

theorem content?_eq_error_iff : content? fs path = .error f ↔
    (fs.find true path.toText = .error (.system .nameTooLong) ∧
      f = .unexpected SystemError.nameTooLong.unexpected) ∨
    ∃ e, fs.isFile path.toText = .ok true ∧ fs.read path.toText = .error (.system e) ∧
      f = cannotRead path.toText (.system e) := by
  constructor
  · intro h
    rcases bind_eq_error h with unknown | ⟨isFile, regular, h⟩
    · obtain ⟨u, failed, rfl⟩ := mapError_eq_error unknown
      obtain ⟨long, rfl⟩ := FileSystem.isFile_eq_error_iff.mp failed
      exact Or.inl ⟨long, rfl⟩
    · cases isFile with
      | false => cases h
      | true =>
          rcases bind_eq_error h with refused | ⟨_, _, h⟩
          · have regular := mapError_eq_ok regular
            obtain ⟨r, failed, rfl⟩ := mapError_eq_error refused
            obtain rfl := FileSystem.locked_of_read_error regular failed
            exact Or.inr ⟨_, regular, failed, rfl⟩
          · cases h
  · rintro (⟨long, rfl⟩ | ⟨e, regular, refused, rfl⟩)
    · exact content?_of_error (FileSystem.isFile_eq_error_iff.mpr ⟨long, rfl⟩)
    · rw [content?_of_isFile regular, refused]
      rfl

/-- The content of a regular file is known from what is found at its path. -/
theorem content?_congr (same : fs'.find? path.toText = fs.find? path.toText) :
    content? fs' path = content? fs path := by
  have regular : fs'.isFile path.toText = fs.isFile path.toText := by
    rw [FileSystem.isFile, same, FileSystem.isFile]
  cases h : fs.isFile path.toText with
  | error u => rw [content?_of_error h, content?_of_error (regular.trans h)]
  | ok isFile =>
      cases isFile with
      | false => rw [content?_eq_none_iff.mpr h, content?_eq_none_iff.mpr (regular.trans h)]
      | true =>
          obtain ⟨node, there, _⟩ := FileSystem.isFile_eq_true_iff.mp h
          have found := same.trans (FileSystem.find?_eq_some_iff.mpr there)
          have there' := FileSystem.find?_eq_some_iff.mp found
          have read : fs'.read path.toText = fs.read path.toText := by
            rw [FileSystem.read, there', FileSystem.read, there]
          rw [content?_of_isFile h, content?_of_isFile (regular.trans h), read]

end Content

/-- What a search finds at a single path. -/
def inspect (fs : FileSystem) (path : Path) : Except Failure (Option Value.Table) := do
  match ← content? fs path with
  | none => return none
  | some bytes =>
    let t ← readTable path.toText bytes
    if path.name = sharedFileName then section? path t else return some t

/-- The first path at which something is found. -/
def firstFound (fs : FileSystem) : List Path → Except Failure (Option (Path × Value.Table))
  | [] => .ok none
  | path :: rest => do
    match ← inspect fs path with
    | some own => return some (path, own)
    | none => firstFound fs rest

theorem firstFound_append (fs : FileSystem) (paths later : List Path) :
    firstFound fs (paths ++ later) = (firstFound fs paths >>= fun
      | some found => .ok (some found)
      | none => firstFound fs later) := by
  induction paths with
  | nil => rfl
  | cons path rest ih =>
      rw [List.cons_append, firstFound, firstFound, ih]
      cases inspect fs path with
      | error f => rfl
      | ok found => cases found <;> rfl

theorem name_child (directory : Path) (name : Text) : (directory.child name).name = name :=
  Path.name_eq rfl

theorem inspect_of_ne (h : path.name ≠ sharedFileName) :
    inspect fs path = (content? fs path >>= fun
      | none => .ok none
      | some bytes => (readTable path.toText bytes).map some) := by
  rw [inspect]
  congr 1
  funext content
  cases content with
  | none => rfl
  | some bytes =>
      simp only [if_neg h]
      cases readTable path.toText bytes <;> rfl

theorem inspect_of_eq (h : path.name = sharedFileName) :
    inspect fs path = (content? fs path >>= fun
      | none => .ok none
      | some bytes => readTable path.toText bytes >>= section? path) := by
  rw [inspect]
  congr 1
  funext content
  cases content with
  | none => rfl
  | some bytes => simp only [if_pos h]

theorem firstOf_eq {paths : List Path} (h : ∀ p ∈ paths, p.name ≠ sharedFileName) :
    firstOf fs paths = firstFound fs paths := by
  induction paths with
  | nil => rfl
  | cons path rest ih =>
      rw [List.forall_mem_cons] at h
      rw [firstOf, firstFound, ih h.2, inspect_of_ne h.1]
      cases content? fs path with
      | error f => rfl
      | ok content =>
          cases content with
          | none => rfl
          | some bytes =>
              dsimp only [bind, Except.bind]
              cases readTable path.toText bytes <;> rfl

theorem inDirectory_eq (fs : FileSystem) (directory : Path) :
    inDirectory fs directory = firstFound fs (candidateNames.map directory.child) := by
  have own : ∀ p ∈ fileNames.map directory.child, p.name ≠ sharedFileName := by
    intro p mem
    obtain ⟨name, named, rfl⟩ := List.mem_map.mp mem
    rw [name_child]
    rintro rfl
    revert named
    decide
  rw [candidateNames, List.map_append, firstFound_append, ← firstOf_eq own, inDirectory]
  congr 1
  funext found
  cases found with
  | some found => rfl
  | none =>
      rw [List.map_singleton, firstFound, inspect_of_eq (name_child _ _)]
      dsimp only
      generalize directory.child sharedFileName = shared
      cases content? fs shared with
      | error f => rfl
      | ok content =>
          cases content with
          | none => rfl
          | some bytes =>
              dsimp only [bind, Except.bind]
              cases readTable shared.toText bytes with
              | error f => rfl
              | ok t =>
                  dsimp only
                  cases section? shared t with
                  | error f => rfl
                  | ok own => cases own <;> rfl

theorem findIn_eq (fs : FileSystem) (directories : List Path) :
    findIn fs directories = firstFound fs
      (directories.flatMap fun directory => candidateNames.map directory.child) := by
  induction directories with
  | nil => rfl
  | cons directory above ih =>
      rw [List.flatMap_cons, firstFound_append, ← inDirectory_eq, ← ih]
      rfl

theorem find_eq (fs : FileSystem) (start : Path) :
    find fs start = firstFound fs (searchPaths start) :=
  findIn_eq fs start.selfAndParents

theorem mem_candidateNames {start : Path} (h : path ∈ searchPaths start) :
    path.name ∈ candidateNames := by
  obtain ⟨directory, _, mem⟩ := List.mem_flatMap.mp h
  obtain ⟨name, named, rfl⟩ := List.mem_map.mp mem
  rwa [name_child]

section Inspect

theorem own_or_shared (named : path.name ∈ candidateNames) :
    (path.name ∈ fileNames ∧ path.name ≠ sharedFileName) ∨
      (path.name = sharedFileName ∧ path.name ∉ fileNames) := by
  have apart : sharedFileName ∉ fileNames := by decide
  rcases List.mem_append.mp named with own | shared
  · exact Or.inl ⟨own, fun same => apart (same ▸ own)⟩
  · have shared := List.mem_singleton.mp shared
    exact Or.inr ⟨shared, shared ▸ apart⟩

theorem section?_eq_some_iff : section? path t = .ok (some own) ↔
    ∃ tools, Entries.get? t "tool" = some (.table tools) ∧
      Entries.get? tools toolName = some (.table own) := by
  constructor
  · intro h
    unfold section? at h
    split at h
    · next tools tool =>
      split at h
      · cases h
      · next entry =>
        cases h
        exact ⟨tools, tool, entry⟩
      · cases h
    · cases h
  · rintro ⟨tools, tool, entry⟩
    simp only [section?, tool, entry]

theorem section?_eq_error_iff : section? path t = .error f ↔
    ∃ tools v, Entries.get? t "tool" = some (.table tools) ∧
      Entries.get? tools toolName = some v ∧ v.isTable = false ∧
      f = .reported .config
        ("[tool." ++ toolName ++ "] in " ++ path.toText ++ " must be a table.") := by
  constructor
  · intro h
    unfold section? at h
    split at h
    · next tools tool =>
      split at h
      · cases h
      · cases h
      · next v other entry =>
        cases h
        refine ⟨tools, v, tool, entry, ?_, rfl⟩
        cases v with
        | table es => exact absurd rfl (other es)
        | _ => rfl
    · cases h
  · rintro ⟨tools, v, tool, entry, other, rfl⟩
    cases v with
    | table es => cases other
    | _ => simp only [section?, tool, entry]

/-- What is found at a path is the table of the file there. -/
theorem inspect_eq_some_iff (named : path.name ∈ candidateNames) :
    inspect fs path = .ok (some own) ↔ HoldsTable fs path own := by
  constructor
  · intro h
    obtain ⟨content, file, h⟩ := bind_eq_ok h
    cases content with
    | none => cases h
    | some bytes =>
        have file := content?_eq_some_iff.mp file
        obtain ⟨t, table, h⟩ := bind_eq_ok h
        split_ifs at h with shared
        · obtain ⟨tools, tool, entry⟩ := section?_eq_some_iff.mp h
          exact .shared shared file table tool entry
        · cases h
          exact .own ((own_or_shared named).resolve_right fun other => shared other.1).1 file table
  · intro h
    cases h with
    | own named' file table =>
        rw [inspect_of_ne, content?_eq_some_iff.mpr file]
        · exact congrArg (Except.map some) table
        · exact ((own_or_shared named).resolve_right fun other => other.2 named').2
    | @shared _ t _ shared file table tool entry =>
        rw [inspect_of_eq shared, content?_eq_some_iff.mpr file]
        change (readTable path.toText _ >>= section? path) = _
        rw [table]
        exact section?_eq_some_iff.mpr ⟨_, tool, entry⟩

/-- The inspection of a path fails where the path spoils a search. -/
theorem inspect_eq_error_iff :
    inspect fs path = .error f ↔ Spoils fs path f := by
  constructor
  · intro h
    rcases bind_eq_error h with unknown | ⟨content, file, h⟩
    · obtain ⟨long, rfl⟩ | ⟨e, file, refused, rfl⟩ := content?_eq_error_iff.mp unknown
      · exact .tooLong long
      · exact .unopened file refused
    · cases content with
      | none => cases h
      | some bytes =>
          have file := content?_eq_some_iff.mp file
          rcases bind_eq_error h with bad | ⟨t, table, h⟩
          · exact .malformed file bad
          · split_ifs at h with shared
            · obtain ⟨tools, v, tool, entry, other, rfl⟩ := section?_eq_error_iff.mp h
              exact .misplaced shared file table tool entry other
            · cases h
  · intro h
    cases h with
    | malformed file bad =>
        rw [inspect, content?_eq_some_iff.mpr file]
        change (readTable path.toText _ >>= _) = _
        rw [bad]
        rfl
    | misplaced shared file table tool entry other =>
        rw [inspect_of_eq shared, content?_eq_some_iff.mpr file]
        change (readTable path.toText _ >>= section? path) = _
        rw [table]
        exact section?_eq_error_iff.mpr ⟨_, _, tool, entry, other, rfl⟩
    | unopened file refused =>
        rw [inspect, content?_eq_error_iff.mpr (Or.inr ⟨_, file, refused, rfl⟩)]
        rfl
    | tooLong long =>
        rw [inspect, content?_eq_error_iff.mpr (Or.inl ⟨long, rfl⟩)]
        rfl

/-- Whatever counts as a configuration file is found, or it spoils the search. -/
theorem Candidate.holdsTable_or_spoils (candidate : Candidate fs path) :
    (∃ own, HoldsTable fs path own) ∨ ∃ f, Spoils fs path f := by
  cases candidate with
  | own named file =>
      cases content : fs.read path.toText with
      | error r =>
          obtain rfl := FileSystem.locked_of_read_error file content
          exact .inr ⟨_, .unopened file content⟩
      | ok bytes =>
          cases table : readTable path.toText bytes with
          | ok t => exact .inl ⟨t, .own named content table⟩
          | error f => exact .inr ⟨f, .malformed content table⟩
  | shared named file table tool entry =>
      obtain ⟨v, entry⟩ := Entries.mem_keys_iff.mp entry
      cases kind : v.isTable with
      | false => exact .inr ⟨_, .misplaced named file table tool entry kind⟩
      | true =>
          cases v with
          | table own => exact .inl ⟨own, .shared named file table tool entry⟩
          | _ => cases kind

theorem HoldsTable.candidate (h : HoldsTable fs path own) : Candidate fs path := by
  cases h with
  | own named file _ => exact .own named (FileSystem.isFile_of_read file)
  | shared named file table tool entry =>
      exact .shared named file table tool (Entries.mem_keys_iff.mpr ⟨_, entry⟩)

theorem inspect_eq_none_iff (named : path.name ∈ candidateNames) :
    inspect fs path = .ok none ↔ Passed fs path := by
  constructor
  · intro h
    have sound : ∀ f, ¬Spoils fs path f := by
      intro f spoils
      cases h.symm.trans (inspect_eq_error_iff.mpr spoils)
    refine ⟨fun candidate => ?_, sound⟩
    rcases candidate.holdsTable_or_spoils with ⟨own, holds⟩ | ⟨f, spoils⟩
    · cases h.symm.trans ((inspect_eq_some_iff named).mpr holds)
    · exact sound f spoils
  · rintro ⟨none, sound⟩
    cases h : inspect fs path with
    | error f => exact absurd (inspect_eq_error_iff.mp h) (sound f)
    | ok found =>
        cases found with
        | none => rfl
        | some own => exact absurd ((inspect_eq_some_iff named).mp h).candidate none

/-- A path at which there is no regular file is passed by. -/
theorem passed_of_isFile (named : path.name ∈ candidateNames)
    (none : fs.isFile path.toText = .ok false) : Passed fs path := by
  rw [← inspect_eq_none_iff named, inspect, content?_eq_none_iff.mpr none]
  rfl

end Inspect

section Firsts

variable {paths : List Path}

theorem firstFound_cons_of_none (h : inspect fs path = .ok none) (later : List Path) :
    firstFound fs (path :: later) = firstFound fs later := by
  rw [firstFound, h]
  rfl

/-- A search ends at a path that settles it, or it has passed by all of them. -/
theorem firstFound_cases (fs : FileSystem) (paths : List Path) :
    (firstFound fs paths = .ok none ∧ ∀ p ∈ paths, inspect fs p = .ok none) ∨
      ∃ nearer path later, paths = nearer ++ path :: later ∧
        (∀ p ∈ nearer, inspect fs p = .ok none) ∧ inspect fs path ≠ .ok none ∧
        firstFound fs paths = (inspect fs path).map (·.map (path, ·)) := by
  induction paths with
  | nil => exact Or.inl ⟨rfl, nofun⟩
  | cons first rest ih =>
      cases here : inspect fs first with
      | error f =>
          refine Or.inr ⟨[], first, rest, rfl, nofun, by simp [here], ?_⟩
          rw [firstFound, here]
          rfl
      | ok found =>
          cases found with
          | some own =>
              refine Or.inr ⟨[], first, rest, rfl, nofun, by simp [here], ?_⟩
              rw [firstFound, here]
              rfl
          | none =>
              rw [firstFound_cons_of_none here]
              rcases ih with ⟨eq, passed⟩ | ⟨nearer, path, later, rfl, passed, settles, eq⟩
              · exact Or.inl ⟨eq, List.forall_mem_cons.mpr ⟨here, passed⟩⟩
              · exact Or.inr ⟨first :: nearer, path, later, rfl,
                  List.forall_mem_cons.mpr ⟨here, passed⟩, settles, eq⟩

theorem firstFound_of_passed {nearer : List Path} (passed : ∀ p ∈ nearer, inspect fs p = .ok none)
    (later : List Path) : firstFound fs (nearer ++ later) = firstFound fs later := by
  induction nearer with
  | nil => rfl
  | cons first rest ih =>
      rw [List.forall_mem_cons] at passed
      rw [List.cons_append, firstFound_cons_of_none passed.1, ih passed.2]

theorem firstFound_eq_none_iff :
    firstFound fs paths = .ok none ↔ ∀ p ∈ paths, inspect fs p = .ok none := by
  constructor
  · intro h
    rcases firstFound_cases fs paths with ⟨_, passed⟩ | ⟨_, path, _, _, _, settles, eq⟩
    · exact passed
    · obtain ⟨found, here, none⟩ := map_eq_ok (eq.symm.trans h)
      rw [Option.map_eq_none_iff.mp none] at here
      exact absurd here settles
  · intro passed
    have all := firstFound_of_passed passed []
    rwa [List.append_nil] at all

theorem firstFound_eq_some_iff : firstFound fs paths = .ok (some (path, own)) ↔
    ∃ nearer later, paths = nearer ++ path :: later ∧
      (∀ p ∈ nearer, inspect fs p = .ok none) ∧ inspect fs path = .ok (some own) := by
  constructor
  · intro h
    rcases firstFound_cases fs paths with
      ⟨none, _⟩ | ⟨nearer, found, later, split, passed, _, eq⟩
    · cases none.symm.trans h
    · obtain ⟨t, here, some⟩ := map_eq_ok (eq.symm.trans h)
      obtain ⟨own, rfl, same⟩ := Option.map_eq_some_iff.mp some
      cases same
      exact ⟨nearer, later, split, passed, here⟩
  · rintro ⟨nearer, later, rfl, passed, here⟩
    rw [firstFound_of_passed passed, firstFound, here]
    rfl

theorem firstFound_eq_error_iff : firstFound fs paths = .error f ↔
    ∃ nearer path later, paths = nearer ++ path :: later ∧
      (∀ p ∈ nearer, inspect fs p = .ok none) ∧ inspect fs path = .error f := by
  constructor
  · intro h
    rcases firstFound_cases fs paths with
      ⟨none, _⟩ | ⟨nearer, path, later, split, passed, _, eq⟩
    · cases none.symm.trans h
    · refine ⟨nearer, path, later, split, passed, ?_⟩
      cases here : inspect fs path with
      | ok t => rw [here] at eq; cases eq.symm.trans h
      | error f' =>
          rw [here] at eq
          exact congrArg Except.error (Except.error.inj (eq.symm.trans h))
  · rintro ⟨nearer, path, later, rfl, passed, here⟩
    rw [firstFound_of_passed passed, firstFound, here]
    rfl

end Firsts

end SourceLedger.Configuration
