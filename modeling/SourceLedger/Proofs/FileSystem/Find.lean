import SourceLedger.Proofs.FileSystem.Passage
import SourceLedger.Proofs.Results

/-!
# What paths lead to

A path is followed from the root or the current directory, and what is found at its end is a node.
What is found stays the same when other things are added. A path whose last name is a step down
ends in the directory to which the names before pass, so that writing a file there makes the path
lead to that file, unless the path came past its own end.
-/

namespace SourceLedger.FileSystem

variable {fs fs' : FileSystem} {followLast : Bool} {path : Text} {place : Location} {node : Node}

/-- Where the names of a route are followed from. -/
def startFor (fs : FileSystem) (route : Route) : Location :=
  if route.isAbsolute then [] else fs.current

theorem ofText_of_check {route : Route} (h : Route.check path = .ok route) :
    route = Route.ofText path := by
  unfold Route.check at h
  split at h
  · cases h
  · split_ifs at h
    cases h
    rfl

theorem walk_of_unchecked {r : Refusal} (followLast : Bool) (check : Route.check path = .error r) :
    fs.walk followLast path = .error r := by
  unfold walk
  rw [check]
  rfl

theorem walk_checked {route : Route} (followLast : Bool) (check : Route.check path = .ok route) :
    fs.walk followLast path =
      match fs.node? (fs.startFor route) with
      | some .directory =>
        (fs.walkFrom followLast maxLinks (fs.startFor route) route.endsInSlash
          route.names).mapError .system
      | _ => .error (.system .notFound) := by
  unfold walk
  rw [check]
  rfl

theorem walk_eq_ok_iff : fs.walk followLast path = .ok place ↔
    ∃ route, Route.check path = .ok route ∧ fs.node? (fs.startFor route) = some .directory ∧
      Leads fs followLast maxLinks (fs.startFor route) route.endsInSlash route.names place := by
  cases check : Route.check path with
  | error r => simp [walk_of_unchecked followLast check]
  | ok route =>
      simp only [walk_checked followLast check, Except.ok.injEq, exists_eq_left']
      split
      · next start =>
        rw [start, leads_iff]
        cases fs.walkFrom followLast maxLinks (fs.startFor route) route.endsInSlash route.names <;>
          simp [Except.mapError]
      · next other =>
        simp only [reduceCtorEq, false_iff, not_and]
        exact fun h => absurd h other

theorem find_eq_ok_iff : fs.find followLast path = .ok node ↔
    ∃ place, fs.walk followLast path = .ok place ∧ fs.node? place = some node := by
  unfold find
  cases fs.walk followLast path with
  | error r => simp [bind, Except.bind]
  | ok place =>
      simp only [bind, Except.bind, Except.ok.injEq, exists_eq_left']
      cases fs.node? place with
      | none => simp [throw, throwThe, MonadExceptOf.throw]
      | some n => simp [pure, Except.pure]

theorem read_eq_ok_iff {content : Bytes} :
    fs.read path = .ok content ↔ fs.find true path = .ok (.file content) := by
  unfold read
  cases fs.find true path with
  | error r => simp [bind, Except.bind]
  | ok n => cases n <;> simp [bind, Except.bind, pure, Except.pure, throw, throwThe,
      MonadExceptOf.throw]

/-- A path leads to the place that it stands for itself, unless there is a link. -/
theorem walk_false_of_walk_true (h : fs.walk true path = .ok place) :
    ∃ place', fs.walk false path = .ok place' ∧
      (place' = place ∨ ∃ target, fs.node? place' = some (.link target)) := by
  obtain ⟨route, check, start, leads⟩ := walk_eq_ok_iff.mp h
  obtain ⟨place', leads', ends⟩ := leads.entry
  exact ⟨place', walk_eq_ok_iff.mpr ⟨route, check, start, leads'⟩, ends⟩

/-- Where a path leads to something, there is something at the path itself. -/
theorem find_false_of_find_true (h : fs.find true path = .ok node) :
    ∃ node', fs.find false path = .ok node' := by
  obtain ⟨place, hw, hn⟩ := find_eq_ok_iff.mp h
  obtain ⟨place', hw', rfl | ⟨target, link⟩⟩ := walk_false_of_walk_true hw
  · exact ⟨node, find_eq_ok_iff.mpr ⟨place', hw', hn⟩⟩
  · exact ⟨_, find_eq_ok_iff.mpr ⟨place', hw', link⟩⟩

theorem walk_of_check {route : Route} (followLast : Bool) (check : Route.check path = .ok route)
    (start : fs.node? (fs.startFor route) = some .directory) :
    fs.walk followLast path =
      (fs.walkFrom followLast maxLinks (fs.startFor route) route.endsInSlash
        route.names).mapError .system := by
  rw [walk_checked followLast check, start]

theorem walk_of_lost {route : Route} (followLast : Bool) (check : Route.check path = .ok route)
    (start : fs.node? (fs.startFor route) ≠ some .directory) :
    fs.walk followLast path = .error (.system .notFound) := by
  rw [walk_checked followLast check]
  split
  · next h => exact absurd h start
  · rfl

/-! ## What may not be there -/

theorem find?_of_walk (walk : fs.walk true path = .ok place) :
    fs.find? path = .ok (fs.node? place) := by
  rw [find?, find, walk]
  cases h : fs.node? place <;> simp only [bind, Except.bind, h] <;> rfl

theorem find?_of_walk_error {r : Refusal} (walk : fs.walk true path = .error r) :
    fs.find? path = if meansAbsent r then .ok none else .error r.unexpected := by
  rw [find?, find, walk]
  rfl

theorem find?_eq_some_iff : fs.find? path = .ok (some node) ↔ fs.find true path = .ok node := by
  rw [find?]
  cases fs.find true path with
  | ok found => simp
  | error r =>
      simp only
      split_ifs <;> simp

theorem isFile_eq_true_iff : fs.isFile path = .ok true ↔
    ∃ node, fs.find true path = .ok node ∧ node.isRegular = true := by
  simp only [← find?_eq_some_iff]
  unfold isFile
  cases fs.find? path with
  | error u => simp [bind, Except.bind]
  | ok node? => cases node? <;> simp [bind, Except.bind, pure, Except.pure]

/-- What can be read is a regular file. -/
theorem isFile_of_read {content : Bytes} (h : fs.read path = .ok content) :
    fs.isFile path = .ok true :=
  isFile_eq_true_iff.mpr ⟨_, read_eq_ok_iff.mp h, rfl⟩

/-- Following names fails for one of four reasons. -/
theorem walkFrom_eq_error {links : Nat} {here : Location} {toDirectory : Bool} {names : List Text}
    {e : SystemError} (h : fs.walkFrom followLast links here toDirectory names = .error e) :
    meansAbsent (.system e) = true ∨ e = .nameTooLong := by
  induction links, here, toDirectory, names using walk_induction fs with
  | nil =>
      rw [walkFrom_nil] at h
      cases h
  | dot ih => exact ih (walkFrom_dot.symm.trans h)
  | dotDot ih => exact ih (walkFrom_dotDot.symm.trans h)
  | tooLong hdot hdotDot long =>
      rw [walkFrom_tooLong hdot hdotDot long] at h
      cases h
      exact Or.inr rfl
  | none step found =>
      rw [walkFrom_none step found] at h
      split_ifs at h
      cases h
      exact Or.inl rfl
  | directory step found ih => exact ih ((walkFrom_directory step found).symm.trans h)
  | file step found regular =>
      rw [walkFrom_file step found regular] at h
      split_ifs at h
      cases h
      exact Or.inl rfl
  | @link links _ toDirectory _ names _ step found ih =>
      rw [walkFrom_link step found] at h
      by_cases stops : (names.isEmpty && !toDirectory && !followLast) = true
      · rw [if_pos stops] at h
        cases h
      rw [if_neg stops] at h
      cases links with
      | zero =>
          cases h
          exact Or.inl rfl
      | succ left =>
          simp only at h
          split_ifs at h
          · cases h
            exact Or.inl rfl
          · exact ih rfl h

theorem walk_eq_error {r : Refusal} (h : fs.walk followLast path = .error r) :
    meansAbsent r = true ∨ r = .system .nameTooLong := by
  cases check : Route.check path with
  | error r' =>
      rw [walk_of_unchecked followLast check] at h
      cases h
      unfold Route.check at check
      split at check
      · cases check
        exact Or.inl rfl
      · split_ifs at check
        · cases check
          exact Or.inl rfl
        · cases check
          exact Or.inl rfl
        · cases check
          exact Or.inr rfl
  | ok route =>
      rw [walk_checked followLast check] at h
      split at h
      · obtain ⟨e, failed, rfl⟩ := mapError_eq_error h
        rcases walkFrom_eq_error failed with absent | rfl
        · exact Or.inl absent
        · exact Or.inr rfl
      · cases h
        exact Or.inl rfl

/-- Only of a path that is too long, or holds a name that is, it is not known whether anything is
there. -/
theorem find?_eq_error_iff {u : Unexpected} : fs.find? path = .error u ↔
    fs.find true path = .error (.system .nameTooLong) ∧ u = SystemError.nameTooLong.unexpected := by
  cases walk : fs.walk true path with
  | ok place =>
      rw [find?_of_walk walk, find, walk]
      cases h : fs.node? place <;> simp [bind, Except.bind, h, throw, throwThe,
        MonadExceptOf.throw, pure, Except.pure]
  | error r =>
      have found : fs.find true path = .error r := by
        rw [find, walk]
        rfl
      rw [find?_of_walk_error walk, found]
      rcases walk_eq_error walk with absent | rfl
      · rw [if_pos absent]
        constructor
        · exact nofun
        · rintro ⟨same, -⟩
          cases same
          cases absent
      · constructor
        · intro h
          exact ⟨rfl, (Except.error.inj h).symm⟩
        · rintro ⟨-, rfl⟩
          rfl

theorem isFile_eq_error_iff {u : Unexpected} : fs.isFile path = .error u ↔
    fs.find true path = .error (.system .nameTooLong) ∧ u = SystemError.nameTooLong.unexpected := by
  rw [← find?_eq_error_iff]
  unfold isFile
  cases fs.find? path <;> simp [bind, Except.bind, pure, Except.pure]

/-- A regular file that cannot be read does not let itself be opened. -/
theorem locked_of_read_error {r : Refusal} (regular : fs.isFile path = .ok true)
    (refused : fs.read path = .error r) : r = .system .permission := by
  obtain ⟨node, there, regular⟩ := isFile_eq_true_iff.mp regular
  rw [read, there] at refused
  obtain ⟨content, rfl⟩ | rfl := Node.isRegular_iff.mp regular
  · cases refused
  · exact (Except.error.inj refused).symm

/-! ## Growing and changing -/

/-- Where two file systems differ at some places only, two walks are the same up to where they meet
one of these. -/
theorem walkFrom_related
    (Related : Except SystemError Location → Except SystemError Location → Prop)
    (same : ∀ r, Related r r) {changed : Location → Prop}
    (others : ∀ place, ¬changed place → fs'.node? place = fs.node? place)
    (meets : ∀ {links here toDirectory name names}, IsStep name → changed (here ++ [name]) →
      Related (fs.walkFrom followLast links here toDirectory (name :: names))
        (fs'.walkFrom followLast links here toDirectory (name :: names)))
    (links : Nat) (here : Location) (toDirectory : Bool) (names : List Text) :
    Related (fs.walkFrom followLast links here toDirectory names)
      (fs'.walkFrom followLast links here toDirectory names) := by
  induction links, here, toDirectory, names using walk_induction fs with
  | nil =>
      rw [walkFrom_nil, walkFrom_nil]
      exact same _
  | dot ih => rwa [walkFrom_dot, walkFrom_dot]
  | dotDot ih => rwa [walkFrom_dotDot, walkFrom_dotDot]
  | tooLong hdot hdotDot long =>
      rw [walkFrom_tooLong hdot hdotDot long, walkFrom_tooLong hdot hdotDot long]
      exact same _
  | @none _ here _ name _ step found =>
      by_cases met : changed (here ++ [name])
      · exact meets step met
      · rw [walkFrom_none step found, walkFrom_none step ((others _ met).trans found)]
        exact same _
  | @directory _ here _ name _ step found ih =>
      by_cases met : changed (here ++ [name])
      · exact meets step met
      · rwa [walkFrom_directory step found,
          walkFrom_directory step ((others _ met).trans found)]
  | @file _ here _ name _ _ step found regular =>
      by_cases met : changed (here ++ [name])
      · exact meets step met
      · rw [walkFrom_file step found regular,
          walkFrom_file step ((others _ met).trans found) regular]
        exact same _
  | @link links here _ name _ _ step found ih =>
      by_cases met : changed (here ++ [name])
      · exact meets step met
      rw [walkFrom_link step found, walkFrom_link step ((others _ met).trans found)]
      cases links with
      | zero => exact same _
      | succ left =>
          simp only
          split_ifs
          · exact same _
          · exact same _
          · exact ih rfl

/-- What relates the walks in two file systems relates what a path leads to, where they have the
same directories. Without a place to start from, nothing is found in either. -/
theorem walk_related (Related : Except SystemError Location → Except SystemError Location → Prop)
    (current : fs'.current = fs.current)
    (directories : ∀ place, fs'.node? place = some .directory ↔ fs.node? place = some .directory)
    (related : ∀ links here toDirectory names,
      Related (fs.walkFrom followLast links here toDirectory names)
        (fs'.walkFrom followLast links here toDirectory names)) (path : Text) :
    fs'.walk followLast path = fs.walk followLast path ∨
      ∃ old new, Related old new ∧ fs.walk followLast path = old.mapError .system ∧
        fs'.walk followLast path = new.mapError .system := by
  cases check : Route.check path with
  | error r => exact Or.inl (by rw [walk_of_unchecked _ check, walk_of_unchecked _ check])
  | ok route =>
      have here : fs'.startFor route = fs.startFor route := by rw [startFor, startFor, current]
      have start' := directories (fs.startFor route)
      by_cases start : fs.node? (fs.startFor route) = some .directory
      · refine Or.inr ⟨_, _, related _ _ _ _, walk_of_check followLast check start, ?_⟩
        rw [walk_of_check followLast check (here ▸ start'.mpr start), here]
      · rw [walk_of_lost _ check start, walk_of_lost _ check (here ▸ mt start'.mp start)]
        exact Or.inl rfl

theorem Keeps.startFor (h : Keeps fs fs') (route : Route) :
    fs'.startFor route = fs.startFor route := by
  rw [FileSystem.startFor, FileSystem.startFor, h.current]

theorem Keeps.walk (h : Keeps fs fs') (hw : fs.walk followLast path = .ok place)
    (there : fs.node? place ≠ none) : fs'.walk followLast path = .ok place := by
  obtain ⟨route, check, start, leads⟩ := walk_eq_ok_iff.mp hw
  refine walk_eq_ok_iff.mpr ⟨route, check, ?_, ?_⟩ <;> rw [h.startFor]
  · exact h.node _ _ start
  · exact leads.keeps h there

/-- What is found is still found when other things are added. -/
theorem Keeps.find (h : Keeps fs fs') (hf : fs.find followLast path = .ok node) :
    fs'.find followLast path = .ok node := by
  obtain ⟨place, hw, hn⟩ := find_eq_ok_iff.mp hf
  exact find_eq_ok_iff.mpr ⟨place, h.walk hw (by simp [hn]), h.node _ _ hn⟩

theorem Keeps.read (h : Keeps fs fs') {content : Bytes} (hr : fs.read path = .ok content) :
    fs'.read path = .ok content :=
  read_eq_ok_iff.mpr (h.find (read_eq_ok_iff.mp hr))

/-! ## Paths that end with a step down -/

/-- The last name of a path is a step down from where the names before it lead. -/
structure EndsIn (path : Text) (before : List Text) (name : Text) : Prop where
  names : (Route.ofText path).names = before ++ [name]
  open_end : (Route.ofText path).endsInSlash = false
  ne_dot : name ≠ Path.dot
  ne_dotDot : name ≠ Path.dotDot

/-- The names before the last one of a path pass to a directory. -/
def Reaches (fs : FileSystem) (path : Text) (before : List Text) (there : Location) : Prop :=
  ∃ route left, Route.check path = .ok route ∧ fs.node? (fs.startFor route) = some .directory ∧
    Passes fs maxLinks (fs.startFor route) before left there

variable {before : List Text} {name : Text} {there : Location}

theorem Reaches.directory (h : Reaches fs path before there) (tree : fs.IsTree) :
    fs.node? there = some .directory := by
  obtain ⟨_, _, _, start, passes⟩ := h
  exact passes.directory tree start

theorem Reaches.keeps (h : Reaches fs path before there) (hk : Keeps fs fs') :
    Reaches fs' path before there := by
  obtain ⟨route, left, check, start, passes⟩ := h
  refine ⟨route, left, check, ?_, ?_⟩ <;> rw [hk.startFor]
  · exact hk.node _ _ start
  · exact passes.keeps hk

theorem EndsIn.walk_iff (h : EndsIn path before name) :
    fs.walk false path = .ok place ↔
      IsStep name ∧ ∃ there, Reaches fs path before there ∧ place = there ++ [name] := by
  rw [walk_eq_ok_iff]
  constructor
  · rintro ⟨route, check, start, leads⟩
    rw [ofText_of_check check, h.names, h.open_end, ← ofText_of_check check] at leads
    obtain ⟨left, there, passes, last⟩ := leads.split (by simp)
    obtain ⟨step, rfl⟩ := (leads_single_iff h.ne_dot h.ne_dotDot).mp last
    exact ⟨step, there, ⟨route, left, check, start, passes⟩, rfl⟩
  · rintro ⟨step, there, ⟨route, left, check, start, passes⟩, rfl⟩
    refine ⟨route, check, start, ?_⟩
    rw [ofText_of_check check, h.names, h.open_end, ← ofText_of_check check]
    exact passes.leads (by simp) ((leads_single_iff h.ne_dot h.ne_dotDot).mpr ⟨step, rfl⟩)

/-- Where a path leads to when there is a file at its end. -/
theorem EndsIn.walk_file (h : EndsIn path before name) (step : IsStep name)
    (reaches : Reaches fs path before there) {content : Bytes}
    (file : fs.node? (there ++ [name]) = some (.file content)) :
    fs.walk followLast path = .ok (there ++ [name]) := by
  obtain ⟨route, left, check, start, passes⟩ := reaches
  refine walk_eq_ok_iff.mpr ⟨route, check, start, ?_⟩
  rw [ofText_of_check check, h.names, h.open_end, ← ofText_of_check check]
  exact passes.leads (by simp) (.file step file rfl)

/-- Whether a path comes past a place on the way to its end is decided by the target of the link
at that place, if there is one. -/
def NotPast (fs : FileSystem) (place : Location) : Prop :=
  fs.node? place ≠ some .directory ∧
    ∀ here name target links left there, place = here ++ [name] →
      fs.node? place = some (.link target) → target ≠ [] →
        ¬Passes fs links (startOf here target) (Route.ofText target).names left there

theorem notPast_of_none (h : fs.node? place = none) : NotPast fs place :=
  ⟨by simp [h], fun _ _ _ _ _ _ _ hl => by simp [h] at hl⟩

theorem notPast_of_file {content : Bytes} (h : fs.node? place = some (.file content)) :
    NotPast fs place :=
  ⟨by simp [h], fun _ _ _ _ _ _ _ hl => by simp [h] at hl⟩

/-- A path does not come past its own end if it leads neither to a directory nor through too many
links. -/
theorem EndsIn.notPast (h : EndsIn path before name) (tree : fs.IsTree)
    (hw : fs.walk false path = .ok place) (notDirectory : fs.find true path ≠ .ok .directory)
    (fewLinks : fs.find true path ≠ .error (.system .tooManyLinks)) : NotPast fs place := by
  obtain ⟨step, there, reaches, rfl⟩ := h.walk_iff.mp hw
  have inside := reaches.directory tree
  obtain ⟨route, left, check, start, passes⟩ := reaches
  have walk := walk_of_check true check start
  rw [ofText_of_check check, h.names, h.open_end, ← ofText_of_check check] at walk
  have notMany : fs.walkFrom true maxLinks (fs.startFor route) false (before ++ [name]) ≠
      .error .tooManyLinks := fun many => by
    rw [many] at walk
    exact fewLinks (by rw [find, walk]; rfl)
  have notInto : ∀ found, fs.node? found = some .directory →
      fs.walkFrom true maxLinks (fs.startFor route) false (before ++ [name]) ≠ .ok found :=
    fun found hd into => by
      rw [into] at walk
      exact notDirectory (find_eq_ok_iff.mpr ⟨found, walk, hd⟩)
  obtain many | ⟨left, heq⟩ := passes.walkFrom_append true false (List.cons_ne_nil name []) maxLinks
  · exact absurd many notMany
  rw [heq] at notMany notInto
  refine ⟨fun hd => notInto _ hd ?_, ?_⟩
  · rw [walkFrom_directory step hd, walkFrom_nil]
  · intro here name' target links left' there' heq link solid inner
    obtain ⟨rfl, _⟩ := List.append_inj' heq rfl
    rw [walkFrom_link step link, if_neg (by simp)] at notMany notInto
    cases left with
    | zero => exact notMany rfl
    | succ left =>
        simp only [List.isEmpty_iff, solid, if_false, List.append_nil] at notMany notInto
        rcases inner.walkFrom_all left with many | into
        · exact notMany many
        · refine notInto there' (inner.directory tree ?_) into
          unfold startOf
          split_ifs
          · rfl
          · exact inside

/-- One file system is another one but for a file at a place. -/
structure HasFile (fs fs' : FileSystem) (place : Location) (content : Bytes) : Prop where
  current : fs'.current = fs.current
  file : fs'.node? place = some (.file content)
  others : ∀ other, other ≠ place → ∀ node, fs.node? other = some node →
    fs'.node? other = some node

/-- A file that is put at the end of a path is what the path leads to. -/
theorem EndsIn.walk_hasFile (h : EndsIn path before name) (hw : fs.walk false path = .ok place)
    (away : NotPast fs place) {content : Bytes} (has : HasFile fs fs' place content) :
    fs'.walk followLast path = .ok place := by
  obtain ⟨step, there, ⟨route, left, check, start, passes⟩, rfl⟩ := h.walk_iff.mp hw
  have current : fs'.startFor route = fs.startFor route := by
    rw [startFor, startFor, has.current]
  refine h.walk_file step ⟨route, left, check, ?_, ?_⟩ has.file <;> rw [current]
  · refine has.others _ ?_ _ start
    rintro heq
    exact away.1 (heq ▸ start)
  · exact passes.avoids (fun other hne node hn _ => has.others other hne node hn) away.1 away.2

section Later

variable {content : Bytes} {fs'' : FileSystem}

/-- What was in one file system is in a later one, unless a file was put in its place. -/
theorem HasFile.agree (has : HasFile fs fs' place content) (keeps : Keeps fs' fs'')
    (other : Location) (node : Node) (h : fs.node? other = some node) :
    fs''.node? other = some node ∨ ∃ content, fs''.node? other = some (.file content) := by
  by_cases heq : other = place
  · exact Or.inr ⟨content, heq ▸ keeps.node _ _ has.file⟩
  · exact Or.inl (keeps.node _ _ (has.others _ heq _ h))

/-- The end of a path stays the same place, even if a file is put there and things are added. -/
theorem EndsIn.walk_unique (h : EndsIn path before name) (hw : fs.walk false path = .ok place)
    (has : HasFile fs fs' place content) (keeps : Keeps fs' fs'') {place' : Location}
    (hw' : fs''.walk false path = .ok place') : place = place' := by
  obtain ⟨_, there, ⟨route, left, check, start, passes⟩, rfl⟩ := h.walk_iff.mp hw
  obtain ⟨_, there', ⟨route', left', check', start', passes'⟩, rfl⟩ := h.walk_iff.mp hw'
  obtain rfl : route' = route := Except.ok.inj (check'.symm.trans check)
  rw [startFor, keeps.current, has.current] at passes'
  rw [passes.unique (has.agree keeps) passes']

/-- If a path still leads to something when things have been added, it leads to the file that was
put at its end. -/
theorem EndsIn.walk_of_later (h : EndsIn path before name) (hw : fs.walk false path = .ok place)
    (has : HasFile fs fs' place content) (keeps : Keeps fs' fs'') {node : Node}
    (later : fs''.find false path = .ok node) (followLast : Bool) :
    fs'.walk followLast path = .ok place := by
  obtain ⟨place', hw', _⟩ := find_eq_ok_iff.mp later
  obtain ⟨step, there, ⟨route, left, check, start, passes⟩, rfl⟩ := h.walk_iff.mp hw
  obtain ⟨_, _, ⟨route', left', check', start', passes'⟩, _⟩ := h.walk_iff.mp hw'
  obtain rfl : route' = route := Except.ok.inj (check'.symm.trans check)
  have kept : ∀ other node, fs.node? other = some node → fs''.node? other = some node →
      fs'.node? other = some node := by
    intro other node hn hn'
    by_cases heq : other = there ++ [name]
    · subst heq
      exact (has.file.trans (keeps.node _ _ has.file).symm).trans hn'
    · exact has.others _ heq _ hn
  rw [startFor, keeps.current, has.current] at start' passes'
  have reaches : Reaches fs' path before there := by
    refine ⟨route', left, check, ?_, ?_⟩ <;> rw [startFor, has.current]
    · exact kept _ _ start start'
    · exact (passes.common (has.agree keeps) passes').2 fs' kept
  exact h.walk_file step reaches has.file

theorem EndsIn.find_of_later (h : EndsIn path before name) (hw : fs.walk false path = .ok place)
    (has : HasFile fs fs' place content) (keeps : Keeps fs' fs'') {node : Node}
    (later : fs''.find false path = .ok node) (followLast : Bool) :
    fs'.find followLast path = .ok (.file content) :=
  find_eq_ok_iff.mpr ⟨place, h.walk_of_later hw has keeps later followLast, has.file⟩

end Later

/-! ## Other paths than that of the file -/

namespace HasFile

variable {content : Bytes} {fs'' : FileSystem}

theorem of_keeps (keeps : Keeps fs fs') (has : HasFile fs' fs'' place content) :
    HasFile fs fs'' place content where
  current := has.current.trans keeps.current
  file := has.file
  others other h node hn := has.others other h node (keeps.node _ _ hn)

theorem trans {old : Bytes} (first : HasFile fs fs' place old)
    (second : HasFile fs' fs'' place content) : HasFile fs fs'' place content where
  current := second.current.trans first.current
  file := second.file
  others other h node hn := second.others other h node (first.others other h node hn)

/-- A way that comes to the file goes no further. -/
theorem walkFrom_eq_ok (has : HasFile fs fs' place content) {links : Nat} {here final : Location}
    {toDirectory : Bool} {name : Text} {rest : List Text} (step : IsStep name)
    (meets : here ++ [name] = place)
    (walk : fs'.walkFrom followLast links here toDirectory (name :: rest) = .ok final) :
    final = place := by
  rw [walkFrom_file step (meets ▸ has.file) rfl] at walk
  split_ifs at walk
  exact (Except.ok.inj walk).symm.trans meets

/-- A way to something leads where it led before, or to the file. -/
theorem walkFrom_cases (has : HasFile fs fs' place content) {links : Nat}
    {here final final' : Location} {toDirectory : Bool} {names : List Text}
    (leads : Leads fs followLast links here toDirectory names final)
    (there : fs.node? final ≠ none)
    (walk : fs'.walkFrom followLast links here toDirectory names = .ok final') :
    final' = final ∨ final' = place := by
  induction leads with
  | here =>
      rw [walkFrom_nil] at walk
      exact .inl (Except.ok.inj walk).symm
  | dot _ ih => exact ih there (walkFrom_dot.symm.trans walk)
  | up _ ih => exact ih there (walkFrom_dotDot.symm.trans walk)
  | fresh _ found => exact absurd found there
  | @down links here toDirectory name names final step found _ ih =>
      by_cases meets : here ++ [name] = place
      · exact .inr (has.walkFrom_eq_ok step meets walk)
      · have found' := has.others _ meets _ found
        exact ih there ((walkFrom_directory step found').symm.trans walk)
  | @file links here name old step found regular =>
      by_cases meets : here ++ [name] = place
      · exact .inr (has.walkFrom_eq_ok step meets walk)
      · rw [walkFrom_file step (has.others _ meets _ found) regular] at walk
        exact .inl (Except.ok.inj walk).symm
  | @stop links here name target step last found =>
      by_cases meets : here ++ [name] = place
      · exact .inr (has.walkFrom_eq_ok step meets walk)
      · rw [walkFrom_link step (has.others _ meets _ found), last] at walk
        exact .inl (Except.ok.inj walk).symm
  | @link links here toDirectory name target names final step found solid further _ ih =>
      by_cases meets : here ++ [name] = place
      · exact .inr (has.walkFrom_eq_ok step meets walk)
      · rw [walkFrom_link step (has.others _ meets _ found), further,
          if_neg Bool.false_ne_true] at walk
        exact ih there (by simpa [solid] using walk)

theorem walk_cases (has : HasFile fs fs' place content) {final final' : Location}
    (walk : fs.walk followLast path = .ok final) (there : fs.node? final ≠ none)
    (walk' : fs'.walk followLast path = .ok final') : final' = final ∨ final' = place := by
  obtain ⟨route, check, _, leads⟩ := walk_eq_ok_iff.mp walk
  obtain ⟨route', check', _, leads'⟩ := walk_eq_ok_iff.mp walk'
  obtain rfl : route' = route := Except.ok.inj (check'.symm.trans check)
  rw [startFor, has.current] at leads'
  exact has.walkFrom_cases leads there (walkFrom_of_leads leads')

/-- A path that does not lead to the file leads to what it led to before. -/
theorem find_eq (has : HasFile fs fs' place content) {node' : Node}
    (apart : fs'.walk followLast path ≠ .ok place) (find : fs.find followLast path = .ok node)
    (find' : fs'.find followLast path = .ok node') : node' = node := by
  obtain ⟨final, walk, found⟩ := find_eq_ok_iff.mp find
  obtain ⟨final', walk', found'⟩ := find_eq_ok_iff.mp find'
  rcases has.walk_cases walk (by simp [found]) walk' with rfl | rfl
  · have elsewhere : final' ≠ place := by
      rintro rfl
      exact apart walk'
    exact Option.some.inj (found'.symm.trans (has.others _ elsewhere _ found))
  · exact absurd walk' apart

end HasFile

end SourceLedger.FileSystem
