import SourceLedger.Proofs.FileSystem.Tree

/-!
# Ways through a file system

`Passes` is the part of a way on which every name leads on: directories are entered, and links
are replaced by what they lead to. A longer way passes along its first names and goes on from
there. What a way meets are only places where something is, so that a way stays the same when the
file system grows, and one that does not come past a place does not notice what happens to it.
-/

namespace SourceLedger.FileSystem

/-- A name that is a step down. -/
def IsStep (name : Text) : Prop :=
  name ≠ Path.dot ∧ name ≠ Path.dotDot ∧ FileName.byteLength name ≤ FileName.maxLength

/-- Where the target of a link is followed from. -/
def startOf (here : Location) (target : Text) : Location :=
  if (Route.ofText target).isAbsolute then [] else here

/-- Names lead from one directory to another, with so many links left to follow. -/
inductive Passes (fs : FileSystem) : Nat → Location → List Text → Nat → Location → Prop
  | here {links here} : Passes fs links here [] links here
  | dot {links here names left there} (rest : Passes fs links here names left there) :
      Passes fs links here (Path.dot :: names) left there
  | up {links here names left there} (rest : Passes fs links here.dropLast names left there) :
      Passes fs links here (Path.dotDot :: names) left there
  | down {links here name names left there} (step : IsStep name)
      (found : fs.node? (here ++ [name]) = some .directory)
      (rest : Passes fs links (here ++ [name]) names left there) :
      Passes fs links here (name :: names) left there
  | link {links here name target names mid between left there} (step : IsStep name)
      (found : fs.node? (here ++ [name]) = some (.link target)) (solid : target ≠ [])
      (inner : Passes fs links (startOf here target) (Route.ofText target).names mid between)
      (rest : Passes fs mid between names left there) :
      Passes fs (links + 1) here (name :: names) left there

/-- Names lead to a place, which is what following them answers. -/
inductive Leads (fs : FileSystem) (followLast : Bool) :
    Nat → Location → Bool → List Text → Location → Prop
  | here {links here toDirectory} : Leads fs followLast links here toDirectory [] here
  | dot {links here toDirectory names place}
      (rest : Leads fs followLast links here toDirectory names place) :
      Leads fs followLast links here toDirectory (Path.dot :: names) place
  | up {links here toDirectory names place}
      (rest : Leads fs followLast links here.dropLast toDirectory names place) :
      Leads fs followLast links here toDirectory (Path.dotDot :: names) place
  | fresh {links here toDirectory name} (step : IsStep name)
      (found : fs.node? (here ++ [name]) = none) :
      Leads fs followLast links here toDirectory [name] (here ++ [name])
  | down {links here toDirectory name names place} (step : IsStep name)
      (found : fs.node? (here ++ [name]) = some .directory)
      (rest : Leads fs followLast links (here ++ [name]) toDirectory names place) :
      Leads fs followLast links here toDirectory (name :: names) place
  | file {links here name node} (step : IsStep name) (found : fs.node? (here ++ [name]) = some node)
      (regular : node.isRegular = true) :
      Leads fs followLast links here false [name] (here ++ [name])
  | stop {links here name target} (step : IsStep name) (last : followLast = false)
      (found : fs.node? (here ++ [name]) = some (.link target)) :
      Leads fs followLast links here false [name] (here ++ [name])
  | link {links here toDirectory name target names place} (step : IsStep name)
      (found : fs.node? (here ++ [name]) = some (.link target)) (solid : target ≠ [])
      (further : (names.isEmpty && !toDirectory && !followLast) = false)
      (rest : Leads fs followLast links (startOf here target)
        (toDirectory || (names.isEmpty && (Route.ofText target).endsInSlash))
        ((Route.ofText target).names ++ names) place) :
      Leads fs followLast (links + 1) here toDirectory (name :: names) place

variable {fs fs' : FileSystem} {links left : Nat} {here there place : Location}
  {names rest : List Text} {followLast toDirectory : Bool}

section Equations

variable {name : Text}

@[simp] theorem walkFrom_nil :
    fs.walkFrom followLast links here toDirectory [] = .ok here := by
  cases links <;> rfl

/-- One name is followed, and then the others. -/
theorem walkFrom_cons :
    fs.walkFrom followLast links here toDirectory (name :: names) =
      if name = Path.dot then fs.walkFrom followLast links here toDirectory names
      else if name = Path.dotDot then fs.walkFrom followLast links here.dropLast toDirectory names
      else if FileName.maxLength < FileName.byteLength name then .error .nameTooLong
      else
        match fs.node? (here ++ [name]) with
        | none => if names.isEmpty then .ok (here ++ [name]) else .error .notFound
        | some .directory => fs.walkFrom followLast links (here ++ [name]) toDirectory names
        | some (.file _) | some .locked =>
          if names.isEmpty && !toDirectory then .ok (here ++ [name]) else .error .notDirectory
        | some (.link target) =>
          if names.isEmpty && !toDirectory && !followLast then .ok (here ++ [name])
          else
            match links with
            | 0 => .error .tooManyLinks
            | links + 1 =>
              if target.isEmpty then .error .notFound
              else
                fs.walkFrom followLast links (startOf here target)
                  (toDirectory || (names.isEmpty && (Route.ofText target).endsInSlash))
                  ((Route.ofText target).names ++ names) := by
  cases links <;> rfl

@[simp] theorem walkFrom_dot :
    fs.walkFrom followLast links here toDirectory (Path.dot :: names) =
      fs.walkFrom followLast links here toDirectory names := by
  rw [walkFrom_cons, if_pos rfl]

@[simp] theorem walkFrom_dotDot :
    fs.walkFrom followLast links here toDirectory (Path.dotDot :: names) =
      fs.walkFrom followLast links here.dropLast toDirectory names := by
  rw [walkFrom_cons, if_neg (by decide), if_pos rfl]

theorem walkFrom_none (step : IsStep name) (found : fs.node? (here ++ [name]) = none) :
    fs.walkFrom followLast links here toDirectory (name :: names) =
      if names.isEmpty then .ok (here ++ [name]) else .error .notFound := by
  rw [walkFrom_cons, if_neg step.1, if_neg step.2.1, if_neg (Nat.not_lt.mpr step.2.2), found]

theorem walkFrom_directory (step : IsStep name)
    (found : fs.node? (here ++ [name]) = some .directory) :
    fs.walkFrom followLast links here toDirectory (name :: names) =
      fs.walkFrom followLast links (here ++ [name]) toDirectory names := by
  rw [walkFrom_cons, if_neg step.1, if_neg step.2.1, if_neg (Nat.not_lt.mpr step.2.2), found]

theorem walkFrom_file (step : IsStep name) {node : Node}
    (found : fs.node? (here ++ [name]) = some node) (regular : node.isRegular = true) :
    fs.walkFrom followLast links here toDirectory (name :: names) =
      if names.isEmpty && !toDirectory then .ok (here ++ [name]) else .error .notDirectory := by
  rw [walkFrom_cons, if_neg step.1, if_neg step.2.1, if_neg (Nat.not_lt.mpr step.2.2), found]
  obtain ⟨content, rfl⟩ | rfl := Node.isRegular_iff.mp regular <;> rfl

theorem walkFrom_link (step : IsStep name) {target : Text}
    (found : fs.node? (here ++ [name]) = some (.link target)) :
    fs.walkFrom followLast links here toDirectory (name :: names) =
      if names.isEmpty && !toDirectory && !followLast then .ok (here ++ [name])
      else
        match links with
        | 0 => .error .tooManyLinks
        | links + 1 =>
          if target.isEmpty then .error .notFound
          else
            fs.walkFrom followLast links (startOf here target)
              (toDirectory || (names.isEmpty && (Route.ofText target).endsInSlash))
              ((Route.ofText target).names ++ names) := by
  rw [walkFrom_cons, if_neg step.1, if_neg step.2.1, if_neg (Nat.not_lt.mpr step.2.2), found]

theorem walkFrom_tooLong (hdot : name ≠ Path.dot) (hdotDot : name ≠ Path.dotDot)
    (long : FileName.maxLength < FileName.byteLength name) :
    fs.walkFrom followLast links here toDirectory (name :: names) = .error .nameTooLong := by
  rw [walkFrom_cons, if_neg hdot, if_neg hdotDot, if_pos long]

/-- A name is a dot or two, or too long, or a step down. -/
theorem name_cases (name : Text) : name = Path.dot ∨ name = Path.dotDot ∨
    (name ≠ Path.dot ∧ name ≠ Path.dotDot ∧ FileName.maxLength < FileName.byteLength name) ∨
    IsStep name := by
  by_cases hdot : name = Path.dot
  · exact Or.inl hdot
  by_cases hdotDot : name = Path.dotDot
  · exact Or.inr (Or.inl hdotDot)
  by_cases long : FileName.maxLength < FileName.byteLength name
  · exact Or.inr (Or.inr (Or.inl ⟨hdot, hdotDot, long⟩))
  · exact Or.inr (Or.inr (Or.inr ⟨hdot, hdotDot, Nat.not_lt.mp long⟩))

end Equations

/-- Induction along the names that are followed. Each name ends the way or leads on to the names
that are left, behind a link with one link less that may be followed. -/
@[elab_as_elim]
theorem walk_induction (fs : FileSystem) {motive : Nat → Location → Bool → List Text → Prop}
    (nil : ∀ {links here toDirectory}, motive links here toDirectory [])
    (dot : ∀ {links here toDirectory names}, motive links here toDirectory names →
      motive links here toDirectory (Path.dot :: names))
    (dotDot : ∀ {links here toDirectory names}, motive links here.dropLast toDirectory names →
      motive links here toDirectory (Path.dotDot :: names))
    (tooLong : ∀ {links here toDirectory name names}, name ≠ Path.dot → name ≠ Path.dotDot →
      FileName.maxLength < FileName.byteLength name →
      motive links here toDirectory (name :: names))
    (none : ∀ {links here toDirectory name names}, IsStep name →
      fs.node? (here ++ [name]) = none → motive links here toDirectory (name :: names))
    (directory : ∀ {links here toDirectory name names}, IsStep name →
      fs.node? (here ++ [name]) = some .directory →
      motive links (here ++ [name]) toDirectory names →
      motive links here toDirectory (name :: names))
    (file : ∀ {links here toDirectory name names node}, IsStep name →
      fs.node? (here ++ [name]) = some node → node.isRegular = true →
      motive links here toDirectory (name :: names))
    (link : ∀ {links here toDirectory name names target}, IsStep name →
      fs.node? (here ++ [name]) = some (.link target) →
      (∀ {left}, links = left + 1 → motive left (startOf here target)
        (toDirectory || (names.isEmpty && (Route.ofText target).endsInSlash))
        ((Route.ofText target).names ++ names)) →
      motive links here toDirectory (name :: names))
    (links : Nat) (here : Location) (toDirectory : Bool) (names : List Text) :
    motive links here toDirectory names := by
  induction links using Nat.strongRecOn generalizing here toDirectory names with
  | ind links fewer =>
  induction names generalizing here with
  | nil => exact nil
  | cons name names ih =>
      obtain rfl | rfl | ⟨hdot, hdotDot, long⟩ | step := name_cases name
      · exact dot (ih here)
      · exact dotDot (ih here.dropLast)
      · exact tooLong hdot hdotDot long
      · cases found : fs.node? (here ++ [name]) with
        | none => exact none step found
        | some node =>
            cases node with
            | directory => exact directory step found (ih _)
            | file content => exact file step found rfl
            | locked => exact file step found rfl
            | link target =>
                refine link step found fun {left} one => ?_
                exact fewer left (by omega) _ _ _

theorem walkFrom_of_leads (h : Leads fs followLast links here toDirectory names place) :
    fs.walkFrom followLast links here toDirectory names = .ok place := by
  induction h with
  | here => exact walkFrom_nil
  | dot _ ih => exact walkFrom_dot.trans ih
  | up _ ih => exact walkFrom_dotDot.trans ih
  | fresh step found => exact walkFrom_none step found
  | down step found _ ih => exact (walkFrom_directory step found).trans ih
  | file step found regular => exact walkFrom_file step found regular
  | stop step last found =>
      rw [walkFrom_link step found, last]
      rfl
  | link step found solid further _ ih =>
      rw [walkFrom_link step found, further, if_neg Bool.false_ne_true]
      simpa [solid] using ih

theorem leads_of_walkFrom
    (h : fs.walkFrom followLast links here toDirectory names = .ok place) :
    Leads fs followLast links here toDirectory names place := by
  induction links, here, toDirectory, names using walk_induction fs with
  | nil =>
      rw [walkFrom_nil] at h
      cases h
      exact .here
  | dot ih => exact .dot (ih (walkFrom_dot.symm.trans h))
  | dotDot ih => exact .up (ih (walkFrom_dotDot.symm.trans h))
  | tooLong hdot hdotDot long =>
      rw [walkFrom_tooLong hdot hdotDot long] at h
      cases h
  | none step found =>
      rw [walkFrom_none step found] at h
      split_ifs at h with last
      cases h
      rw [List.isEmpty_iff.mp last]
      exact .fresh step found
  | directory step found ih =>
      exact .down step found (ih ((walkFrom_directory step found).symm.trans h))
  | file step found regular =>
      rw [walkFrom_file step found regular] at h
      split_ifs at h with last
      rw [Bool.and_eq_true, List.isEmpty_iff, Bool.not_eq_true'] at last
      obtain ⟨rfl, rfl⟩ := last
      cases h
      exact .file step found regular
  | @link links here toDirectory name names target step found ih =>
      rw [walkFrom_link step found] at h
      by_cases last : (names.isEmpty && !toDirectory && !followLast) = true
      · rw [if_pos last] at h
        rw [Bool.and_eq_true, Bool.and_eq_true, List.isEmpty_iff, Bool.not_eq_true',
          Bool.not_eq_true'] at last
        obtain ⟨⟨rfl, rfl⟩, stops⟩ := last
        cases h
        exact .stop step stops found
      · rw [if_neg last] at h
        cases links with
        | zero => cases h
        | succ links =>
            simp only at h
            split_ifs at h with solid
            exact .link step found (fun hnil => solid (List.isEmpty_iff.mpr hnil))
              (Bool.eq_false_iff.mpr last) (ih rfl h)

theorem leads_iff : Leads fs followLast links here toDirectory names place ↔
    fs.walkFrom followLast links here toDirectory names = .ok place :=
  ⟨walkFrom_of_leads, leads_of_walkFrom⟩

namespace Passes

theorem append (h : Passes fs links here names left there) {last : Nat} {final : Location}
    (more : Passes fs left there rest last final) :
    Passes fs links here (names ++ rest) last final := by
  induction h with
  | here => exact more
  | dot _ ih => exact .dot (ih more)
  | up _ ih => exact .up (ih more)
  | down step found _ ih => exact .down step found (ih more)
  | link step found solid inner _ _ ih => exact .link step found solid inner (ih more)

theorem split (h : Passes fs links here (names ++ rest) left there) :
    ∃ mid between, Passes fs links here names mid between ∧
      Passes fs mid between rest left there := by
  induction names generalizing links here with
  | nil => exact ⟨links, here, .here, h⟩
  | cons name names ih =>
      cases h with
      | dot h =>
          obtain ⟨mid, between, first, second⟩ := ih h
          exact ⟨mid, between, .dot first, second⟩
      | up h =>
          obtain ⟨mid, between, first, second⟩ := ih h
          exact ⟨mid, between, .up first, second⟩
      | down step found h =>
          obtain ⟨mid, between, first, second⟩ := ih h
          exact ⟨mid, between, .down step found first, second⟩
      | link step found solid inner h =>
          obtain ⟨mid, between, first, second⟩ := ih h
          exact ⟨mid, between, .link step found solid inner first, second⟩

/-- Names that pass come before names that lead to a place. -/
theorem leads (h : Passes fs links here names left there) (hne : rest ≠ [])
    (more : Leads fs followLast left there toDirectory rest place) :
    Leads fs followLast links here toDirectory (names ++ rest) place := by
  induction h generalizing rest toDirectory with
  | here => exact more
  | dot _ ih => exact .dot (ih hne more)
  | up _ ih => exact .up (ih hne more)
  | down step found _ ih => exact .down step found (ih hne more)
  | @link links here name target names mid between left there step found solid _ _ ih ih' =>
      have hne' : names ++ rest ≠ [] := fun h => hne (List.append_eq_nil_iff.mp h).2
      have further : (names ++ rest).isEmpty = false := by simpa using hne'
      rw [List.cons_append]
      refine .link step found solid (by rw [further]; rfl) ?_
      rw [further, Bool.false_and, Bool.or_false]
      exact ih hne' (ih' hne more)

end Passes

namespace Leads

theorem split (h : Leads fs followLast links here toDirectory (names ++ rest) place)
    (hne : rest ≠ []) :
    ∃ left there, Passes fs links here names left there ∧
      Leads fs followLast left there toDirectory rest place := by
  generalize hall : names ++ rest = all at h
  induction h generalizing names with
  | here => exact absurd (List.append_eq_nil_iff.mp hall).2 hne
  | @dot links here _ all place h ih =>
      rcases List.append_eq_cons_iff.mp hall with ⟨rfl, rfl⟩ | ⟨names, rfl, rfl⟩
      · exact ⟨links, here, .here, .dot h⟩
      · obtain ⟨left, there, first, second⟩ := ih rfl
        exact ⟨left, there, .dot first, second⟩
  | @up links here _ all place h ih =>
      rcases List.append_eq_cons_iff.mp hall with ⟨rfl, rfl⟩ | ⟨names, rfl, rfl⟩
      · exact ⟨links, here, .here, .up h⟩
      · obtain ⟨left, there, first, second⟩ := ih rfl
        exact ⟨left, there, .up first, second⟩
  | @fresh links here _ name step found =>
      rcases List.append_eq_cons_iff.mp hall with ⟨rfl, rfl⟩ | ⟨names, rfl, hrest⟩
      · exact ⟨links, here, .here, .fresh step found⟩
      · exact absurd (List.append_eq_nil_iff.mp hrest.symm).2 hne
  | @down links here _ name all place step found h ih =>
      rcases List.append_eq_cons_iff.mp hall with ⟨rfl, rfl⟩ | ⟨names, rfl, rfl⟩
      · exact ⟨links, here, .here, .down step found h⟩
      · obtain ⟨left, there, first, second⟩ := ih rfl
        exact ⟨left, there, .down step found first, second⟩
  | @file links here name node step found regular =>
      rcases List.append_eq_cons_iff.mp hall with ⟨rfl, rfl⟩ | ⟨names, rfl, hrest⟩
      · exact ⟨links, here, .here, .file step found regular⟩
      · exact absurd (List.append_eq_nil_iff.mp hrest.symm).2 hne
  | @stop links here name target step last found =>
      rcases List.append_eq_cons_iff.mp hall with ⟨rfl, rfl⟩ | ⟨names, rfl, hrest⟩
      · exact ⟨links, here, .here, .stop step last found⟩
      · exact absurd (List.append_eq_nil_iff.mp hrest.symm).2 hne
  | @link links here _ name target all place step found solid further h ih =>
      rcases List.append_eq_cons_iff.mp hall with ⟨rfl, rfl⟩ | ⟨names, rfl, rfl⟩
      · exact ⟨_, here, .here, .link step found solid further h⟩
      · have more : (names ++ rest).isEmpty = false := by simp [hne]
        obtain ⟨left, there, first, second⟩ := ih (List.append_assoc _ _ _)
        obtain ⟨mid, between, inner, outer⟩ := first.split
        rw [more, Bool.false_and, Bool.or_false] at second
        exact ⟨left, there, .link step found solid inner outer, second⟩

end Leads

theorem not_isStep_dot : ¬IsStep Path.dot := fun h => h.1 rfl

theorem not_isStep_dotDot : ¬IsStep Path.dotDot := fun h => h.2.1 rfl

/-- A way that ends with a step, and does not follow a link there, ends just below. -/
theorem leads_single_iff {name : Text} (hdot : name ≠ Path.dot) (hdotDot : name ≠ Path.dotDot) :
    Leads fs false links here false [name] place ↔ IsStep name ∧ place = here ++ [name] := by
  constructor
  · intro h
    cases h with
    | dot => exact absurd rfl hdot
    | up => exact absurd rfl hdotDot
    | fresh step found => exact ⟨step, rfl⟩
    | down step found rest =>
        cases rest
        exact ⟨step, rfl⟩
    | file step => exact ⟨step, rfl⟩
    | stop step last found => exact ⟨step, rfl⟩
    | link step found solid further rest => cases further
  · rintro ⟨step, rfl⟩
    cases found : fs.node? (here ++ [name]) with
    | none => exact .fresh step found
    | some node =>
        cases node with
        | directory => exact .down step found .here
        | file content => exact .file step found rfl
        | locked => exact .file step found rfl
        | link target => exact .stop step rfl found

namespace Passes

/-- Passing does not notice what else there is. -/
theorem keeps (h : Passes fs links here names left there) (hk : Keeps fs fs') :
    Passes fs' links here names left there := by
  induction h with
  | here => exact .here
  | dot _ ih => exact .dot ih
  | up _ ih => exact .up ih
  | down step found _ ih => exact .down step (hk.node _ _ found) ih
  | link step found solid _ _ ih ih' => exact .link step (hk.node _ _ found) solid ih ih'

/-- Names that pass in two file systems pass to the same place, if a directory or link of the
one can only have become a file in the other. They come past nothing but what both have, and the
number of links does not matter. -/
theorem common (h : Passes fs links here names left there)
    (agree : ∀ place node, fs.node? place = some node →
      fs'.node? place = some node ∨ ∃ content, fs'.node? place = some (.file content))
    {links' left' : Nat} {there' : Location} (h' : Passes fs' links' here names left' there') :
    there = there' ∧ ∀ fs'' : FileSystem, (∀ place node, fs.node? place = some node →
      fs'.node? place = some node → fs''.node? place = some node) →
      Passes fs'' links here names left there := by
  induction h generalizing links' left' there' with
  | here =>
      cases h'
      exact ⟨rfl, fun _ _ => .here⟩
  | dot _ ih =>
      cases h' with
      | dot h' => exact ⟨(ih h').1, fun fs'' both => .dot ((ih h').2 fs'' both)⟩
      | down step => exact absurd step not_isStep_dot
      | link step => exact absurd step not_isStep_dot
  | up _ ih =>
      cases h' with
      | up h' => exact ⟨(ih h').1, fun fs'' both => .up ((ih h').2 fs'' both)⟩
      | down step => exact absurd step not_isStep_dotDot
      | link step => exact absurd step not_isStep_dotDot
  | down step found _ ih =>
      cases h' with
      | dot h' => exact absurd step not_isStep_dot
      | up h' => exact absurd step not_isStep_dotDot
      | down _ found' h' =>
          exact ⟨(ih h').1, fun fs'' both =>
            .down step (both _ _ found found') ((ih h').2 fs'' both)⟩
      | link _ found' =>
          rcases agree _ _ found with hn | ⟨content, hn⟩ <;> simp [hn] at found'
  | link step found solid _ _ ih ih' =>
      cases h' with
      | dot h' => exact absurd step not_isStep_dot
      | up h' => exact absurd step not_isStep_dotDot
      | down _ found' h' => rcases agree _ _ found with hn | ⟨content, hn⟩ <;> simp [hn] at found'
      | link _ found' _ inner rest =>
          have found'' := found'
          rcases agree _ _ found with hn | ⟨content, hn⟩
          · rw [hn] at found''
            cases found''
            obtain ⟨rfl, inside⟩ := ih inner
            obtain ⟨rfl, behind⟩ := ih' rest
            exact ⟨rfl, fun fs'' both => .link step (both _ _ found found') solid
              (inside fs'' both) (behind fs'' both)⟩
          · simp [hn] at found''

theorem unique (h : Passes fs links here names left there)
    (agree : ∀ place node, fs.node? place = some node →
      fs'.node? place = some node ∨ ∃ content, fs'.node? place = some (.file content))
    {links' left' : Nat} {there' : Location} (h' : Passes fs' links' here names left' there') :
    there = there' :=
  (h.common agree h').1

/-- A directory that is reached by passing is one. -/
theorem directory (h : Passes fs links here names left there) (tree : fs.IsTree)
    (start : fs.node? here = some .directory) : fs.node? there = some .directory := by
  induction h with
  | here => exact start
  | dot _ ih => exact ih start
  | up _ ih => exact ih (tree.dropLast start)
  | down _ found _ ih => exact ih found
  | @link links here name target _ _ _ _ _ _ _ _ _ _ ih ih' =>
      refine ih' (ih ?_)
      unfold startOf
      split_ifs
      · rfl
      · exact start

/-- Names that pass are followed to where they pass to, unless there are not links enough. -/
theorem walkFrom_append (h : Passes fs links here names left there)
    (followLast toDirectory : Bool) (hne : rest ≠ []) (links' : Nat) :
    fs.walkFrom followLast links' here toDirectory (names ++ rest) = .error .tooManyLinks ∨
      ∃ left', fs.walkFrom followLast links' here toDirectory (names ++ rest) =
        fs.walkFrom followLast left' there toDirectory rest := by
  induction h generalizing rest links' with
  | here => exact Or.inr ⟨links', rfl⟩
  | dot _ ih =>
      rw [List.cons_append, walkFrom_dot]
      exact ih hne links'
  | up _ ih =>
      rw [List.cons_append, walkFrom_dotDot]
      exact ih hne links'
  | down step found _ ih =>
      rw [List.cons_append, walkFrom_directory step found]
      exact ih hne links'
  | @link _ here _ target names _ between _ _ step found solid _ _ ih ih' =>
      have more : names ++ rest ≠ [] := fun h => hne (List.append_eq_nil_iff.mp h).2
      have more' : (names ++ rest).isEmpty = false := by simpa using more
      rw [List.cons_append, walkFrom_link step found, more', Bool.false_and, Bool.false_and,
        if_neg Bool.false_ne_true]
      cases links' with
      | zero => exact Or.inl rfl
      | succ links' =>
          simp only [List.isEmpty_iff, solid, if_false, Bool.false_and, Bool.or_false]
          rcases ih more links' with fails | ⟨left', heq⟩
          · exact Or.inl fails
          · rw [heq]
            exact ih' hne left'

theorem walkFrom_all (h : Passes fs links here names left there) (links' : Nat) :
    fs.walkFrom true links' here toDirectory names = .error .tooManyLinks ∨
      fs.walkFrom true links' here toDirectory names = .ok there := by
  induction h generalizing links' toDirectory with
  | here => exact Or.inr walkFrom_nil
  | dot _ ih =>
      rw [walkFrom_dot]
      exact ih links'
  | up _ ih =>
      rw [walkFrom_dotDot]
      exact ih links'
  | down step found _ ih =>
      rw [walkFrom_directory step found]
      exact ih links'
  | @link _ here _ target names _ between _ _ step found solid inner rest ih ih' =>
      rw [walkFrom_link step found, Bool.not_true, Bool.and_false, if_neg Bool.false_ne_true]
      cases links' with
      | zero => exact Or.inl rfl
      | succ links' =>
          simp only [List.isEmpty_iff, solid, if_false]
          by_cases hnil : names = []
          · subst hnil
            cases rest
            rw [List.append_nil]
            exact ih links'
          · rcases inner.walkFrom_append true _ hnil links' with fails | ⟨left', heq⟩
            · exact Or.inl fails
            · rw [heq]
              exact ih' left'

/-- Passing does not notice what happens to a place that it does not come past: one that is no
directory, and if it is a link, one whose target does not pass. -/
theorem avoids (h : Passes fs links here names left there) {avoided : Location}
    (others : ∀ place, place ≠ avoided → ∀ node, fs.node? place = some node →
      (node = .directory ∨ ∃ target, node = .link target) → fs'.node? place = some node)
    (notDirectory : fs.node? avoided ≠ some .directory)
    (notPassed : ∀ here name target links left there, avoided = here ++ [name] →
      fs.node? avoided = some (.link target) → target ≠ [] →
        ¬Passes fs links (startOf here target) (Route.ofText target).names left there) :
    Passes fs' links here names left there := by
  induction h with
  | here => exact .here
  | dot _ ih => exact .dot ih
  | up _ ih => exact .up ih
  | @down links here name names left there step found _ ih =>
      have hne : here ++ [name] ≠ avoided := by
        rintro rfl
        exact notDirectory found
      exact .down step (others _ hne _ found (Or.inl rfl)) ih
  | @link links here name target names mid between left there step found solid inner _ ih ih' =>
      have hne : here ++ [name] ≠ avoided := by
        rintro rfl
        exact notPassed here name target _ _ _ rfl found solid inner
      exact .link step (others _ hne _ found (Or.inr ⟨target, rfl⟩)) solid ih ih'

end Passes

/-- A way to a place where something is stays the same when other things are added. -/
theorem Leads.keeps (h : Leads fs followLast links here toDirectory names place)
    (hk : Keeps fs fs') (there : fs.node? place ≠ none) :
    Leads fs' followLast links here toDirectory names place := by
  induction h with
  | here => exact .here
  | dot _ ih => exact .dot (ih there)
  | up _ ih => exact .up (ih there)
  | fresh _ found => exact absurd found there
  | down step found _ ih => exact .down step (hk.node _ _ found) (ih there)
  | file step found regular => exact .file step (hk.node _ _ found) regular
  | stop step last found => exact .stop step last (hk.node _ _ found)
  | link step found solid further _ ih =>
      exact .link step (hk.node _ _ found) solid further (ih there)

/-- Where a way ends there is a directory, or it ends just below one. -/
theorem Leads.parent (h : Leads fs followLast links here toDirectory names place)
    (tree : fs.IsTree) (start : fs.node? here = some .directory) :
    fs.node? place = some .directory ∨
      ∃ above name, place = above ++ [name] ∧ fs.node? above = some .directory := by
  induction h with
  | here => exact Or.inl start
  | dot _ ih => exact ih start
  | up _ ih => exact ih (tree.dropLast start)
  | fresh | file | stop => exact Or.inr ⟨_, _, rfl, start⟩
  | down _ found _ ih => exact ih found
  | @link links here _ name target _ _ _ _ _ _ _ ih =>
      refine ih ?_
      unfold startOf
      split_ifs
      · rfl
      · exact start

/-- A way that follows a link at its end leads to the same place without following it, unless there
is such a link. -/
theorem Leads.entry (h : Leads fs true links here toDirectory names place) :
    ∃ place', Leads fs false links here toDirectory names place' ∧
      (place' = place ∨ ∃ target, fs.node? place' = some (.link target)) := by
  induction h with
  | here => exact ⟨_, .here, Or.inl rfl⟩
  | dot _ ih =>
      obtain ⟨place', leads, ends⟩ := ih
      exact ⟨place', .dot leads, ends⟩
  | up _ ih =>
      obtain ⟨place', leads, ends⟩ := ih
      exact ⟨place', .up leads, ends⟩
  | fresh step found => exact ⟨_, .fresh step found, Or.inl rfl⟩
  | down step found _ ih =>
      obtain ⟨place', leads, ends⟩ := ih
      exact ⟨place', .down step found leads, ends⟩
  | file step found regular => exact ⟨_, .file step found regular, Or.inl rfl⟩
  | stop _ last => cases last
  | @link _ _ toDirectory name target names _ step found solid further _ ih =>
      by_cases last : (names.isEmpty && !toDirectory) = true
      · rw [Bool.and_eq_true, List.isEmpty_iff, Bool.not_eq_true'] at last
        obtain ⟨rfl, rfl⟩ := last
        exact ⟨_, .stop step rfl found, Or.inr ⟨target, found⟩⟩
      · obtain ⟨place', leads, ends⟩ := ih
        refine ⟨place', .link step found solid ?_ leads, ends⟩
        rw [Bool.not_eq_true] at last
        rw [last, Bool.false_and]

end SourceLedger.FileSystem
