import SourceLedger.Proofs.Path

/-!
# Files that come and go

A regular file ends every way that comes to it, as a missing one does. So where regular files are
written, changed or removed, a path that does not lead to one of them still leads to what it led
to, or still to nothing: only the reason for which nothing is there may be another one.
-/

namespace SourceLedger.FileSystem

variable {fs fs' : FileSystem} {changed : Location → Prop} {followLast : Bool}

/-- Two file systems that differ in nothing but regular files at some places. -/
structure Exchanged (fs fs' : FileSystem) (changed : Location → Prop) : Prop where
  current : fs'.current = fs.current
  others : ∀ place, ¬changed place → fs'.node? place = fs.node? place
  before : ∀ place, changed place → ∀ node, fs.node? place = some node → node.isRegular = true
  after : ∀ place, changed place → ∀ node, fs'.node? place = some node → node.isRegular = true

/-- Putting a regular file where nothing is, or in place of another one. -/
theorem exchanged_put {place : Location} {node : Node} (hne : place ≠ [])
    (before : ∀ old, fs.node? place = some old → old.isRegular = true)
    (regular : node.isRegular = true) : Exchanged fs (fs.put place node) (· = place) where
  current := rfl
  others other apart := by rw [node?_put fs other _ hne, if_neg (Ne.symm apart)]
  before := by
    rintro _ rfl
    exact before
  after := by
    rintro _ rfl new found
    rw [node?_put fs _ _ hne, if_pos rfl] at found
    exact Option.some.inj found ▸ regular

/-- Nothing is at the end of a way, or there is no end. -/
def ComesToNothing (fs : FileSystem) (r : Except SystemError Location) : Prop :=
  r = .error .notFound ∨ r = .error .notDirectory ∨ ∃ place, r = .ok place ∧ fs.node? place = none

theorem ComesToNothing.find?_eq {r : Except SystemError Location} {path : Text}
    (nothing : ComesToNothing fs r) (walk : fs.walk true path = r.mapError .system) :
    fs.find? path = .ok none := by
  rcases nothing with rfl | rfl | ⟨place, rfl, missing⟩
  · exact find?_of_walk_error walk
  · exact find?_of_walk_error walk
  · rw [find?_of_walk walk, missing]

/-- A way leads to one of the changed places, or it does not notice the change, or it comes to
nothing before and after. -/
def Differ (fs fs' : FileSystem) (changed : Location → Prop)
    (old new : Except SystemError Location) : Prop :=
  (∃ place, changed place ∧ old = .ok place) ∨ new = old ∨
    (ComesToNothing fs old ∧ ComesToNothing fs' new)

section Stops

variable {links : Nat} {here : Location} {toDirectory : Bool} {name : Text} {names : List Text}

theorem walkFrom_last (step : IsStep name)
    (regular : ∀ node, fs.node? (here ++ [name]) = some node → node.isRegular = true) :
    fs.walkFrom followLast links here false [name] = .ok (here ++ [name]) := by
  cases found : fs.node? (here ++ [name]) with
  | none => exact walkFrom_none step found
  | some node => exact walkFrom_file step found (regular node found)

/-- A way that should go on from a regular file, or from nothing, comes to nothing. -/
theorem walkFrom_stops (step : IsStep name)
    (regular : ∀ node, fs.node? (here ++ [name]) = some node → node.isRegular = true)
    (more : (names.isEmpty && !toDirectory) = false) :
    ComesToNothing fs (fs.walkFrom followLast links here toDirectory (name :: names)) := by
  cases found : fs.node? (here ++ [name]) with
  | none =>
      rw [walkFrom_none step found]
      split_ifs
      · exact Or.inr (Or.inr ⟨_, rfl, found⟩)
      · exact Or.inl rfl
  | some node =>
      rw [walkFrom_file step found (regular node found), more, if_neg Bool.false_ne_true]
      exact Or.inr (Or.inl rfl)

end Stops

namespace Exchanged

/-- No directory comes about, and none goes. -/
theorem directories (exchanged : Exchanged fs fs' changed) (place : Location) :
    fs'.node? place = some .directory ↔ fs.node? place = some .directory := by
  by_cases meets : changed place
  · have old : fs.node? place ≠ some .directory := nofun ∘ exchanged.before place meets _
    have new : fs'.node? place ≠ some .directory := nofun ∘ exchanged.after place meets _
    exact ⟨fun h => absurd h new, fun h => absurd h old⟩
  · rw [exchanged.others place meets]

theorem walkFrom (exchanged : Exchanged fs fs' changed) (links : Nat) (here : Location)
    (toDirectory : Bool) (names : List Text) :
    Differ fs fs' changed (fs.walkFrom true links here toDirectory names)
      (fs'.walkFrom true links here toDirectory names) := by
  refine walkFrom_related (Differ fs fs' changed) (fun _ => Or.inr (Or.inl rfl)) exchanged.others
    ?_ links here toDirectory names
  intro links here toDirectory name names step meets
  have old := exchanged.before _ meets
  have new := exchanged.after _ meets
  cases more : names.isEmpty && !toDirectory with
  | true =>
      rw [Bool.and_eq_true, List.isEmpty_iff, Bool.not_eq_true'] at more
      obtain ⟨rfl, rfl⟩ := more
      exact Or.inl ⟨_, meets, walkFrom_last step old⟩
  | false => exact Or.inr (Or.inr ⟨walkFrom_stops step old more, walkFrom_stops step new more⟩)

/-- A path that leads to none of the changed places leads to what it led to. -/
theorem find?_eq (exchanged : Exchanged fs fs' changed) {path : Text}
    (apart : ∀ place, fs.walk true path = .ok place → ¬changed place) :
    fs'.find? path = fs.find? path := by
  have unnoticed (same : fs'.walk true path = fs.walk true path) :
      fs'.find? path = fs.find? path := by
    cases leads : fs.walk true path with
    | error r => rw [find?_of_walk_error leads, find?_of_walk_error (same.trans leads)]
    | ok place =>
        rw [find?_of_walk leads, find?_of_walk (same.trans leads),
          exchanged.others place (apart place leads)]
  obtain same | ⟨old, new, related, walk, walk'⟩ := walk_related (Differ fs fs' changed)
    exchanged.current exchanged.directories exchanged.walkFrom path
  · exact unnoticed same
  · obtain ⟨place, meets, rfl⟩ | rfl | ⟨nothing, nothing'⟩ := related
    · exact absurd meets (apart place walk)
    · exact unnoticed (walk'.trans walk.symm)
    · rw [nothing.find?_eq walk, nothing'.find?_eq walk']

end Exchanged

section Linkless

variable (linkless : ∀ place target, fs.node? place ≠ some (.link target))
include linkless

/-- Where there are no links, names that are steps down lead to the place that they name. -/
theorem Leads.place_eq {links : Nat} {here place : Location} {toDirectory : Bool}
    {names : List Text} (leads : Leads fs followLast links here toDirectory names place)
    (down : ∀ name ∈ names, name ≠ Path.dot ∧ name ≠ Path.dotDot) : place = here ++ names := by
  induction leads with
  | here => rw [List.append_nil]
  | dot => exact absurd rfl (down _ List.mem_cons_self).1
  | up => exact absurd rfl (down _ List.mem_cons_self).2
  | fresh | file | stop => rfl
  | down _ _ _ ih =>
      rw [List.forall_mem_cons] at down
      rw [ih down.2, List.append_assoc, List.singleton_append]
  | link _ found => exact absurd found (linkless _ _)

theorem walk_normal {path : Path} {place : Location} (normal : path.Normal)
    (walk : fs.walk followLast path.toText = .ok place) : place = path.segments := by
  obtain ⟨_, _, leads⟩ := walk_toText normal.proper walk
  rw [startOfPath, if_pos normal.isAbsolute] at leads
  refine leads.place_eq linkless fun name mem => ⟨(normal.proper name mem).2, ?_⟩
  rintro rfl
  exact normal.noStepUp mem

end Linkless

end SourceLedger.FileSystem
