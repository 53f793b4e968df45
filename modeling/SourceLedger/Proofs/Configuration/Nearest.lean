import Mathlib.Data.List.Nodup
import Mathlib.Data.List.Pairwise
import SourceLedger.Proofs.Configuration.Search

/-!
# The nearest configuration

The first path that settles a search decides it alone. Files that come after it in the order can
be written, changed or removed without any influence, unless a link makes a nearer path lead to
one of them; and every directory below that one has the same configuration where all paths in
between are passed by.
-/

namespace SourceLedger.Configuration

open FileSystem (Exchanged)

variable {fs fs' : FileSystem} {path start source : Path} {own : Value.Table} {f : Failure}
  {changed : Location → Prop}

/-- A search comes to a path: it passes by those before it. -/
structure ComesTo (fs : FileSystem) (start : Path) (nearer : List Path) (path : Path)
    (later : List Path) : Prop where
  order : searchPaths start = nearer ++ path :: later
  passed : ∀ p ∈ nearer, Passed fs p

theorem named_of_order {nearer later : List Path}
    (order : searchPaths start = nearer ++ path :: later) : path.name ∈ candidateNames :=
  mem_candidateNames (order ▸ List.mem_append_right nearer List.mem_cons_self)

/-- What comes before a path is passed by if nothing is found there. -/
theorem passed_iff {nearer later : List Path}
    (order : searchPaths start = nearer ++ path :: later) :
    (∀ p ∈ nearer, inspect fs p = .ok none) ↔ ∀ p ∈ nearer, Passed fs p :=
  forall₂_congr fun _ mem =>
    inspect_eq_none_iff (mem_candidateNames (order ▸ List.mem_append_left _ mem))

theorem find_eq_some_iff : find fs start = .ok (some (source, own)) ↔
    ∃ nearer later, ComesTo fs start nearer source later ∧ HoldsTable fs source own := by
  rw [find_eq, firstFound_eq_some_iff]
  constructor
  · rintro ⟨nearer, later, order, none, here⟩
    exact ⟨nearer, later, ⟨order, (passed_iff order).mp none⟩,
      (inspect_eq_some_iff (named_of_order order)).mp here⟩
  · rintro ⟨nearer, later, ⟨order, passed⟩, holds⟩
    exact ⟨nearer, later, order, (passed_iff order).mpr passed,
      (inspect_eq_some_iff (named_of_order order)).mpr holds⟩

theorem find_eq_none_iff : find fs start = .ok none ↔ ∀ p ∈ searchPaths start, Passed fs p := by
  rw [find_eq, firstFound_eq_none_iff]
  exact forall₂_congr fun _ mem => inspect_eq_none_iff (mem_candidateNames mem)

theorem find_eq_error_iff : find fs start = .error f ↔
    ∃ nearer path later, ComesTo fs start nearer path later ∧ Spoils fs path f := by
  rw [find_eq, firstFound_eq_error_iff]
  constructor
  · rintro ⟨nearer, path, later, order, none, here⟩
    exact ⟨nearer, path, later, ⟨order, (passed_iff order).mp none⟩,
      inspect_eq_error_iff.mp here⟩
  · rintro ⟨nearer, path, later, ⟨order, passed⟩, spoils⟩
    exact ⟨nearer, path, later, order, (passed_iff order).mpr passed,
      inspect_eq_error_iff.mpr spoils⟩

section Farther

theorem inspect_of_exchanged (exchanged : Exchanged fs fs' changed)
    (apart : ∀ place, fs.walk true path.toText = .ok place → ¬changed place) :
    inspect fs' path = inspect fs path := by
  rw [inspect, inspect, content?_congr (exchanged.find?_eq apart)]

/-- Files to which no path leads up to the one that settles a search have no influence on it. -/
theorem find_of_exchanged {nearer later : List Path} (comes : ComesTo fs start nearer source later)
    (holds : HoldsTable fs source own) (exchanged : Exchanged fs fs' changed)
    (apart : ∀ p ∈ nearer ++ [source], ∀ place, fs.walk true p.toText = .ok place →
      ¬changed place) :
    find fs' start = .ok (some (source, own)) := by
  rw [List.forall_mem_append, List.forall_mem_singleton] at apart
  rw [find_eq, firstFound_eq_some_iff]
  refine ⟨nearer, later, comes.order, ?_, ?_⟩
  · intro p mem
    rw [inspect_of_exchanged exchanged (apart.1 p mem)]
    exact (passed_iff comes.order).mpr comes.passed p mem
  · rw [inspect_of_exchanged exchanged apart.2]
    exact (inspect_eq_some_iff (named_of_order comes.order)).mpr holds

theorem normal_of_mem_searchPaths (normal : start.Normal) (h : path ∈ searchPaths start) :
    path.Normal := by
  obtain ⟨directory, above, mem⟩ := List.mem_flatMap.mp h
  obtain ⟨name, named, rfl⟩ := List.mem_map.mp mem
  obtain ⟨steps, _, rfl⟩ := List.mem_map.mp above
  have step : ∀ name ∈ candidateNames, Path.IsName name ∧ name ≠ Path.dot ∧
      name ≠ Path.dotDot := by decide
  obtain ⟨isName, ne_dot, ne_dotDot⟩ := step name named
  have front : start.segments.take (start.segments.length - steps) ⊆ start.segments :=
    List.take_subset _ _
  refine ⟨normal.isAbsolute, ?_, ?_⟩
  · exact Path.Proper.child (fun s mem => normal.proper s (front mem)) isName ne_dot
  · intro mem
    rcases List.mem_append.mp mem with mem | mem
    · exact normal.noStepUp (front mem)
    · exact ne_dotDot (List.mem_singleton.mp mem).symm

/-- The paths of a search lead to different places. -/
theorem pairwise_searchPaths (start : Path) :
    (searchPaths start).Pairwise fun p q => p.segments ≠ q.segments := by
  rw [searchPaths, List.pairwise_flatMap]
  constructor
  · intro directory _
    rw [List.pairwise_map]
    have apart : candidateNames.Nodup := by decide
    refine apart.imp fun differ same => differ ?_
    exact List.singleton_inj.mp (List.append_cancel_left same)
  · rw [Path.selfAndParents, List.pairwise_map]
    refine (List.pairwise_lt_range).imp_of_mem ?_
    intro steps more mem mem' less p hp q hq same
    obtain ⟨_, _, rfl⟩ := List.mem_map.mp hp
    obtain ⟨_, _, rfl⟩ := List.mem_map.mp hq
    have lengths := congrArg List.length same
    simp only [Path.child, List.length_append, List.length_take, List.length_singleton] at lengths
    rw [List.mem_range] at mem mem'
    omega

/-- Where there are no links, files that come after the one that settles a search have no
influence on it. -/
theorem apart_of_linkless {nearer later : List Path}
    (comes : ComesTo fs start nearer source later) (normal : start.Normal)
    (linkless : ∀ place target, fs.node? place ≠ some (.link target))
    (behind : ∀ place, changed place → ∃ p ∈ later, place = p.segments) :
    ∀ p ∈ nearer ++ [source], ∀ place, fs.walk true p.toText = .ok place → ¬changed place := by
  have order : searchPaths start = (nearer ++ [source]) ++ later := by simp [comes.order]
  intro p mem place walk meets
  obtain ⟨q, mem', rfl⟩ := behind place meets
  have own := FileSystem.walk_normal linkless
    (normal_of_mem_searchPaths normal (order ▸ List.mem_append_left _ mem)) walk
  have differ := pairwise_searchPaths start
  rw [order, List.pairwise_append] at differ
  exact differ.2.2 p mem q mem' own.symm

end Farther

section Lower

theorem parent_child (directory : Path) (name : Text) :
    (directory.child name).parent = directory := by
  simp [Path.parent, Path.child]

/-- A search ends in the directory in which the file that was found is. -/
theorem inDirectory_of_findIn {directories : List Path}
    (h : findIn fs directories = .ok (some (source, own))) :
    inDirectory fs source.parent = .ok (some (source, own)) := by
  induction directories with
  | nil => cases h
  | cons directory above ih =>
      obtain ⟨found, here, h⟩ := bind_eq_ok h
      cases found with
      | none => exact ih h
      | some found =>
          cases h
          have first := here
          rw [inDirectory_eq, firstFound_eq_some_iff] at first
          obtain ⟨nearer, later, split, _, _⟩ := first
          have mem : source ∈ candidateNames.map directory.child := by simp [split]
          obtain ⟨name, _, rfl⟩ := List.mem_map.mp mem
          rwa [parent_child]

theorem inDirectory_of_passed {directory : Path}
    (passed : ∀ name ∈ candidateNames, Passed fs (directory.child name)) :
    inDirectory fs directory = .ok none := by
  rw [inDirectory_eq, firstFound_eq_none_iff]
  intro p mem
  obtain ⟨name, named, rfl⟩ := List.mem_map.mp mem
  exact (inspect_eq_none_iff ((name_child _ _).symm ▸ named)).mpr (passed name named)

theorem findIn_of_passed {between : List Path} {directory : Path} (above : List Path)
    (passed : ∀ d ∈ between, ∀ name ∈ candidateNames, Passed fs (d.child name))
    (here : inDirectory fs directory = .ok (some (source, own))) :
    findIn fs (between ++ directory :: above) = .ok (some (source, own)) := by
  induction between with
  | nil =>
      rw [List.nil_append, findIn, here]
      rfl
  | cons d between ih =>
      rw [List.forall_mem_cons] at passed
      rw [List.cons_append, findIn, inDirectory_of_passed passed.1]
      exact ih passed.2

/-- A configuration that was loaded from a file is the one of all directories below that are not
nearer to another one. -/
theorem load_of_below {c : Configuration} (loaded : load fs start = .ok c)
    (found : c.source = some source) {lower real : Path} {between above : List Path}
    (below : fs.realPath lower = .ok real)
    (parents : real.selfAndParents = between ++ c.root :: above)
    (passed : ∀ d ∈ between, ∀ name ∈ candidateNames, Passed fs (d.child name)) :
    load fs lower = .ok c := by
  obtain ⟨_, _, ⟨_, rfl⟩ | ⟨_, own, search, shallow, valid, rfl⟩⟩ := load_eq_ok loaded
  · cases found
  · refine load_of_found below ?_ shallow valid
    rw [find, parents]
    exact findIn_of_passed above passed (inDirectory_of_findIn search)

end Lower

section Example

/-- A directory `/w/sub/low`, a configuration in the directory above it, and one further up. -/
private def nested : FileSystem where
  nodes := [(["w"], .directory), (["w", "sub"], .directory), (["w", "sub", "low"], .directory),
    (["w", "sub", ".syndox.toml"], .file (Utf8.encodeChars "out = \"x\"".toList)),
    (["w", "syndox.toml"], .file [])]
  current := []

private def top : Path := ⟨.single, ["w"]⟩

private def sub : Path := ⟨.single, ["w", "sub"]⟩

/-- The place of the file further up. -/
private def farther : Location := ["w", "syndox.toml"]

/-- A tree in which the nearest file is a link to one further up. -/
private def linkedUp : FileSystem where
  nodes := [(["w"], .directory), (["w", "sub"], .directory),
    (["w", "sub", "syndox.toml"], .link "../syndox.toml"), (["w", "syndox.toml"], .file [])]
  current := []

end Example

end SourceLedger.Configuration
