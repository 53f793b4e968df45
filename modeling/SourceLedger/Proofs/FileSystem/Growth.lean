import Mathlib.Tactic.ByContra
import SourceLedger.Proofs.FileSystem.NewFile
import SourceLedger.Proofs.Path

/-!
# Growing file systems

A directory is made where the way of a path breaks off, and it is empty. So there is nothing at
any path that goes on from there, before and after. Only a `..` that stands behind the new
directory could lead back out of it.
-/

namespace SourceLedger

open Path

variable {fs fs' fs'' : FileSystem} {path : Path} {before rest : List Text} {name : Text}

namespace FileSystem

/-- A file system with more directories. -/
structure Grown (fs fs' : FileSystem) : Prop where
  keeps : Keeps fs fs'
  onlyDirectories : ∀ place node, fs'.node? place = some node →
    fs.node? place = some node ∨ node = .directory

theorem Grown.refl (fs : FileSystem) : Grown fs fs := ⟨.refl fs, fun _ _ h => Or.inl h⟩

theorem Grown.trans (h : Grown fs fs') (h' : Grown fs' fs'') : Grown fs fs'' where
  keeps := h.keeps.trans h'.keeps
  onlyDirectories place node hn := by
    rcases h'.onlyDirectories place node hn with hn | rfl
    · exact h.onlyDirectories place node hn
    · exact Or.inr rfl

theorem grown_put {place : Location} (h : fs.node? place = none) :
    Grown fs (fs.put place .directory) := by
  refine ⟨keeps_put h _, fun other node hn => ?_⟩
  have hne : place ≠ [] := by
    rintro rfl
    cases h
  rw [node?_put fs other _ hne] at hn
  split_ifs at hn
  · exact Or.inr (Option.some.inj hn).symm
  · exact Or.inl hn

/-- There is nothing at a path, not even a link that leads nowhere. -/
def Vacant (fs : FileSystem) (path : Path) : Prop :=
  ∀ node, fs.find false path.toText ≠ .ok node

theorem Vacant.find (vacant : Vacant fs path) (followLast : Bool) (node : Node) :
    fs.find followLast path.toText ≠ .ok node := by
  cases followLast with
  | false => exact vacant node
  | true =>
      intro h
      obtain ⟨node', h'⟩ := find_false_of_find_true h
      exact vacant node' h'

/-- A path leads to nothing, though there may be a link at it. -/
def Missing (fs : FileSystem) (path : Path) : Prop :=
  ∀ node, fs.find true path.toText ≠ .ok node

theorem Vacant.missing (vacant : Vacant fs path) : Missing fs path := vacant.find true

theorem Missing.of_keeps (h : Keeps fs fs') (missing : Missing fs' path) : Missing fs path :=
  fun node hf => missing node (h.find hf)

theorem Vacant.of_keeps (h : Keeps fs fs') (vacant : Vacant fs' path) : Vacant fs path :=
  fun node hf => vacant node (h.find hf)

/-- The first names of a path lead into a directory. -/
def LeadsInto (fs : FileSystem) (path : Path) (before : List Text) (there : Location) : Prop :=
  ∃ left, Passes fs maxLinks (fs.startOfPath path) before left there

theorem LeadsInto.keeps {there : Location} (h : LeadsInto fs path before there)
    (hk : Keeps fs fs') : LeadsInto fs' path before there := by
  obtain ⟨left, passes⟩ := h
  refine ⟨left, ?_⟩
  rw [startOfPath, hk.current]
  exact passes.keeps hk

/-- A way breaks off: the names before lead into a directory that does not have the next one. -/
def BreaksOff (fs : FileSystem) (path : Path) (before : List Text) (name : Text) : Prop :=
  name ≠ dotDot ∧ ∃ there, LeadsInto fs path before there ∧ fs.node? (there ++ [name]) = none

/-- Behind a name where the way breaks off it leads nowhere. -/
theorem BreaksOff.not_leadsInto (h : BreaksOff fs path before name) (ne_dot : name ≠ dot)
    {there : Location} : ¬LeadsInto fs path (before ++ name :: rest) there := by
  rintro ⟨left, passes'⟩
  obtain ⟨ne_dotDot, there, ⟨_, passes⟩, missing⟩ := h
  obtain ⟨_, between, first, second⟩ := passes'.split
  obtain rfl := passes.unique (fun _ _ hn => Or.inl hn) first
  cases second with
  | dot => exact ne_dot rfl
  | up => exact ne_dotDot rfl
  | down _ found | link _ found => simp [missing] at found

theorem BreaksOff.vacant (h : BreaksOff fs path before name) (proper : path.Proper)
    (segments : path.segments = before ++ name :: rest) : Vacant fs path := by
  intro node hf
  obtain ⟨ne_dotDot, there, ⟨_, passes⟩, missing⟩ := h
  obtain ⟨place, hw, hn⟩ := find_eq_ok_iff.mp hf
  obtain ⟨_, _, leads⟩ := walk_toText proper hw
  rw [segments] at leads
  obtain ⟨_, there', passes', last⟩ := leads.split (List.cons_ne_nil name rest)
  obtain rfl := passes.unique (fun _ _ hn => Or.inl hn) passes'
  cases last with
  | dot => exact absurd rfl (proper dot (by simp [segments])).2
  | up => exact absurd rfl ne_dotDot
  | fresh => simp [missing] at hn
  | down _ found | file _ found | stop _ _ found | link _ found => simp [missing] at found

/-- No name of a path is too long. -/
def Nameable (path : Path) : Prop :=
  ∀ name ∈ path.segments, FileName.byteLength name ≤ FileName.maxLength

/-- A path leads to nothing, for a reason that means no more than that. -/
def Absent (fs : FileSystem) (path : Path) : Prop :=
  ∃ r, fs.find true path.toText = .error r ∧ meansAbsent r = true

theorem absent_of_walk {r : Refusal} (h : fs.walk true path.toText = .error r)
    (means : meansAbsent r = true) : Absent fs path :=
  ⟨r, by rw [FileSystem.find, h]; rfl, means⟩

theorem absent_of_walk_none {place : Location} (h : fs.walk true path.toText = .ok place)
    (missing : fs.node? place = none) : Absent fs path := by
  refine ⟨.system .notFound, ?_, rfl⟩
  rw [FileSystem.find, h]
  simp only [bind, Except.bind, missing]
  rfl

/-- Where the way breaks off, only a name that is too long keeps a path from being absent. What is
wrong with the path itself is wrong in every file system. -/
theorem BreaksOff.absent (h : BreaksOff fs' path before name) (proper : path.Proper)
    (nameable : Nameable path) (segments : path.segments = before ++ name :: rest)
    (absent : Absent fs path) : Absent fs' path := by
  obtain ⟨ne_dotDot, there, ⟨_, passes⟩, missing⟩ := h
  have member : name ∈ path.segments := by simp [segments]
  have step : IsStep name := ⟨(proper name member).2, ne_dotDot, nameable name member⟩
  cases check : Route.check path.toText with
  | error r =>
      obtain ⟨r', hf, means⟩ := absent
      rw [FileSystem.find, walk_of_unchecked true check] at hf
      cases hf
      exact absent_of_walk (walk_of_unchecked true check) means
  | ok route =>
      by_cases start : fs'.node? (fs'.startFor route) = some .directory
      · have walk := walk_of_check true check start
        have names : route.names = before ++ name :: rest := by
          rw [ofText_of_check check, Route.names_toText proper (by simp [segments]), segments]
        rw [ofText_of_check check, startFor_toText proper, ← ofText_of_check check, names] at walk
        rcases passes.walkFrom_append true route.endsInSlash (List.cons_ne_nil name rest)
          maxLinks with many | ⟨left, heq⟩
        · rw [many] at walk
          exact absent_of_walk walk rfl
        · rw [heq, walkFrom_none step missing] at walk
          split_ifs at walk
          · exact absent_of_walk_none walk missing
          · exact absent_of_walk walk rfl
      · exact absent_of_walk (walk_of_lost true check start) rfl

/-- Every `..` of a path stands behind names that lead into a directory. -/
def Settled (fs : FileSystem) (path : Path) : Prop :=
  ∀ before rest, path.segments = before ++ dotDot :: rest → ∃ there, LeadsInto fs path before there

theorem settled_of_notMem (h : dotDot ∉ path.segments) : Settled fs path :=
  fun before rest segments => absurd (by simp [segments]) h

theorem Settled.keeps (settled : Settled fs path) (h : Keeps fs fs') : Settled fs' path := by
  intro before rest segments
  obtain ⟨there, into⟩ := settled before rest segments
  exact ⟨there, into.keeps h⟩

/-- A path that leads to something is settled. -/
theorem settled_of_find {followLast : Bool} {node : Node} (proper : path.Proper)
    (h : fs.find followLast path.toText = .ok node) : Settled fs path := by
  intro before rest segments
  obtain ⟨place, hw, _⟩ := find_eq_ok_iff.mp h
  obtain ⟨_, _, leads⟩ := walk_toText proper hw
  rw [segments] at leads
  obtain ⟨left, there, passes, _⟩ := leads.split (List.cons_ne_nil dotDot rest)
  exact ⟨there, left, passes⟩

theorem isDirectory_iff {t : Text} :
    fs.isDirectory t = true ↔ fs.find true t = .ok .directory := by
  unfold isDirectory
  split
  · next h => simp [h]
  · next h =>
    simp only [Bool.false_eq_true, false_iff]
    exact h

/-- A directory is made where a way breaks off. -/
theorem makeDirectory_breaksOff (tree : fs.IsTree) (proper : path.Proper)
    (h : fs.makeDirectory path.toText = .ok fs') :
    Grown fs fs' ∧
      (∃ before name, path.segments = before ++ [name] ∧ BreaksOff fs path before name) ∧
      ∃ there, LeadsInto fs' path path.segments there ∧
        ∀ name, fs'.node? (there ++ [name]) = none := by
  obtain ⟨place, hw, missing, rfl⟩ := makeDirectory_eq_ok_iff.mp h
  have step : ∃ before name, path.segments = before ++ [name] ∧ name ≠ dotDot := by
    by_contra hno
    have directory := walk_toText_directory tree proper hw fun before name hs =>
      by_contra fun hne => hno ⟨before, name, hs, hne⟩
    simp [directory] at missing
  obtain ⟨before, name, segments, ne_dotDot⟩ := step
  have ends := endsIn_toText proper segments ne_dotDot
  obtain ⟨isStep, there, ⟨route, left, check, start, passes⟩, rfl⟩ := ends.walk_iff.mp hw
  obtain rfl := ofText_of_check check
  rw [startFor_toText proper] at start passes
  have grown := grown_put missing
  have hne : there ++ [name] ≠ [] := by simp
  refine ⟨grown, ⟨before, name, segments, ne_dotDot, there, ⟨left, passes⟩, missing⟩,
    there ++ [name], ⟨left, ?_⟩, fun below => ?_⟩
  · rw [segments]
    refine (passes.keeps grown.keeps).append (.down isStep ?_ .here)
    rw [node?_put fs _ _ hne, if_pos rfl]
  · rw [node?_put fs _ _ hne, if_neg (by simp)]
    exact tree.node?_below (by simp [missing])

end FileSystem

end SourceLedger
