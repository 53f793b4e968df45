import SourceLedger.Proofs.FileSystem.Collapse
import SourceLedger.Proofs.Glob.Matches

/-!
# Normal forms of paths

From an absolute directory every path is resolved to a normal form: a root, and behind it names
with a slash between them, without any step up. A normal form is resolved to itself from everywhere,
a step up takes its last name away, and a path that is joined to another can be resolved from where
the other one is resolved to.
-/

namespace SourceLedger

namespace Text

theorem head?_join (separator : Text) {pieces : List Text} (hne : ∀ piece ∈ pieces, piece ≠ []) :
    (join separator pieces).head? = pieces.head?.bind List.head? := by
  cases pieces with
  | nil => rfl
  | cons piece later =>
      have head := List.head?_eq_some_head (hne piece List.mem_cons_self)
      cases later with
      | nil => rw [join_singleton, List.head?_cons, Option.bind_some]
      | cons next later =>
          rw [join_cons_cons, List.append_assoc, List.head?_append, head, List.head?_cons,
            Option.bind_some, head, Option.some_or]

theorem splitOn_join {separator : CodePoint} {pieces : List Text} (hne : pieces ≠ [])
    (free : ∀ piece ∈ pieces, separator ∉ piece) :
    splitOn separator (join [separator] pieces) = pieces := by
  induction pieces with
  | nil => exact absurd rfl hne
  | cons piece later ih =>
      rw [List.forall_mem_cons] at free
      cases later with
      | nil => rw [join_singleton, splitOn_of_notMem free.1]
      | cons next later =>
          rw [join_cons_cons, List.append_assoc, List.singleton_append, splitOn_append_cons,
            splitOn_of_notMem free.1, ih (List.cons_ne_nil _ _) free.2, List.singleton_append]

end Text

namespace Path

variable {p q : Path} {root : Root} {front back : List Text}

/-- One slash or two, and behind them nothing, or segments of which none is empty, a dot or a step
up. -/
def IsNormalForm (t : Text) : Prop :=
  ∃ slashes rest : Text, t = slashes ++ rest ∧ (slashes = [slash] ∨ slashes = [slash, slash]) ∧
    (rest = [] ∨ ∀ s ∈ Text.splitOn slash rest, s ≠ [] ∧ s ≠ dot ∧ s ≠ dotDot)

theorem Normal.toText_eq (normal : p.Normal) :
    p.toText = rootText p.root ++ Text.join [slash] p.segments := by
  obtain ⟨root, segments⟩ := p
  cases root with
  | relative => cases normal.isAbsolute
  | single | double => rfl

/-- The text of a normal path denotes that path. -/
theorem Normal.ofText_toText (normal : p.Normal) : ofText p.toText = p := by
  have segments : (ofText p.toText).segments = p.segments := by
    rw [FileSystem.segments_ofText, FileSystem.namesOf_toText normal]
    exact List.filter_eq_self.mpr fun s mem => bne_iff_ne.mpr (normal.proper s mem).2
  have head : (Text.join [slash] p.segments).head? ≠ some slash := by
    rw [Text.head?_join _ fun s mem => (normal.proper s mem).1.ne_nil]
    intro head
    obtain ⟨first, isFirst, starts⟩ := Option.bind_eq_some_iff.mp head
    exact (normal.proper first (List.mem_of_mem_head? isFirst)).1.slash
      (List.mem_of_mem_head? starts)
  have root : rootOf p.toText = p.root := by
    rw [normal.toText_eq]
    cases hr : p.root with
    | relative => exact absurd hr (bne_iff_ne.mp normal.isAbsolute)
    | single => exact Glob.rootOf_single head
    | double => exact Glob.rootOf_double head
  exact congrArg₂ Path.mk root segments

theorem isNormalForm_iff {t : Text} : IsNormalForm t ↔ ∃ p : Path, p.Normal ∧ p.toText = t := by
  constructor
  · rintro ⟨slashes, rest, rfl, root, pieces⟩
    have exists_segments : ∃ segments, Text.join [slash] segments = rest ∧
        ∀ s ∈ segments, slash ∉ s ∧ s ≠ [] ∧ s ≠ dot ∧ s ≠ dotDot := by
      rcases pieces with rfl | names
      · exact ⟨[], rfl, nofun⟩
      · exact ⟨_, Text.join_splitOn slash rest,
          fun s mem => ⟨Text.notMem_of_mem_splitOn mem, names s mem⟩⟩
    obtain ⟨segments, rfl, names⟩ := exists_segments
    have normal (root : Root) (rooted : root ≠ .relative) : (⟨root, segments⟩ : Path).Normal :=
      ⟨bne_iff_ne.mpr rooted,
        fun s mem => ⟨⟨(names s mem).2.1, (names s mem).1⟩, (names s mem).2.2.1⟩,
        fun mem => (names _ mem).2.2.2 rfl⟩
    rcases root with rfl | rfl
    · exact ⟨_, normal .single nofun, (normal .single nofun).toText_eq⟩
    · exact ⟨_, normal .double nofun, (normal .double nofun).toText_eq⟩
  · rintro ⟨p, normal, rfl⟩
    refine ⟨_, _, normal.toText_eq, ?_, ?_⟩
    · cases hr : p.root with
      | relative => exact absurd hr (bne_iff_ne.mp normal.isAbsolute)
      | single => exact .inl rfl
      | double => exact .inr rfl
    · by_cases nil : p.segments = []
      · exact .inl (by rw [nil]; rfl)
      · refine .inr fun s mem => ?_
        rw [Text.splitOn_join nil fun s mem => (normal.proper s mem).1.slash] at mem
        obtain ⟨isName, ne_dot⟩ := normal.proper s mem
        exact ⟨isName.ne_nil, ne_dot, fun up => normal.noStepUp (up ▸ mem)⟩

/-- Without a step up there is nothing to take away. -/
theorem collapse_of_notMem {segments : List Text} (noStepUp : dotDot ∉ segments) :
    collapse ⟨root, segments⟩ = ⟨root, segments⟩ := by
  refine congrArg (Path.mk root) (?_ : (collapse ⟨root, segments⟩).segments = segments)
  induction segments using List.reverseRecOn with
  | nil => rfl
  | append_singleton front name ih =>
      rw [List.mem_append, List.mem_singleton, not_or] at noStepUp
      rw [collapse_down (Ne.symm noStepUp.2), ih noStepUp.1]

/-- The front of a path can be collapsed before the whole is. -/
theorem collapse_append (rooted : root ≠ .relative) (proper : (⟨root, front⟩ : Path).Proper)
    (back : List Text) :
    collapse ⟨root, (collapse ⟨root, front⟩).segments ++ back⟩ =
      collapse ⟨root, front ++ back⟩ := by
  have normal := normal_collapse (bne_iff_ne.mpr rooted) proper
  induction back using List.reverseRecOn with
  | nil =>
      rw [List.append_nil, List.append_nil]
      exact collapse_of_notMem normal.noStepUp
  | append_singleton back name ih =>
      refine congrArg (Path.mk root) ?_
      rw [← List.append_assoc, ← List.append_assoc]
      exact (collapse_concat root _ name).trans (ih ▸ (collapse_concat root _ name).symm)

theorem join_absolute (absolute : q.isAbsolute = true) (p : Path) : p.join q = q :=
  if_pos absolute

section Join

variable (relative : q.isAbsolute = false)
include relative

theorem join_relative (p : Path) : p.join q = ⟨p.root, p.segments ++ q.segments⟩ := by
  rw [join, if_neg (Bool.eq_false_iff.mp relative)]

theorem join_assoc (p r : Path) : p.join (r.join q) = (p.join r).join q := by
  rw [join_relative relative r, join_relative relative]
  cases absolute : r.isAbsolute with
  | true =>
      rw [join_absolute absolute]
      exact join_absolute (q := ⟨r.root, r.segments ++ q.segments⟩) absolute p
  | false =>
      have outer := join_relative (q := ⟨r.root, r.segments ++ q.segments⟩) absolute p
      rw [join_relative absolute, outer, List.append_assoc]

/-- What is joined to a path is resolved from where that path is resolved to. -/
theorem collapse_join (absolute : p.isAbsolute = true) (proper : p.Proper) :
    (p.collapse.join q).collapse = (p.join q).collapse := by
  rw [join_relative relative, join_relative relative]
  exact collapse_append (bne_iff_ne.mp absolute) proper _

end Join

theorem ofText_nil_join (p : Path) : (ofText []).join p = p := by
  obtain ⟨root, segments⟩ := p
  cases root <;> rfl

theorem ofText_joinPaths (t rest : Text) :
    ofText (Glob.joinPaths t rest) = (ofText t).join (ofText rest) := by
  by_cases nil : t = []
  · rw [nil, ofText_nil_join, Glob.joinPaths_eq_gap]
    split_ifs <;> rfl
  · exact Glob.ofText_joinPaths nil rest

/-- A normal path is resolved to itself from everywhere. -/
theorem Normal.resolve_toText (normal : p.Normal) (directory : Text) :
    resolve directory p.toText = p.toText := by
  rw [resolve, normal.ofText_toText, join_absolute normal.isAbsolute]
  exact congrArg toText (collapse_of_notMem normal.noStepUp)

/-- A step up leads to the path above, and a root has none but itself. -/
theorem Normal.resolve_dotDot (normal : p.Normal) :
    resolve p.toText dotDot = p.parent.toText := by
  have up : ofText dotDot = ⟨.relative, [dotDot]⟩ := rfl
  rw [resolve, normal.ofText_toText, up, join_relative rfl]
  refine congrArg toText (congrArg (Path.mk p.root) ?_)
  have same : (collapse ⟨p.root, p.segments⟩).segments = p.segments :=
    congrArg segments (collapse_of_notMem normal.noStepUp)
  exact (collapse_up (bne_iff_ne.mp normal.isAbsolute) normal.proper).trans
    (congrArg List.dropLast same)

/-- Paths are resolved to normal forms, and normal forms to themselves. An absolute path is resolved
to the same from everywhere, a step up from a normal form takes its last name away, and a path is
resolved piece by piece. -/
theorem resolve_normalizes {directory : Text} (absolute : (ofText directory).isAbsolute = true)
    (path : Text) :
    IsNormalForm (resolve directory path) ∧
      ((ofText path).isAbsolute = true → ∀ other, resolve other path = resolve directory path) ∧
      (∀ other, resolve other (resolve directory path) = resolve directory path) ∧
      (∀ t, IsNormalForm t → ∀ other, resolve other t = t) ∧
      (∀ p : Path, p.Normal → resolve p.toText dotDot = p.parent.toText) ∧
      ∀ rest, (ofText rest).isAbsolute = false →
        resolve directory (Glob.joinPaths path rest) = resolve (resolve directory path) rest := by
  have fixed (t : Text) (normalForm : IsNormalForm t) (other : Text) : resolve other t = t := by
    obtain ⟨p, normal, rfl⟩ := isNormalForm_iff.mp normalForm
    exact normal.resolve_toText other
  have joined := isAbsolute_join absolute (ofText path)
  have proper := (ofText_proper directory).join (ofText_proper path)
  have normal := normal_collapse joined proper
  have normalForm := isNormalForm_iff.mpr ⟨_, normal, rfl⟩
  refine ⟨normalForm, ?_, fixed _ normalForm, fixed, fun p => Normal.resolve_dotDot, ?_⟩
  · intro absolute other
    rw [resolve, resolve, join_absolute absolute, join_absolute absolute]
  · intro rest relative
    calc resolve directory (Glob.joinPaths path rest)
        = (((ofText directory).join (ofText path)).join (ofText rest)).collapse.toText := by
          rw [resolve, ofText_joinPaths, join_assoc relative]
      _ = (((ofText directory).join (ofText path)).collapse.join
            (ofText rest)).collapse.toText := by
          rw [collapse_join relative joined proper]
      _ = resolve (resolve directory path) rest := by
          rw [resolve, resolve, normal.ofText_toText]

/-- Empty segments, dots and steps up, also above the root, from a directory with two slashes. -/
theorem resolve_normalizes_dots :
    let directory : Text := "//w/./x"
    let path : Text := "../a//.././b/"
    let rest : Text := "../../../c"
    ((ofText directory).isAbsolute = true ∧ (ofText rest).isAbsolute = false) ∧
      resolve directory path = ("//w/b" : Text) ∧ IsNormalForm (resolve directory path) ∧
      (∀ other, resolve other (resolve directory path) = resolve directory path) ∧
      resolve directory (Glob.joinPaths path rest) = resolve (resolve directory path) rest ∧
      resolve directory (Glob.joinPaths path rest) = ("//c" : Text) ∧
      ∀ other, resolve other directory = resolve directory directory := by
  intro directory path rest
  have absolute : (ofText directory).isAbsolute = true := by decide
  have relative : (ofText rest).isAbsolute = false := by decide
  obtain ⟨normalForm, _, fixed, _, _, joined⟩ := resolve_normalizes absolute path
  obtain ⟨_, same, _⟩ := resolve_normalizes absolute directory
  exact ⟨⟨absolute, relative⟩, by decide +kernel, normalForm, fixed, joined rest relative,
    by decide +kernel, same absolute⟩

end Path

end SourceLedger
