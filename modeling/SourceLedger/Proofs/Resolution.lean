import Mathlib.Data.List.Induction
import Mathlib.Data.List.Lex
import Mathlib.Data.Prod.Lex
import SourceLedger.Proofs.Results
import SourceLedger.Proofs.Workspace
import SourceLedger.Resolution.Basic

/-!
# The order of resolved paths

Each pattern is expanded on its own, so a path may be found by many of them, and by one of them
more than once. `standing` is what decides where the path goes: the first pattern that finds it,
and after that its code points. What patterns resolve to is the list of all paths that are found
with ever greater standing, and there is only one such list. When the expansions are finished
does not matter.
-/

namespace SourceLedger

theorem CodePoint.toNat_injective : Function.Injective CodePoint.toNat := by
  have apart : ∀ (c : Char) (i : Fin 2048), c.toNat ≠ 0xD800 + i.val := by
    intro c i same
    have valid : c.toNat < 0xD800 ∨ 0xDFFF < c.toNat ∧ c.toNat < 0x110000 := c.valid
    omega
  intro a b same
  cases a with
  | scalar c =>
      cases b with
      | scalar d => exact congrArg scalar (Char.toNat_inj.mp same)
      | surrogate i => exact absurd same (apart c i)
  | surrogate i =>
      cases b with
      | scalar d => exact absurd same.symm (apart d i)
      | surrogate j => exact congrArg surrogate (Fin.ext (Nat.add_left_cancel same))

namespace Text

/-- The numbers of the code points, by which texts are ordered. -/
def codes (t : Text) : List Nat := t.map CodePoint.toNat

theorem codes_injective : Function.Injective codes :=
  List.map_injective_iff.mpr CodePoint.toNat_injective

theorem le_iff {s t : Text} : le s t = true ↔ ¬codes t < codes s := by
  induction s generalizing t with
  | nil => cases t <;> simp [le, compare, codes]
  | cons a s ih =>
      cases t with
      | nil => simp [le, compare, codes]
      | cons b t =>
          have ih : le s t = true ↔ ¬codes t < codes s := ih
          simp only [le, codes] at ih
          simp only [le, codes, compare, List.map_cons, List.cons_lt_cons_iff]
          rcases Nat.lt_trichotomy a.toNat b.toNat with less | same | more
          · simp [Nat.compare_eq_lt.mpr less, Nat.lt_asymm less, Nat.ne_of_gt less]
          · simp [same, ih]
          · simp [Nat.compare_eq_gt.mpr more, more]

theorem pairwise_sort (ts : List Text) : (sort ts).Pairwise fun s t => ¬codes t < codes s := by
  refine (List.pairwise_mergeSort ?_ ?_ ts).imp le_iff.mp
  · intro s t u
    rw [le_iff, le_iff, le_iff, not_lt, not_lt, not_lt]
    exact le_trans
  · intro s t
    rw [Bool.or_eq_true, le_iff, le_iff, not_lt, not_lt]
    exact le_total _ _

@[simp] theorem mem_sort {t : Text} {ts : List Text} : t ∈ sort ts ↔ t ∈ ts := List.mem_mergeSort

end Text

namespace Resolution

section Dedupe

variable {items : List Text} {a : Text}

theorem dedupe_concat (items : List Text) (a : Text) :
    dedupe (· == ·) (items ++ [a]) =
      if a ∈ dedupe (· == ·) items then dedupe (· == ·) items
      else dedupe (· == ·) items ++ [a] := by
  rw [dedupe, List.foldl_append]
  simp [dedupe]

theorem mem_dedupe : a ∈ dedupe (· == ·) items ↔ a ∈ items := by
  induction items using List.reverseRecOn with
  | nil => rfl
  | append_singleton items b ih =>
      rw [dedupe_concat]
      split_ifs with old
      · rw [ih, List.mem_append, List.mem_singleton]
        constructor
        · exact Or.inl
        · rintro (mem | rfl)
          · exact mem
          · exact ih.mp old
      · rw [List.mem_append, List.mem_append, ih]

/-- The items that are kept are in an order in which each item comes behind all that are before it
where it occurs first. -/
theorem pairwise_dedupe {R : Text → Text → Prop}
    (h : ∀ before a after, items = before ++ a :: after → a ∉ before → ∀ b ∈ before, R b a) :
    (dedupe (· == ·) items).Pairwise R := by
  induction items using List.reverseRecOn with
  | nil => exact List.Pairwise.nil
  | append_singleton items a ih =>
      have kept := ih fun before b after split => h before b (after ++ [a]) (by simp [split])
      rw [dedupe_concat]
      split_ifs with old
      · exact kept
      · rw [List.pairwise_append]
        refine ⟨kept, List.pairwise_singleton R a, ?_⟩
        intro b mem c last
        obtain rfl := List.mem_singleton.mp last
        rw [mem_dedupe] at old mem
        exact h items c [] rfl old b mem

end Dedupe

section Standing

variable (fs : FileSystem) (root : Text)

/-- Whether a path is among the matches of a pattern. -/
def finds (path pattern : Text) : Bool :=
  match Glob.expand fs root pattern with
  | .ok found => found.contains path
  | .error _ => false

/-- The number of the first of some patterns that finds a path. -/
def rank (patterns : List Text) (path : Text) : Nat := patterns.findIdx (finds fs root path)

/-- What places a path among the others. -/
def standing (patterns : List Text) (path : Text) : Nat ×ₗ List Nat :=
  toLex (rank fs root patterns path, path.codes)

variable {fs root}

theorem finds_iff {path pattern : Text} : finds fs root path pattern = true ↔
    ∃ found, Glob.expand fs root pattern = .ok found ∧ path ∈ found := by
  unfold finds
  cases Glob.expand fs root pattern <;> simp

theorem finds_of_expand {pattern path : Text} {group : List Text}
    (h : expand fs root pattern = .ok group) :
    finds fs root path pattern = group.contains path := by
  unfold expand at h
  split_ifs at h
  cases found : Glob.expand fs root pattern with
  | error r =>
      rw [found] at h
      cases h
  | ok matched =>
      rw [found] at h
      cases h
      simp [finds, found]

theorem pairwise_of_expand {pattern : Text} {group : List Text}
    (h : expand fs root pattern = .ok group) : group.Pairwise fun p q => ¬q.codes < p.codes := by
  unfold expand at h
  split_ifs at h
  split at h
  · cases h
    exact Text.pairwise_sort _
  · cases h

variable {patterns : List Text} {groups : List (List Text)}

/-- A path is found by one of the patterns if it is in one of the groups. -/
theorem mem_flatten_iff (h : patterns.map (expand fs root) = groups.map .ok) {path : Text} :
    path ∈ groups.flatten ↔ ∃ pattern ∈ patterns, finds fs root path pattern = true := by
  rw [List.mem_flatten]
  constructor
  · rintro ⟨group, listed, mem⟩
    obtain ⟨pattern, given, ok⟩ := exists_of_mem_of_map_eq h listed
    exact ⟨pattern, given, by simpa [finds_of_expand ok] using mem⟩
  · rintro ⟨pattern, given, hit⟩
    obtain ⟨group, listed, ok⟩ := exists_of_map_eq h given
    exact ⟨group, listed, by simpa [finds_of_expand ok] using hit⟩

/-- Where a path comes for the first time, all that is before it has a lower standing. -/
theorem standing_lt (h : patterns.map (expand fs root) = groups.map .ok) {before after : List Text}
    {a b : Text} (split : groups.flatten = before ++ a :: after) (new : a ∉ before)
    (earlier : b ∈ before) : standing fs root patterns b < standing fs root patterns a := by
  simp only [standing, Prod.Lex.toLex_lt_toLex]
  induction patterns generalizing groups before with
  | nil =>
      obtain rfl := List.map_eq_nil_iff.mp h.symm
      cases before <;> cases split
  | cons pattern patterns ih =>
      cases groups with
      | nil => cases h
      | cons group groups =>
          obtain ⟨ok, h⟩ := List.cons.inj h
          have place : ∀ path, rank fs root (pattern :: patterns) path =
              if path ∈ group then 0 else rank fs root patterns path + 1 := by
            intro path
            simp [rank, List.findIdx_cons, finds_of_expand ok, Bool.cond_decide]
          simp only [place]
          rw [List.flatten_cons] at split
          -- The place is behind the first group, or no later than its end.
          obtain ⟨behind, rfl, tail⟩ | ⟨within, rfl, rest⟩ := List.append_eq_append_iff.mp split
          · rw [List.mem_append, not_or] at new
            rw [if_neg new.1]
            by_cases both : b ∈ group
            · rw [if_pos both]
              exact Or.inl (Nat.succ_pos _)
            · rw [if_neg both]
              have later := (List.mem_append.mp earlier).resolve_left both
              have less := ih h tail new.2 later
              rwa [Nat.succ_lt_succ_iff, Nat.succ_inj]
          · rw [if_pos (List.mem_append_left within earlier)]
            by_cases here : a ∈ within
            · rw [if_pos (List.mem_append_right before here)]
              refine Or.inr ⟨rfl, ?_⟩
              have order := (List.pairwise_append.mp (pairwise_of_expand ok)).2.2 b earlier a here
              have ne : b.codes ≠ a.codes := by
                intro same
                exact new (Text.codes_injective same ▸ earlier)
              exact lt_of_le_of_ne (not_lt.mp order) ne
            · rw [if_neg (List.not_mem_append new here)]
              exact Or.inl (Nat.succ_pos _)

end Standing

section Resolve

variable {root : Text} {patterns : List Text} {w : Workspace}

/-- Whatever keeps a pattern from being expanded is reported in the same manner. -/
theorem expand_eq_error {fs : FileSystem} {pattern : Text} {failure : Failure}
    (h : expand fs root pattern = .error failure) :
    ∃ message, failure = .reported .patternResolution message := by
  unfold expand at h
  split_ifs at h
  · cases h
    exact ⟨_, rfl⟩
  · split at h
    · cases h
    · cases h
      exact ⟨_, rfl⟩

/-- A pattern that is empty, or that the files refuse to expand, has no matches. -/
theorem expand_fails_iff {fs : FileSystem} {pattern : Text} :
    (∃ failure, expand fs root pattern = .error failure) ↔
      pattern = [] ∨ ∃ r, Glob.expand fs root pattern = .error r := by
  unfold expand
  cases pattern with
  | nil => simp
  | cons c pattern => cases Glob.expand fs root (c :: pattern) <;> simp

theorem speaks_warnings (patterns : List Text) (groups : List (List Text)) :
    Job.Speaks ((patterns.zip groups).forM fun (pattern, found) =>
      if found.isEmpty then Job.say .warning ("no matches for " ++ pattern) else pure ()) := by
  refine Job.speaks_forM ?_ _
  rintro ⟨pattern, found⟩
  simp only
  split_ifs
  · exact Job.speaks_say _ _
  · exact Job.speaks_pure

/-- Where all patterns were expanded, the groups are put together. -/
theorem resolve_of_gather {groups : List (List Text)}
    (gathered : Job.gather (patterns.map (expand w.files root)) w = (.ok groups, w)) :
    ∃ log, resolve root patterns w = (.ok (dedupe (· == ·) groups.flatten), { w with log }) := by
  obtain ⟨log, spoken⟩ := speaks_warnings patterns groups w
  exact ⟨log, (Job.get_bind _ w).trans ((Job.bind_of_ok gathered).trans (Job.bind_of_ok spoken))⟩

/-- Whatever was resolved is a match of one of the patterns. -/
theorem exists_pattern_of_resolve {paths : List Text} {w' : Workspace} {path : Text}
    (resolved : resolve root patterns w = (.ok paths, w')) (mem : path ∈ paths) :
    ∃ pattern ∈ patterns, ∃ found,
      Glob.expand w.files root pattern = .ok found ∧ path ∈ found := by
  rcases Job.gather_cases (patterns.map (expand w.files root)) w with
    ⟨failure, ended⟩ | ⟨groups, gathered, all⟩
  · cases ((Job.get_bind _ w).trans (Job.bind_of_error ended)).symm.trans resolved
  · obtain ⟨log, whole⟩ := resolve_of_gather gathered
    cases whole.symm.trans resolved
    obtain ⟨pattern, given, hit⟩ := (mem_flatten_iff all).mp (mem_dedupe.mp mem)
    exact ⟨pattern, given, finds_iff.mp hit⟩

/-- Where one of the patterns cannot be expanded, that is all there is to report. -/
theorem resolve_fails {pattern : Text} (given : pattern ∈ patterns)
    (bad : pattern = [] ∨ ∃ r, Glob.expand w.files root pattern = .error r) :
    ∃ message, resolve root patterns w =
      (.error (.reported .patternResolution message), w) := by
  obtain ⟨failure, failed⟩ := expand_fails_iff.mpr bad
  rcases Job.gather_cases (patterns.map (expand w.files root)) w with
    ⟨first, ended⟩ | ⟨groups, _, all⟩
  · obtain ⟨culprit, _, wrong⟩ := List.mem_map.mp (Job.mem_of_gather ended)
    obtain ⟨message, rfl⟩ := expand_eq_error wrong
    exact ⟨message, (Job.get_bind _ w).trans (Job.bind_of_error ended)⟩
  · obtain ⟨group, _, ok⟩ := exists_of_map_eq all given
    cases failed.symm.trans ok

/-- Where every pattern can be expanded, each has its group of matches. -/
theorem exists_groups (good : ∀ pattern ∈ patterns,
      pattern ≠ [] ∧ ∃ found, Glob.expand w.files root pattern = .ok found) :
    ∃ groups : List (List Text), patterns.map (expand w.files root) = groups.map .ok := by
  rcases Job.gather_cases (patterns.map (expand w.files root)) w with
    ⟨failure, failed⟩ | ⟨groups, _, all⟩
  · obtain ⟨pattern, given, wrong⟩ := List.mem_map.mp (Job.mem_of_gather failed)
    obtain ⟨solid, found, ok⟩ := good pattern given
    rcases expand_fails_iff.mp ⟨failure, wrong⟩ with empty | ⟨r, refused⟩
    · exact absurd empty solid
    · cases ok.symm.trans refused
  · exact ⟨groups, all⟩

/-- In an ascending list the order of the places is the order of what stands there. -/
theorem lt_iff_of_pairwise {α : Type} [LinearOrder α] {f : Text → α} {paths : List Text}
    (ascending : paths.Pairwise fun p q => f p < f q) (i j : Nat) (hi : i < paths.length)
    (hj : j < paths.length) : i < j ↔ f paths[i] < f paths[j] := by
  constructor
  · exact List.pairwise_iff_getElem.mp ascending i j hi hj
  · intro less
    by_contra late
    rcases Nat.lt_or_eq_of_le (not_lt.mp late) with after | rfl
    · exact lt_asymm less (List.pairwise_iff_getElem.mp ascending j i hj hi after)
    · exact lt_irrefl _ less

/-- Resolving patterns fails if one of them has no matches to give, wherever it stands. Otherwise
it gives every path that is found, once, and one path before another exactly if it has the lower
standing. That is so whenever the expansions are finished. -/
theorem resolve_by_standing (root : Text) (patterns : List Text) (w : Workspace) :
    ((∃ pattern ∈ patterns, pattern = [] ∨ ∃ r, Glob.expand w.files root pattern = .error r) →
      ∃ message, resolve root patterns w = (.error (.reported .patternResolution message), w)) ∧
    ((∀ pattern ∈ patterns, pattern ≠ [] ∧ ∃ found, Glob.expand w.files root pattern = .ok found) →
      ∃ paths : List Text,
        (∀ schedule, ∃ log, resolve root patterns { w with schedule } =
          (.ok paths, { w with schedule, log })) ∧
        (∀ path, path ∈ paths ↔ ∃ pattern ∈ patterns, ∃ found,
          Glob.expand w.files root pattern = .ok found ∧ path ∈ found) ∧
        paths.Nodup ∧
        ∀ (i j : Nat) (hi : i < paths.length) (hj : j < paths.length),
          i < j ↔
            standing w.files root patterns paths[i] < standing w.files root patterns paths[j]) := by
  constructor
  · rintro ⟨pattern, given, bad⟩
    exact resolve_fails given bad
  · intro good
    obtain ⟨groups, all⟩ := exists_groups good
    have ascending : (dedupe (· == ·) groups.flatten).Pairwise fun p q =>
        standing w.files root patterns p < standing w.files root patterns q :=
      pairwise_dedupe fun before a after split new b earlier => standing_lt all split new earlier
    refine ⟨dedupe (· == ·) groups.flatten, ?_, ?_, ?_, lt_iff_of_pairwise ascending⟩
    · intro schedule
      exact resolve_of_gather (w := { w with schedule }) (Job.gather_of_ok all _)
    · intro path
      rw [mem_dedupe, mem_flatten_iff all]
      simp only [finds_iff]
    · apply ascending.imp
      rintro p q less rfl
      exact lt_irrefl _ less

section Example

/-- A directory with two files in it. -/
def twoFiles : Workspace where
  files := ⟨[(["w"], .directory), (["w", "b.py"], .file []), (["w", "a.py"], .file [])], []⟩
  faults := []
  schedule := id
  store := Store.new (Path.ofText "/w/db.json")
  ids := ⟨0⟩
  log := []

theorem resolve_by_standing_overlap :
    let patterns : List Text := ["b.py", "*.py", "b.py"]
    let spoilt : List Text := ["b.py", "", "*.py"]
    ((∃ pattern ∈ spoilt, pattern = [] ∨
        ∃ r, Glob.expand twoFiles.files "/w" pattern = .error r) ∧
      ∃ message, resolve "/w" spoilt twoFiles =
        (.error (.reported .patternResolution message), twoFiles)) ∧
    (∀ pattern ∈ patterns,
      pattern ≠ [] ∧ ∃ found, Glob.expand twoFiles.files "/w" pattern = .ok found) ∧
    ∃ paths log, resolve "/w" patterns twoFiles = (.ok paths, { twoFiles with log }) ∧
      ("b.py" : Text) ∈ paths ∧ ("a.py" : Text) ∈ paths ∧ paths.Nodup := by
  intro patterns spoilt
  have bad : ∃ pattern ∈ spoilt, pattern = [] ∨
      ∃ r, Glob.expand twoFiles.files "/w" pattern = .error r :=
    ⟨[], by decide, Or.inl rfl⟩
  have one : Glob.expand twoFiles.files "/w" "b.py" = .ok ["b.py"] := by decide +kernel
  have all : Glob.expand twoFiles.files "/w" "*.py" = .ok ["b.py", "a.py"] := by
    decide +kernel
  have good : ∀ pattern ∈ patterns,
      pattern ≠ [] ∧ ∃ found, Glob.expand twoFiles.files "/w" pattern = .ok found := by
    simp only [patterns, List.forall_mem_cons]
    exact ⟨⟨by decide, _, one⟩, ⟨by decide, _, all⟩, ⟨by decide, _, one⟩, List.forall_mem_nil _⟩
  refine ⟨⟨bad, (resolve_by_standing "/w" spoilt twoFiles).1 bad⟩, good, ?_⟩
  obtain ⟨paths, resolved, found, once, _⟩ := (resolve_by_standing "/w" patterns twoFiles).2 good
  obtain ⟨log, resolved⟩ := resolved id
  refine ⟨paths, log, resolved, ?_, ?_, once⟩
  · exact (found "b.py").mpr ⟨_, by decide, _, one, by decide⟩
  · exact (found "a.py").mpr ⟨"*.py", by decide, _, all, by decide⟩

end Example

end Resolve

end Resolution

end SourceLedger
