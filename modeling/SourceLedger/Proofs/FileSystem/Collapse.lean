import Mathlib.Data.List.Induction
import SourceLedger.Proofs.FileSystem.Admission

/-!
# Steps up taken back by text

A step up can be taken back by text, with the name before it, where that name is one of a
directory and not of a link. If this is so for every step up on a path, the path leads where the
path without steps up leads, but for what its end asks for: a slash or a dot at the end asks for
a directory, and taking them away takes that away too.
-/

namespace SourceLedger

namespace Path

variable {root : Root} {front : List Text} {name : Text}

theorem collapse_concat (root : Root) (front : List Text) (name : Text) :
    (collapse ⟨root, front ++ [name]⟩).segments =
      (pushSegment root (collapse ⟨root, front⟩).segments.reverse name).reverse := by
  simp only [collapse, List.foldl_append, List.foldl_cons, List.foldl_nil, List.reverse_reverse]

theorem collapse_down (ne_dotDot : name ≠ dotDot) :
    (collapse ⟨root, front ++ [name]⟩).segments = (collapse ⟨root, front⟩).segments ++ [name] := by
  rw [collapse_concat, pushSegment.eq_def, if_neg ne_dotDot, List.reverse_cons,
    List.reverse_reverse]

/-- A step up takes the last of the names back that are left. -/
theorem collapse_up (rooted : root ≠ .relative) (proper : (⟨root, front⟩ : Path).Proper) :
    (collapse ⟨root, front ++ [dotDot]⟩).segments =
      (collapse ⟨root, front⟩).segments.dropLast := by
  have normal := normal_collapse (bne_iff_ne.mpr rooted) proper
  rw [collapse_concat, pushSegment.eq_def, if_pos rfl]
  rcases (collapse ⟨root, front⟩).segments.eq_nil_or_concat with nil | ⟨before, last, concat⟩
  · rw [nil]
    simp only [List.reverse_nil, if_neg rooted, List.dropLast_nil]
  · have ne_dotDot : last ≠ dotDot := by
      rintro rfl
      exact normal.noStepUp (by simp [concat])
    rw [concat]
    simp only [List.concat_eq_append, List.reverse_append, List.reverse_cons, List.reverse_nil,
      List.nil_append, List.singleton_append, if_neg ne_dotDot, List.reverse_reverse,
      List.dropLast_concat]

theorem Proper.of_concat (proper : (⟨root, front ++ [name]⟩ : Path).Proper) :
    (⟨root, front⟩ : Path).Proper :=
  fun s mem => proper s (List.mem_append_left _ mem)

/-- Nothing is added in the place of what is taken back. -/
theorem sublist_collapse {segments : List Text} (rooted : root ≠ .relative)
    (proper : (⟨root, segments⟩ : Path).Proper) :
    (collapse ⟨root, segments⟩).segments.Sublist segments := by
  induction segments using List.reverseRecOn with
  | nil => exact List.Sublist.refl _
  | append_singleton front name ih =>
      have ih := ih proper.of_concat
      by_cases up : name = dotDot
      · subst up
        rw [collapse_up rooted proper.of_concat]
        exact ((List.dropLast_sublist _).trans ih).trans (List.sublist_append_left _ _)
      · rw [collapse_down up]
        exact ih.append (List.Sublist.refl _)

end Path

namespace FileSystem

open Path

variable {fs : FileSystem} {links left : Nat} {here there place : Location} {names : List Text}
  {toDirectory : Bool} {node : Node}

section Ends

theorem Passes.leads_end (h : Passes fs links here names left there) (toDirectory : Bool) :
    Leads fs true links here toDirectory names there := by
  induction h generalizing toDirectory with
  | here => exact .here
  | dot _ ih => exact .dot (ih _)
  | up _ ih => exact .up (ih _)
  | down step found _ ih => exact .down step found (ih _)
  | @link links here name target names mid between left there step found solid inner rest ih ih' =>
      refine .link step found solid (by simp) ?_
      by_cases last : names = []
      · subst last
        cases rest
        rw [List.append_nil]
        exact ih _
      · exact inner.leads last (ih' _)

/-- The last of some names is a step down. -/
def EndsInStep (names : List Text) : Prop := ∃ before last, names = before ++ [last] ∧ IsStep last

theorem EndsInStep.cons (h : EndsInStep names) (name : Text) : EndsInStep (name :: names) := by
  obtain ⟨before, last, rfl, step⟩ := h
  exact ⟨name :: before, last, rfl, step⟩

theorem EndsInStep.of_append {front : List Text} (h : EndsInStep (front ++ names))
    (hne : names ≠ []) : EndsInStep names := by
  obtain ⟨before, last, split, step⟩ := h
  obtain ⟨rest, last', rfl⟩ := (List.eq_nil_or_concat names).resolve_left hne
  rw [List.concat_eq_append] at split ⊢
  rw [← List.append_assoc] at split
  cases List.singleton_inj.mp (List.append_inj' split rfl).2
  exact ⟨rest, last, rfl, step⟩

/-- A way that is followed to its end passes to a directory, or it ends in a regular file, by a
step down and without asking for a directory. -/
theorem Leads.end_cases (h : Leads fs true links here toDirectory names place)
    (there : fs.node? place ≠ none) :
    (∃ left, Passes fs links here names left place) ∨
      (toDirectory = false ∧ EndsInStep names ∧
        ∃ node, fs.node? place = some node ∧ node.isRegular = true) := by
  induction h with
  | here => exact Or.inl ⟨_, .here⟩
  | fresh _ missing => exact absurd missing there
  | file step found regular => exact Or.inr ⟨rfl, ⟨[], _, rfl, step⟩, _, found, regular⟩
  | stop _ last => cases last
  | dot _ ih =>
      exact (ih there).imp (fun ⟨left, passes⟩ => ⟨left, .dot passes⟩)
        fun ⟨open_end, step, regular⟩ => ⟨open_end, step.cons _, regular⟩
  | up _ ih =>
      exact (ih there).imp (fun ⟨left, passes⟩ => ⟨left, .up passes⟩)
        fun ⟨open_end, step, regular⟩ => ⟨open_end, step.cons _, regular⟩
  | down step found _ ih =>
      exact (ih there).imp (fun ⟨left, passes⟩ => ⟨left, .down step found passes⟩)
        fun ⟨open_end, step, regular⟩ => ⟨open_end, step.cons _, regular⟩
  | @link _ _ _ name _ names _ step found solid _ _ ih =>
      rcases ih there with ⟨left, passes⟩ | ⟨open_end, steps, regular⟩
      · obtain ⟨mid, between, inner, rest⟩ := passes.split
        exact Or.inl ⟨left, .link step found solid inner rest⟩
      · refine Or.inr ⟨(Bool.or_eq_false_iff.mp open_end).1, ?_, regular⟩
        by_cases last : names = []
        · exact ⟨[], name, by rw [last]; rfl, step⟩
        · exact (steps.of_append last).cons name

/-- What a way passes to is where it leads. -/
theorem Passes.eq_of_leads (h : Passes fs links here names left there)
    (leads : Leads fs true links here toDirectory names place) : place = there := by
  have whole := walkFrom_of_leads (h.leads_end toDirectory)
  exact (Except.ok.inj (whole.symm.trans (walkFrom_of_leads leads))).symm

theorem passes_concat_iff {name : Text} : Passes fs links here (names ++ [name]) left there ↔
    ∃ mid between, Passes fs links here names mid between ∧
      Passes fs mid between [name] left there :=
  ⟨Passes.split, fun ⟨_, _, first, last⟩ => first.append last⟩

/-- A dot makes no difference for passing. -/
theorem passes_filter_dot :
    Passes fs links here (names.filter fun s => s != dot) left there ↔
      Passes fs links here names left there := by
  constructor
  · intro h
    induction names generalizing links here with
    | nil => exact h
    | cons name rest ih =>
        by_cases isDot : name = dot
        · subst isDot
          exact .dot (ih h)
        · rw [List.filter_cons_of_pos (by simpa using isDot)] at h
          cases h with
          | dot h => exact .dot (ih h)
          | up h => exact .up (ih h)
          | down step found h => exact .down step found (ih h)
          | link step found solid inner h => exact .link step found solid inner (ih h)
  · intro h
    induction h with
    | here => exact .here
    | dot _ ih => exact ih
    | up _ ih => exact .up ih
    | down step found _ ih =>
        rw [List.filter_cons_of_pos (by simpa using step.1)]
        exact .down step found ih
    | link step found solid inner _ _ ih =>
        rw [List.filter_cons_of_pos (by simpa using step.1)]
        exact .link step found solid inner ih

end Ends

section TakesBack

variable {root : Root} {segments front : List Text} {name last : Text}

/-- Each step up on a path takes back, by text, the name of a directory that is not a link, unless
no name is left to be taken back. -/
def TakesBack (fs : FileSystem) (p : Path) : Prop :=
  ∀ front back, p.segments = front ++ dotDot :: back →
    (collapse ⟨p.root, front⟩).segments = [] ∨
      fs.find false (collapse ⟨p.root, front⟩).toText = .ok .directory

theorem takesBack_iff {p : Path} : TakesBack fs p ↔
    ∀ i < p.segments.length, p.segments[i]? = some dotDot →
      (collapse ⟨p.root, p.segments.take i⟩).segments = [] ∨
        fs.find false (collapse ⟨p.root, p.segments.take i⟩).toText = .ok .directory := by
  constructor
  · intro back i inside up
    refine back _ (p.segments.drop (i + 1)) ?_
    rw [← (List.getElem?_eq_some_iff.mp up).2, ← List.drop_eq_getElem_cons,
      List.take_append_drop]
  · intro back front later split
    have inside : front.length < p.segments.length := by simp [split]
    have taken := back front.length inside (by simp [split])
    rwa [split, List.take_left] at taken

instance (fs : FileSystem) (p : Path) : Decidable (TakesBack fs p) :=
  decidable_of_iff _ takesBack_iff.symm

theorem TakesBack.of_concat (h : TakesBack fs ⟨root, front ++ [name]⟩) :
    TakesBack fs ⟨root, front⟩ := by
  intro before back split
  refine h before (back ++ [name]) ?_
  change front = _ at split
  change front ++ [name] = _
  rw [split, List.append_assoc, List.cons_append]

/-- The way to a directory that is not a link passes to where the directory is. -/
theorem passes_of_find {p : Path} (normal : p.Normal) (split : p.segments = front ++ [last])
    (found : fs.find false p.toText = .ok .directory) :
    IsOsPath p.toText ∧ IsStep last ∧ ∃ left there, Passes fs maxLinks [] front left there ∧
      fs.node? (there ++ [last]) = some .directory := by
  have ne_dotDot : last ≠ dotDot := by
    rintro rfl
    exact normal.noStepUp (by simp [split])
  obtain ⟨place, walk, found⟩ := find_eq_ok_iff.mp found
  obtain ⟨step, there, ⟨route, left, check, _, passes⟩, rfl⟩ :=
    (endsIn_toText normal.proper split ne_dotDot).walk_iff.mp walk
  obtain ⟨admitted, rfl⟩ := IsOsPath.check_eq_ok_iff.mp check
  rw [startFor_toText normal.proper, startOfPath, if_pos normal.isAbsolute] at passes
  exact ⟨admitted.1, step, left, there, passes, found⟩

theorem passes_last_iff {mid : Nat} {between : Location} (step : IsStep last)
    (found : fs.node? (between ++ [last]) = some .directory) :
    Passes fs mid between [last] left there ↔ left = mid ∧ there = between ++ [last] := by
  constructor
  · intro h
    cases h with
    | dot => exact absurd step not_isStep_dot
    | up => exact absurd step not_isStep_dotDot
    | down _ _ rest =>
        cases rest
        exact ⟨rfl, rfl⟩
    | link _ found' => cases found.symm.trans found'
  · rintro ⟨rfl, rfl⟩
    exact .down step found .here

theorem passes_up_iff {mid : Nat} {between : Location} :
    Passes fs mid between [dotDot] left there ↔ left = mid ∧ there = between.dropLast := by
  constructor
  · intro h
    cases h with
    | up rest =>
        cases rest
        exact ⟨rfl, rfl⟩
    | down step => exact absurd step not_isStep_dotDot
    | link step => exact absurd step not_isStep_dotDot
  · rintro ⟨rfl, rfl⟩
    exact .up .here

theorem Passes.same_end {left' : Nat} {there' : Location}
    (h : Passes fs links here names left there) (h' : Passes fs links here names left' there') :
    there' = there :=
  (h.unique (fun _ _ found => Or.inl found) h').symm

variable (rooted : root ≠ .relative)
include rooted

/-- What a step up takes back, if there is anything, is a step down to a directory. -/
theorem TakesBack.cases (proper : (⟨root, front⟩ : Path).Proper)
    (back : TakesBack fs ⟨root, front ++ [dotDot]⟩) :
    (collapse ⟨root, front⟩).segments = [] ∨
      ∃ before last, (collapse ⟨root, front⟩).segments = before ++ [last] ∧
        IsOsPath (collapse ⟨root, front⟩).toText ∧ IsStep last ∧
        ∃ left there, Passes fs maxLinks [] before left there ∧
          fs.node? (there ++ [last]) = some .directory := by
  rcases (collapse ⟨root, front⟩).segments.eq_nil_or_concat with nil | ⟨before, last, concat⟩
  · exact Or.inl nil
  · rw [List.concat_eq_append] at concat
    have found := (back front [] rfl).resolve_left (by simp [concat])
    have normal := normal_collapse (bne_iff_ne.mpr rooted) proper
    exact Or.inr ⟨before, last, concat, passes_of_find normal concat found⟩

/-- Taking steps up back by text changes nothing about what a path passes to. The induction is on
the names from the left, as `collapse` goes through them. -/
theorem passes_collapse_iff (proper : (⟨root, segments⟩ : Path).Proper)
    (back : TakesBack fs ⟨root, segments⟩) :
    Passes fs maxLinks [] (collapse ⟨root, segments⟩).segments left there ↔
      Passes fs maxLinks [] segments left there := by
  induction segments using List.reverseRecOn generalizing left there with
  | nil => exact Iff.rfl
  | append_singleton front name ih =>
      have ih {left there} := @ih left there proper.of_concat back.of_concat
      rw [passes_concat_iff]
      by_cases up : name = dotDot
      · subst up
        simp only [passes_up_iff, ← ih]
        rw [collapse_up rooted proper.of_concat]
        obtain nil | ⟨before, last, concat, _, step, _, above, passes, directory⟩ :=
          back.cases rooted proper.of_concat
        · -- Above a root is the root itself.
          rw [nil]
          constructor
          · intro h
            cases h
            exact ⟨_, _, .here, rfl, rfl⟩
          · rintro ⟨_, _, first, rfl, rfl⟩
            cases first
            exact .here
        · rw [concat, List.dropLast_concat]
          constructor
          · intro first
            obtain rfl := passes.same_end first
            exact ⟨_, _, passes_concat_iff.mpr
              ⟨_, _, first, (passes_last_iff step directory).mpr ⟨rfl, rfl⟩⟩, rfl,
              List.dropLast_concat.symm⟩
          · rintro ⟨_, _, both, rfl, rfl⟩
            obtain ⟨_, _, first, second⟩ := passes_concat_iff.mp both
            obtain rfl := passes.same_end first
            obtain ⟨rfl, rfl⟩ := (passes_last_iff step directory).mp second
            rwa [List.dropLast_concat]
      · rw [collapse_down up, passes_concat_iff]
        simp only [ih]

/-- What is taken back has been handed to the system, so with what is left all names can be. -/
theorem isOsPath_of_collapse (proper : (⟨root, segments⟩ : Path).Proper)
    (back : TakesBack fs ⟨root, segments⟩)
    (admitted : ∀ s ∈ (collapse ⟨root, segments⟩).segments, IsOsPath s) :
    ∀ s ∈ segments, IsOsPath s := by
  induction segments using List.reverseRecOn with
  | nil => exact nofun
  | append_singleton front name ih =>
      have ih := ih proper.of_concat back.of_concat
      rw [List.forall_mem_append, List.forall_mem_singleton]
      by_cases up : name = dotDot
      · subst up
        refine ⟨ih ?_, by decide⟩
        obtain nil | ⟨_, _, _, isOsPath, _⟩ := back.cases rooted proper.of_concat
        · rw [nil]
          exact nofun
        · exact (isOsPath_toText (bne_iff_ne.mpr rooted)).mp isOsPath
      · rw [collapse_down up, List.forall_mem_append, List.forall_mem_singleton] at admitted
        exact ⟨ih admitted.1, admitted.2⟩

/-- Where a step up was taken back, the names that are left pass to a directory. -/
theorem passes_of_up (proper : (⟨root, front ++ [dotDot]⟩ : Path).Proper)
    (back : TakesBack fs ⟨root, front ++ [dotDot]⟩) :
    ∃ left there,
      Passes fs maxLinks [] (collapse ⟨root, front ++ [dotDot]⟩).segments left there := by
  rw [collapse_up rooted proper.of_concat]
  obtain nil | ⟨_, _, concat, _, _, left, there, passes, _⟩ := back.cases rooted proper.of_concat
  · rw [nil]
    exact ⟨_, _, .here⟩
  · rw [concat, List.dropLast_concat]
    exact ⟨left, there, passes⟩

end TakesBack

section Walk

variable {t : Text} {followLast : Bool}

theorem isAbsolute_ofText (t : Text) : (Route.ofText t).isAbsolute = (ofText t).isAbsolute := by
  change decide (t.head? = some slash) = (rootOf t != .relative)
  unfold rootOf
  split
  · rfl
  · rfl
  · rfl
  · next other =>
    rw [bne_self_eq_false, decide_eq_false_iff_not]
    intro head
    obtain ⟨rest, rfl⟩ := List.head?_eq_some_iff.mp head
    exact other rest rfl

/-- Following a path from a root. -/
theorem walk_rooted_iff (absolute : (ofText t).isAbsolute = true) :
    fs.walk followLast t = .ok place ↔
      (IsOsPath t ∧ FileName.byteLength t ≤ Route.maxLength) ∧
        Leads fs followLast maxLinks [] (Route.ofText t).endsInSlash (Route.namesOf t) place := by
  have hne : t ≠ [] := by
    rintro rfl
    cases absolute
  have start : fs.startFor (Route.ofText t) = [] := by
    rw [startFor, isAbsolute_ofText, absolute, if_pos rfl]
  rw [walk_eq_ok_iff]
  constructor
  · rintro ⟨route, check, _, leads⟩
    obtain ⟨⟨isOsPath, _, short⟩, rfl⟩ := IsOsPath.check_eq_ok_iff.mp check
    rw [start] at leads
    exact ⟨⟨isOsPath, short⟩, leads⟩
  · rintro ⟨⟨isOsPath, short⟩, leads⟩
    refine ⟨_, IsOsPath.check_eq_ok_iff.mpr ⟨⟨isOsPath, hne, short⟩, rfl⟩, ?_, ?_⟩ <;> rw [start]
    · rfl
    · exact leads

theorem exists_of_holds (h : fs.holds t = true) : ∃ node, fs.find false t = .ok node := by
  unfold holds at h
  cases found : fs.find false t with
  | error r =>
      rw [found] at h
      cases h
  | ok node => exact ⟨node, rfl⟩

theorem leads_concat_iff {name : Text} :
    Leads fs followLast links here toDirectory (names ++ [name]) place ↔
      ∃ left there, Passes fs links here names left there ∧
        Leads fs followLast left there toDirectory [name] place :=
  ⟨fun h => h.split (List.cons_ne_nil _ _),
    fun ⟨_, _, passes, leads⟩ => passes.leads (List.cons_ne_nil _ _) leads⟩

theorem segments_ofText (t : Text) :
    (ofText t).segments = (Route.namesOf t).filter fun s => s != dot := by
  rw [Route.namesOf, List.filter_filter, ofText]
  exact List.filter_congr fun s _ => Bool.and_comm _ _

theorem segments_concat {before : List Text} {last : Text}
    (split : Route.namesOf t = before ++ [last]) (ne_dot : last ≠ dot) :
    (ofText t).segments = (before.filter fun s => s != dot) ++ [last] := by
  rw [segments_ofText, split, List.filter_append]
  simp [ne_dot]

theorem namesOf_toText {p : Path} (normal : p.Normal) : Route.namesOf p.toText = p.segments := by
  by_cases nil : p.segments = []
  · obtain ⟨root, segments⟩ := p
    cases nil
    cases root with
    | relative => cases normal.isAbsolute
    | single | double => rfl
  · exact Route.names_toText normal.proper nil

theorem isAbsolute_collapse (absolute : (ofText t).isAbsolute = true) :
    (ofText (ofText t).collapse.toText).isAbsolute = true := by
  have normal := normal_collapse absolute (ofText_proper t)
  rw [← isAbsolute_ofText, Route.isAbsolute_toText normal.proper, normal.isAbsolute]

section Collapsed

variable (absolute : (ofText t).isAbsolute = true) (back : TakesBack fs (ofText t))
include absolute back

theorem passes_names_iff : Passes fs maxLinks [] (ofText t).collapse.segments left there ↔
    Passes fs maxLinks [] (Route.namesOf t) left there := by
  have same : Passes fs maxLinks [] (ofText t).collapse.segments left there ↔
      Passes fs maxLinks [] (ofText t).segments left there :=
    passes_collapse_iff (bne_iff_ne.mp absolute) (ofText_proper t) back
  rw [segments_ofText] at same
  exact same.trans passes_filter_dot

/-- Up to a step down at the end, a way is the same when it is collapsed. -/
theorem collapse_step {before : List Text} {last : Text}
    (split : Route.namesOf t = before ++ [last]) (ne_dot : last ≠ dot)
    (ne_dotDot : last ≠ dotDot) :
    ∃ front, (ofText t).collapse.segments = front ++ [last] ∧ ∀ {left there},
      Passes fs maxLinks [] front left there ↔ Passes fs maxLinks [] before left there := by
  have segments := segments_concat split ne_dot
  have proper := ofText_proper t
  generalize ofText t = p at absolute back segments proper
  obtain ⟨root, all⟩ := p
  obtain rfl : all = _ := segments
  refine ⟨_, collapse_down ne_dotDot, ?_⟩
  intro left there
  rw [passes_collapse_iff (bne_iff_ne.mp absolute) proper.of_concat back.of_concat]
  exact passes_filter_dot

theorem passes_of_last_up {before : List Text} (split : Route.namesOf t = before ++ [dotDot]) :
    ∃ left there, Passes fs maxLinks [] (ofText t).collapse.segments left there := by
  have segments := segments_concat split (by decide)
  have proper := ofText_proper t
  generalize ofText t = p at absolute back segments proper
  obtain ⟨root, all⟩ := p
  obtain rfl : all = _ := segments
  exact passes_of_up (bne_iff_ne.mp absolute) proper back

/-- Where no way passes along all names of a path, the last one is a step down, unless it is a dot
behind which nothing is. -/
theorem exists_step_of_blocked
    (blocked : ∀ left there, ¬Passes fs maxLinks [] (Route.namesOf t) left there)
    (atDot : (Route.namesOf t).getLast? = some dot → fs.holds t = true) :
    ∃ before last, Route.namesOf t = before ++ [last] ∧ last ≠ dot ∧ last ≠ dotDot := by
  rcases (Route.namesOf t).eq_nil_or_concat with nil | ⟨before, last, concat⟩
  · rw [nil] at blocked
    exact absurd .here (blocked maxLinks [])
  · rw [List.concat_eq_append] at concat
    refine ⟨before, last, concat, ?_, ?_⟩
    · rintro rfl
      obtain ⟨_, found⟩ := exists_of_holds (atDot (by rw [concat, List.getLast?_concat]))
      obtain ⟨_, walk, _⟩ := find_eq_ok_iff.mp found
      have leads := ((walk_rooted_iff absolute).mp walk).2
      rw [concat, leads_concat_iff] at leads
      obtain ⟨left, there, passes, _⟩ := leads
      rw [concat] at blocked
      exact blocked left there (passes.append (.dot .here))
    · rintro rfl
      obtain ⟨left, there, passes⟩ := passes_of_last_up absolute back concat
      exact blocked left there ((passes_names_iff absolute back).mp passes)

/-- What can be followed at all does not change by collapsing. -/
theorem isOsPath_collapse_iff : IsOsPath (ofText t).collapse.toText ↔ IsOsPath t := by
  have rooted := bne_iff_ne.mp absolute
  have normal := normal_collapse absolute (ofText_proper t)
  rw [isOsPath_toText normal.isAbsolute, isOsPath_iff_segments]
  constructor
  · exact isOsPath_of_collapse rooted (ofText_proper t) back
  · intro isOsPath s mem
    exact isOsPath s ((sublist_collapse rooted (ofText_proper t)).subset mem)

/-- What a path leads to, it leads to when it is collapsed, if every step up takes back a
directory. -/
theorem walk_collapse (walk : fs.walk true t = .ok place) (there : fs.node? place ≠ none) :
    fs.walk true (ofText t).collapse.toText = .ok place := by
  have normal := normal_collapse absolute (ofText_proper t)
  have fewer := sublist_collapse (bne_iff_ne.mp absolute) (ofText_proper t)
  obtain ⟨⟨isOsPath, short⟩, leads⟩ := (walk_rooted_iff absolute).mp walk
  rw [walk_rooted_iff (isAbsolute_collapse absolute), namesOf_toText normal]
  refine ⟨⟨(isOsPath_collapse_iff absolute back).mpr isOsPath,
    Nat.le_trans (FileName.byteLength_toText_le absolute fewer) short⟩, ?_⟩
  rcases leads.end_cases there with ⟨_, passes⟩ | ⟨open_end, ⟨before, last, split, step⟩, _⟩
  · exact ((passes_names_iff absolute back).mpr passes).leads_end _
  · obtain ⟨front, split', same⟩ := collapse_step absolute back split step.1 step.2.1
    have open_end' := (endsIn_toText normal.proper split' step.2.1).open_end
    rw [open_end, split, leads_concat_iff] at leads
    rw [open_end', split', leads_concat_iff]
    obtain ⟨left, there, passes, last⟩ := leads
    exact ⟨left, there, same.mpr passes, last⟩

/-- And the other way round, unless the path is too long. Only if a path ends in a slash or a dot,
it may lead nowhere where the collapsed one leads to a regular file. -/
theorem walk_of_collapse (tree : fs.IsTree)
    (short : FileName.byteLength t ≤ Route.maxLength)
    (atSlash : t.getLast? = some slash →
      ∀ node, fs.find true (ofText t).collapse.toText = .ok node → node.isRegular = false)
    (atDot : t.getLast? ≠ some slash → (Route.namesOf t).getLast? = some dot → fs.holds t = true)
    (walk : fs.walk true (ofText t).collapse.toText = .ok place)
    (there : fs.node? place ≠ none) : fs.walk true t = .ok place := by
  have normal := normal_collapse absolute (ofText_proper t)
  obtain ⟨⟨isOsPath, _⟩, leads⟩ := (walk_rooted_iff (isAbsolute_collapse absolute)).mp walk
  rw [namesOf_toText normal] at leads
  rw [walk_rooted_iff absolute]
  refine ⟨⟨(isOsPath_collapse_iff absolute back).mp isOsPath, short⟩, ?_⟩
  rcases leads.end_cases there with ⟨_, passes⟩ | ⟨_, _, node, found, regular⟩
  · exact ((passes_names_iff absolute back).mp passes).leads_end _
  · have blocked : ∀ left there, ¬Passes fs maxLinks [] (Route.namesOf t) left there := by
      intro left there passes
      have passes := (passes_names_iff absolute back).mpr passes
      obtain rfl := passes.eq_of_leads leads
      cases (passes.directory tree rfl).symm.trans found
      cases regular
    have slashless : t.getLast? ≠ some slash := by
      intro ends
      cases regular.symm.trans (atSlash ends node (find_eq_ok_iff.mpr ⟨place, walk, found⟩))
    have open_end : (Route.ofText t).endsInSlash = false := decide_eq_false slashless
    obtain ⟨before, last, concat, ne_dot, ne_dotDot⟩ :=
      exists_step_of_blocked absolute back blocked (atDot slashless)
    obtain ⟨front, split, same⟩ := collapse_step absolute back concat ne_dot ne_dotDot
    have open_end' := (endsIn_toText normal.proper split ne_dotDot).open_end
    rw [open_end', split, leads_concat_iff] at leads
    rw [open_end, concat, leads_concat_iff]
    obtain ⟨left, there, passes, last⟩ := leads
    exact ⟨left, there, same.mp passes, last⟩

end Collapsed

end Walk

end FileSystem

end SourceLedger
