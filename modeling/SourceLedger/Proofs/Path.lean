import SourceLedger.Proofs.FileSystem.Find

/-!
# Paths as routes

A path is written as text and followed by the names in that text. For a path that was read from a
text, these are its segments. One step down from any path at all ends in the name of that step.
-/

namespace SourceLedger

namespace Text

variable {separator : CodePoint}

theorem splitOn_append_cons (s t : Text) :
    splitOn separator (s ++ separator :: t) = splitOn separator s ++ splitOn separator t := by
  induction s with
  | nil =>
      cases h : splitOn separator t with
      | nil => exact absurd h (splitOn_ne_nil separator t)
      | cons piece pieces => simp [splitOn, h]
  | cons c s ih =>
      rw [List.cons_append, splitOn, ih, splitOn]
      cases h : splitOn separator s with
      | nil => exact absurd h (splitOn_ne_nil separator s)
      | cons piece pieces =>
          simp only [List.cons_append]
          split_ifs <;> rfl

theorem splitOn_of_notMem {s : Text} (h : separator ∉ s) : splitOn separator s = [s] := by
  induction s with
  | nil => rfl
  | cons c s ih =>
      rw [List.mem_cons, not_or] at h
      rw [splitOn, ih h.2]
      exact if_neg (Ne.symm h.1)

theorem notMem_of_mem_splitOn {s piece : Text} (h : piece ∈ splitOn separator s) :
    separator ∉ piece := by
  induction s generalizing piece with
  | nil =>
      obtain rfl := List.mem_singleton.mp h
      exact List.not_mem_nil
  | cons c s ih =>
      rw [splitOn] at h
      cases hs : splitOn separator s with
      | nil => exact absurd hs (splitOn_ne_nil separator s)
      | cons first pieces =>
          simp only [hs] at h
          split_ifs at h with heq
          · rcases List.mem_cons.mp h with rfl | h
            · exact List.not_mem_nil
            · exact ih (hs ▸ h)
          · rcases List.mem_cons.mp h with rfl | h
            · have := ih (hs ▸ List.mem_cons_self)
              simp [Ne.symm heq, this]
            · exact ih (hs ▸ List.mem_cons_of_mem _ h)

theorem join_concat {s : Text} {pieces : List Text} (hne : pieces ≠ []) (last : Text) :
    join s (pieces ++ [last]) = join s pieces ++ s ++ last := by
  induction pieces with
  | nil => exact absurd rfl hne
  | cons piece pieces ih =>
      by_cases hp : pieces = []
      · subst hp
        simp [join]
      · have hp' : pieces ++ [last] ≠ [] := by simp
        have ih := ih hp
        simp only [join, List.cons_append] at ih ⊢
        rw [List.intercalate_cons_of_ne_nil hp', List.intercalate_cons_of_ne_nil hp, ih]
        simp only [List.append_assoc]

end Text

namespace Path

/-- Whether a text can be a name: it is not empty, and no slash is in it. -/
structure IsName (s : Text) : Prop where
  ne_nil : s ≠ []
  slash : slash ∉ s

instance (s : Text) : Decidable (IsName s) :=
  decidable_of_iff (s ≠ [] ∧ slash ∉ s) ⟨fun h => ⟨h.1, h.2⟩, fun h => ⟨h.1, h.2⟩⟩

/-- The segments are names, and none is a dot. -/
def Proper (p : Path) : Prop := ∀ s ∈ p.segments, IsName s ∧ s ≠ dot

instance (p : Path) : Decidable p.Proper := List.decidableBAll _ _

theorem ofText_proper (t : Text) : (ofText t).Proper := by
  intro s hs
  obtain ⟨mem, ok⟩ := List.mem_filter.mp hs
  rw [Bool.and_eq_true, Bool.not_eq_true', bne_iff_ne] at ok
  exact ⟨⟨by simpa using ok.1, Text.notMem_of_mem_splitOn mem⟩, ok.2⟩

theorem Proper.child {p : Path} (proper : p.Proper) {name : Text} (h : IsName name)
    (ne_dot : name ≠ dot) : (p.child name).Proper := by
  intro s hs
  rcases List.mem_append.mp hs with hs | hs
  · exact proper s hs
  · obtain rfl := List.mem_singleton.mp hs
    exact ⟨h, ne_dot⟩

/-- A path from a root that takes no step up. -/
structure Normal (p : Path) : Prop where
  isAbsolute : p.isAbsolute = true
  proper : p.Proper
  noStepUp : dotDot ∉ p.segments

theorem Proper.join {p q : Path} (proper : p.Proper) (proper' : q.Proper) : (p.join q).Proper := by
  unfold Path.join
  split_ifs
  · exact proper'
  · exact List.forall_mem_append.mpr ⟨proper, proper'⟩

theorem isAbsolute_join {p : Path} (absolute : p.isAbsolute = true) (q : Path) :
    (p.join q).isAbsolute = true := by
  unfold join
  split_ifs with h
  · exact h
  · exact absolute

/-- Collapsing takes all steps up away from a path that starts from a root. -/
theorem normal_collapse {p : Path} (absolute : p.isAbsolute = true) (proper : p.Proper) :
    p.collapse.Normal := by
  have ne_relative : p.root ≠ .relative := by simpa [isAbsolute] using absolute
  have push : ∀ (segments before : List Text), (∀ s ∈ segments, IsName s ∧ s ≠ dot) →
      (∀ s ∈ before, (IsName s ∧ s ≠ dot) ∧ s ≠ dotDot) →
      ∀ s ∈ segments.foldl (pushSegment p.root) before, (IsName s ∧ s ≠ dot) ∧ s ≠ dotDot := by
    intro segments
    induction segments with
    | nil => exact fun before _ kept => kept
    | cons segment segments ih =>
        intro before names kept
        rw [List.forall_mem_cons] at names
        refine ih _ names.2 ?_
        unfold pushSegment
        split_ifs with up
        · cases before with
          | nil => simp
          | cons last rest =>
              rw [List.forall_mem_cons] at kept
              simp only [if_neg kept.1.2]
              exact kept.2
        · exact List.forall_mem_cons.mpr ⟨⟨names.1, up⟩, kept⟩
  have all : ∀ s ∈ p.collapse.segments, (IsName s ∧ s ≠ dot) ∧ s ≠ dotDot := fun s hs =>
    push p.segments [] proper (by simp) s (List.mem_reverse.mp hs)
  exact ⟨absolute, fun s hs => (all s hs).1, fun mem => (all _ mem).2 rfl⟩

/-- What a path is resolved to from an absolute directory. -/
theorem exists_normal_resolve {workingDirectory : Text}
    (absolute : (ofText workingDirectory).isAbsolute = true) (path : Text) :
    ∃ p : Path, p.Normal ∧ resolve workingDirectory path = p.toText :=
  ⟨_, normal_collapse (isAbsolute_join absolute _)
    ((ofText_proper workingDirectory).join (ofText_proper path)), rfl⟩

theorem name_eq {p : Path} {before : List Text} {last : Text}
    (segments : p.segments = before ++ [last]) : p.name = last := by
  simp [name, segments]

theorem Proper.slash_notMem_name {p : Path} (proper : p.Proper) : slash ∉ p.name := by
  rcases p.segments.eq_nil_or_concat with hs | ⟨before, last, hs⟩
  · simp [name, hs]
  · rw [List.concat_eq_append] at hs
    exact name_eq hs ▸ (proper last (by simp [hs])).1.slash

theorem Proper.parent {p : Path} (proper : p.Proper) : p.parent.Proper :=
  fun s hs => proper s (List.dropLast_subset _ hs)

end Path

namespace Route

open Path

/-- The names in a text. -/
def namesOf (t : Text) : List Text := (Text.splitOn slash t).filter fun s => !s.isEmpty

theorem ofText_names (t : Text) : (ofText t).names = namesOf t := rfl

theorem namesOf_append_slash (s t : Text) :
    namesOf (s ++ slash :: t) = namesOf s ++ namesOf t := by
  rw [namesOf, Text.splitOn_append_cons, List.filter_append]
  rfl

theorem namesOf_name {s : Text} (h : IsName s) : namesOf s = [s] := by
  rw [namesOf, Text.splitOn_of_notMem h.slash]
  simpa using h.ne_nil

@[simp] theorem namesOf_slash (t : Text) : namesOf (slash :: t) = namesOf t :=
  namesOf_append_slash [] t

/-- A path down to a name is written as that name after nothing or a slash. -/
theorem toText_concat (root : Root) (before : List Text) {name : Text} (h : IsName name) :
    ∃ front, (⟨root, before ++ [name]⟩ : Path).toText = front ++ name ∧
      (front = [] ∨ front.getLast? = some slash) := by
  have front : ∃ front, rootText root ++ Text.join "/" (before ++ [name]) = front ++ name ∧
      (front = [] ∨ front.getLast? = some slash) := by
    rcases before.eq_nil_or_concat with rfl | ⟨above, last, rfl⟩
    · refine ⟨rootText root, by simp [Text.join], ?_⟩
      cases root
      · exact Or.inl rfl
      · exact Or.inr rfl
      · exact Or.inr rfl
    · rw [List.concat_eq_append]
      refine ⟨rootText root ++ Text.join "/" (above ++ [last]) ++ [slash], ?_, ?_⟩
      · rw [Text.join_concat (by simp)]
        simp only [List.append_assoc]
        rfl
      · exact Or.inr List.getLast?_concat
  obtain ⟨front, heq, ends⟩ := front
  refine ⟨front, ?_, ends⟩
  unfold toText
  simp only [heq]
  split
  · next hnil => exact absurd (List.append_eq_nil_iff.mp hnil).2 h.ne_nil
  · rfl

theorem namesOf_join {pieces : List Text} (h : ∀ s ∈ pieces, IsName s) :
    namesOf (Text.join "/" pieces) = pieces := by
  induction pieces with
  | nil => rfl
  | cons piece pieces ih =>
      rw [List.forall_mem_cons] at h
      by_cases hp : pieces = []
      · subst hp
        rw [Text.join, List.intercalate_singleton, namesOf_name h.1]
      · have tail := namesOf_append_slash piece (Text.join "/" pieces)
        rw [namesOf_name h.1, ih h.2] at tail
        rw [Text.join, List.intercalate_cons_of_ne_nil hp, List.append_assoc]
        exact tail

variable {p : Path}

theorem isAbsolute_toText (proper : p.Proper) : (ofText p.toText).isAbsolute = p.isAbsolute := by
  obtain ⟨root, segments⟩ := p
  cases root with
  | single | double => rfl
  | relative =>
      change decide (_ = _) = false
      rw [decide_eq_false_iff_not]
      cases segments with
      | nil => decide
      | cons first rest =>
          obtain ⟨⟨ne_nil, noSlash⟩, _⟩ := proper first List.mem_cons_self
          cases first with
          | nil => exact absurd rfl ne_nil
          | cons c first =>
              have hc : slash ≠ c := fun h => noSlash (h ▸ List.mem_cons_self)
              have head : (toText ⟨.relative, (c :: first) :: rest⟩).head? = some c := by
                cases rest <;> simp [toText, rootText, Text.join]
              rw [head]
              exact fun h => hc (Option.some.inj h).symm

theorem names_toText (proper : p.Proper) (hne : p.segments ≠ []) :
    (ofText p.toText).names = p.segments := by
  have names := namesOf_join fun s hs => (proper s hs).1
  have whole : p.toText = rootText p.root ++ Text.join "/" p.segments := by
    unfold toText
    split
    · next h =>
        rw [(List.append_eq_nil_iff.mp h).2] at names
        exact absurd names.symm hne
    · rfl
  rw [ofText_names, whole]
  cases p.root with
  | relative => exact names
  | single => exact (namesOf_slash _).trans names
  | double => exact ((namesOf_slash _).trans (namesOf_slash _)).trans names

theorem endsInSlash_concat (root : Root) (before : List Text) {name : Text} (h : IsName name) :
    (ofText (toText ⟨root, before ++ [name]⟩)).endsInSlash = false := by
  obtain ⟨front, heq, _⟩ := toText_concat root before h
  change decide (_ = _) = false
  rw [decide_eq_false_iff_not, heq, List.getLast?_append,
    List.getLast?_eq_some_getLast h.ne_nil, Option.some_or, Option.some.injEq]
  intro last
  exact h.slash (last ▸ List.getLast_mem h.ne_nil)

end Route

namespace FileSystem

open Path

variable {fs : FileSystem} {p : Path} {before : List Text} {name : Text}

/-- The path of a step down from any path ends with that step. -/
theorem endsIn_child (p : Path) (h : IsName name) (ne_dot : name ≠ dot)
    (ne_dotDot : name ≠ dotDot) : ∃ before, EndsIn (p.child name).toText before name := by
  obtain ⟨front, heq, ends⟩ := Route.toText_concat p.root p.segments h
  have names : ∃ before, (Route.ofText (p.child name).toText).names = before ++ [name] := by
    rw [Route.ofText_names]
    change ∃ before, Route.namesOf (toText ⟨p.root, p.segments ++ [name]⟩) = before ++ [name]
    rw [heq]
    rcases ends with rfl | last
    · exact ⟨[], Route.namesOf_name h⟩
    · obtain ⟨front, rfl⟩ := List.getLast?_eq_some_iff.mp last
      refine ⟨Route.namesOf front, ?_⟩
      rw [List.append_assoc, List.singleton_append, Route.namesOf_append_slash,
        Route.namesOf_name h]
  obtain ⟨before, names⟩ := names
  exact ⟨before, names, Route.endsInSlash_concat p.root p.segments h, ne_dot, ne_dotDot⟩

theorem endsIn_toText (proper : p.Proper) (h : p.segments = before ++ [name])
    (ne_dotDot : name ≠ dotDot) : EndsIn p.toText before name := by
  have hname := proper name (by simp [h])
  refine ⟨(Route.names_toText proper (by simp [h])).trans h, ?_, hname.2, ne_dotDot⟩
  obtain ⟨root, segments⟩ := p
  cases h
  exact Route.endsInSlash_concat root before hname.1

/-- Where a path is followed from. -/
def startOfPath (fs : FileSystem) (p : Path) : Location := if p.isAbsolute then [] else fs.current

theorem startFor_toText (proper : p.Proper) :
    fs.startFor (Route.ofText p.toText) = fs.startOfPath p := by
  rw [startFor, startOfPath, Route.isAbsolute_toText proper]

theorem walk_toText {followLast : Bool} {place : Location} (proper : p.Proper)
    (h : fs.walk followLast p.toText = .ok place) :
    fs.node? (fs.startOfPath p) = some .directory ∧ ∃ toDirectory,
      Leads fs followLast maxLinks (fs.startOfPath p) toDirectory p.segments place := by
  obtain ⟨route, check, start, leads⟩ := walk_eq_ok_iff.mp h
  obtain rfl := ofText_of_check check
  rw [startFor_toText proper] at start leads
  refine ⟨start, ?_⟩
  by_cases hne : p.segments = []
  · rw [hne]
    obtain ⟨root, segments⟩ := p
    cases hne
    cases root with
    | single | double => exact ⟨_, leads⟩
    | relative =>
        cases leads with
        | dot rest => exact ⟨_, rest⟩
        | fresh step | down step | file step | stop step | link step =>
            exact absurd step not_isStep_dot
  · rw [Route.names_toText proper hne] at leads
    exact ⟨_, leads⟩

/-- A path that does not end with a step down leads to a directory. -/
theorem walk_toText_directory (tree : fs.IsTree) {followLast : Bool} {place : Location}
    (proper : p.Proper) (h : fs.walk followLast p.toText = .ok place)
    (noStep : ∀ before name, p.segments = before ++ [name] → name = dotDot) :
    fs.node? place = some .directory := by
  obtain ⟨start, _, leads⟩ := walk_toText proper h
  rcases p.segments.eq_nil_or_concat with hnil | ⟨before, name, hs⟩
  · rw [hnil] at leads
    cases leads
    exact start
  · rw [List.concat_eq_append] at hs
    obtain rfl := noStep before name hs
    rw [hs] at leads
    obtain ⟨_, there, passes, last⟩ := leads.split (by simp)
    have inside := passes.directory tree start
    cases last with
    | up rest =>
        cases rest
        exact tree.dropLast inside
    | fresh step | down step | file step | stop step | link step =>
        exact absurd step not_isStep_dotDot

/-- Where a path leads to anything but a directory, it ends with its own name. -/
structure Ending (p : Path) : Prop where
  slash : slash ∉ p.name
  ends : ∀ {fs : FileSystem} {place : Location}, fs.IsTree → fs.walk false p.toText = .ok place →
    fs.node? place ≠ some .directory → ∃ before, EndsIn p.toText before p.name

theorem ending_of_proper (proper : p.Proper) : Ending p where
  slash := proper.slash_notMem_name
  ends {fs place} tree hw other := by
    rcases p.segments.eq_nil_or_concat with hs | ⟨before, last, hs⟩
    · exact absurd (walk_toText_directory tree proper hw (by simp [hs])) other
    · rw [List.concat_eq_append] at hs
      obtain rfl : p.name = last := name_eq hs
      by_cases hdd : p.name = dotDot
      · refine absurd (walk_toText_directory tree proper hw fun before' name' hs' => ?_) other
        rw [hs] at hs'
        exact (List.singleton_inj.mp (List.append_inj' hs' rfl).2).symm.trans hdd
      · exact ⟨before, endsIn_toText proper hs hdd⟩

theorem ending_child (p : Path) (h : IsName name) (ne_dot : name ≠ dot)
    (ne_dotDot : name ≠ dotDot) : Ending (p.child name) where
  slash := by
    rw [name_eq rfl]
    exact h.slash
  ends _ _ _ := by
    rw [name_eq rfl]
    exact endsIn_child p h ne_dot ne_dotDot

end FileSystem

end SourceLedger
