import SourceLedger.Glob.Expansion
import SourceLedger.Proofs.FileSystem.Collapse
import SourceLedger.Proofs.Results

/-!
# How matches end

A match of a pattern is put together from names that the pattern spells out and names that were
found in directories. So behind the directory in which it was found a match ends in a name, or
there is something at it, or it ends in a slash.
-/

namespace SourceLedger

namespace FileSystem

/-- The names in the tree are such as a directory can hold. -/
def Named (fs : FileSystem) : Prop :=
  ∀ place node, fs.node? place = some node →
    ∀ name ∈ place, Path.IsName name ∧ name ≠ Path.dot ∧ name ≠ Path.dotDot

variable {fs : FileSystem} {name : Text}

theorem named_of_nodes (h : ∀ e ∈ fs.nodes, ∀ name ∈ e.1,
    Path.IsName name ∧ name ≠ Path.dot ∧ name ≠ Path.dotDot) : fs.Named := by
  intro place node found name mem
  have hne : place ≠ [] := by
    rintro rfl
    cases mem
  exact h _ (mem_nodes found hne) name mem

theorem Named.of_list (named : fs.Named) {path : Text} {found : List Text}
    (h : fs.list path = .ok found) (mem : name ∈ found) :
    Path.IsName name ∧ name ≠ Path.dot ∧ name ≠ Path.dotDot := by
  obtain ⟨place, _, h⟩ := bind_eq_ok h
  split at h
  · cases h
    obtain ⟨⟨p, node⟩, listed, last⟩ := List.mem_filterMap.mp mem
    simp only at last
    split_ifs at last
    obtain ⟨node', found⟩ := Option.ne_none_iff_exists'.mp (node?_of_mem listed)
    exact named p node' found name (List.mem_of_getLast? last)
  · cases h
  · cases h

end FileSystem

namespace Glob

open Path (IsName)

variable {fs : FileSystem} {p q t directory name : Text} {onlyDirectories : Bool}

/-- A text ends in a name that is not a dot, at its front or behind a slash. -/
def EndsInName (t : Text) : Prop :=
  ∃ front name, t = front ++ name ∧ (front = [] ∨ front.getLast? = some slash) ∧
    IsName name ∧ name ≠ Path.dot

section Texts

theorem endsInName_of_isName (isName : IsName name) (ne_dot : name ≠ Path.dot) :
    EndsInName name :=
  ⟨[], name, rfl, Or.inl rfl, isName, ne_dot⟩

theorem EndsInName.ne_nil (h : EndsInName t) : t ≠ [] := by
  obtain ⟨front, name, rfl, _, isName, _⟩ := h
  exact fun nil => isName.ne_nil (List.append_eq_nil_iff.mp nil).2

theorem EndsInName.getLast?_names (h : EndsInName t) :
    (Route.namesOf t).getLast? ≠ some Path.dot := by
  obtain ⟨front, name, rfl, open_front, isName, ne_dot⟩ := h
  have names : ∃ before, Route.namesOf (front ++ name) = before ++ [name] := by
    rcases open_front with rfl | last
    · exact ⟨[], Route.namesOf_name isName⟩
    · obtain ⟨front, rfl⟩ := List.getLast?_eq_some_iff.mp last
      refine ⟨Route.namesOf front, ?_⟩
      rw [List.append_assoc, List.singleton_append]
      exact (Route.namesOf_append_slash _ _).trans (by rw [Route.namesOf_name isName])
  obtain ⟨before, names⟩ := names
  rw [names, List.getLast?_concat]
  exact fun same => ne_dot (Option.some.inj same)

/-- The slash that a path needs before a text is joined to it. -/
def gap (p : Text) : Text := if p.isEmpty || p.getLast? = some slash then [] else [slash]

theorem joinPaths_eq_gap (p q : Text) :
    joinPaths p q = if q.head? = some slash then q else p ++ gap p ++ q := by
  unfold joinPaths gap
  split_ifs <;> simp

theorem gap_append (p : Text) (hq : q ≠ []) : gap (p ++ q) = gap q := by
  have last : (p ++ q).getLast? = q.getLast? := by
    rw [List.getLast?_append, List.getLast?_eq_some_getLast hq]
    rfl
  have ne_nil : p ++ q ≠ [] := fun nil => hq (List.append_eq_nil_iff.mp nil).2
  simp only [gap, last, List.isEmpty_eq_false_iff.mpr hq, List.isEmpty_eq_false_iff.mpr ne_nil]

/-- Before a text that is joined to a path stands nothing, or a slash. -/
theorem joinPaths_eq (p q : Text) : ∃ front, joinPaths p q = front ++ q ∧
    (front = [] ∨ front.getLast? = some slash) := by
  rw [joinPaths_eq_gap]
  split_ifs
  · exact ⟨[], rfl, Or.inl rfl⟩
  · refine ⟨p ++ gap p, rfl, ?_⟩
    unfold gap
    split_ifs with open_end
    · simpa using open_end
    · exact Or.inr List.getLast?_concat

theorem EndsInName.joinPaths (h : EndsInName q) (p : Text) : EndsInName (joinPaths p q) := by
  obtain ⟨front, heq, open_front⟩ := joinPaths_eq p q
  obtain ⟨front', name, rfl, open_front', isName⟩ := h
  refine ⟨front ++ front', name, by rw [heq, List.append_assoc], ?_, isName⟩
  rcases open_front' with rfl | last
  · rwa [List.append_nil]
  · exact Or.inr (by rw [List.getLast?_append, last]; rfl)

theorem getLast?_joinPaths_nil (hne : p ≠ []) : (joinPaths p []).getLast? = some slash := by
  rw [joinPaths_eq_gap, if_neg nofun, List.append_nil]
  unfold gap
  split_ifs with open_end
  · simpa [hne] using open_end
  · exact List.getLast?_concat

/-- Behind the last slash of a text is nothing only if the text ends with that slash. -/
theorem getLast?_of_splitLast (nothing : (splitLast t).2 = []) :
    t = [] ∨ t.getLast? = some slash := by
  rw [splitLast, List.reverse_eq_nil_iff] at nothing
  rw [← List.head?_reverse]
  cases back : t.reverse with
  | nil => exact Or.inl (List.reverse_eq_nil_iff.mp back)
  | cons c rest =>
      rw [back, List.takeWhile_cons] at nothing
      split_ifs at nothing with other
      exact Or.inr (by simpa using other)

theorem getLast?_joinPaths_of_splitLast (hp : p ≠ []) (nothing : (splitLast t).2 = []) :
    (joinPaths p t).getLast? = some slash := by
  rcases getLast?_of_splitLast nothing with rfl | last
  · exact getLast?_joinPaths_nil hp
  · obtain ⟨front, heq, _⟩ := joinPaths_eq p t
    rw [heq, List.getLast?_append, last]
    rfl

theorem joinNames_eq (hp : p ≠ []) (hq : q ≠ []) : joinNames p q = joinPaths p q := by
  simp [joinNames, hp, hq]

theorem joinPaths_assoc (p t : Text) (hq : q ≠ []) :
    joinPaths p (joinPaths q t) = joinPaths (joinPaths p q) t := by
  have head (rest : Text) : (q ++ rest).head? = q.head? := by
    rw [List.head?_append, List.head?_eq_some_head hq]
    rfl
  by_cases ht : t.head? = some slash
  · simp only [joinPaths_eq_gap, ht, if_true]
  · simp only [joinPaths_eq_gap, ht, if_false, List.append_assoc, head]
    split_ifs
    · rfl
    · rw [← List.append_assoc p (gap p) q, gap_append _ hq]
      simp only [List.append_assoc]

theorem joinPaths_joinNames (hp : p ≠ []) (q t : Text) :
    joinPaths p (joinPaths q t) = joinPaths (joinNames p q) t := by
  by_cases hq : q = []
  · have nothing : joinPaths [] t = t := by simp [joinPaths]
    have same : joinNames p [] = p := by simp [joinNames, hp]
    rw [hq, nothing, same]
  · rw [joinNames_eq hp hq]
    exact joinPaths_assoc p t hq

theorem joinNames_ne_nil (hp : p ≠ []) (q : Text) : joinNames p q ≠ [] := by
  by_cases hq : q = []
  · simpa [joinNames, hq] using hp
  · obtain ⟨front, heq, _⟩ := joinPaths_eq p q
    rw [joinNames_eq hp hq, heq]
    exact fun nil => hq (List.append_eq_nil_iff.mp nil).2

theorem rootOf_of_ne {c : CodePoint} (h : c ≠ slash) (t : Text) :
    Path.rootOf (c :: t) = .relative :=
  Path.rootOf.eq_4 _ (fun _ e => h (List.cons.inj e).1) (fun _ e => h (List.cons.inj e).1)
    fun _ e => h (List.cons.inj e).1

theorem rootOf_single (h : t.head? ≠ some slash) : Path.rootOf (slash :: t) = .single :=
  Path.rootOf.eq_3 _ (fun _ e => h (congrArg List.head? e)) fun _ e => h (congrArg List.head? e)

theorem rootOf_double (h : t.head? ≠ some slash) : Path.rootOf (slash :: slash :: t) = .double :=
  Path.rootOf.eq_2 _ fun _ e => h (congrArg List.head? e)

/-- What is joined to a path does not change its root, which up to three code points decide. -/
theorem rootOf_append (hp : p ≠ []) (hq : q.head? ≠ some slash) :
    Path.rootOf (p ++ gap p ++ q) = Path.rootOf p := by
  have other {c : CodePoint} (hc : c ≠ slash) (t : Text) : (c :: t).head? ≠ some slash :=
    fun same => hc (Option.some.inj same)
  obtain ⟨c, rest, rfl⟩ := List.exists_cons_of_ne_nil hp
  by_cases hc : c = slash
  · subst hc
    cases rest with
    | nil => exact (rootOf_single hq).trans rfl
    | cons d rest =>
        by_cases hd : d = slash
        · subst hd
          cases rest with
          | nil => exact (rootOf_double hq).trans rfl
          | cons e rest =>
              by_cases he : e = slash
              · subst he
                rfl
              · exact (rootOf_double (other he _)).trans (rootOf_double (other he _)).symm
        · exact (rootOf_single (other hd _)).trans (rootOf_single (other hd _)).symm
  · exact (rootOf_of_ne hc _).trans (rootOf_of_ne hc _).symm

theorem segments_append_slash (p q : Text) : (Path.ofText (p ++ slash :: q)).segments =
    (Path.ofText p).segments ++ (Path.ofText q).segments := by
  change List.filter _ (Text.splitOn Path.slash (p ++ Path.slash :: q)) = _
  rw [Text.splitOn_append_cons]
  exact List.filter_append _ _

theorem segments_append (p q : Text) : (Path.ofText (p ++ gap p ++ q)).segments =
    (Path.ofText p).segments ++ (Path.ofText q).segments := by
  unfold gap
  split_ifs with open_end
  · rw [Bool.or_eq_true, List.isEmpty_iff, decide_eq_true_iff] at open_end
    rw [List.append_nil]
    rcases open_end with rfl | last
    · rfl
    · obtain ⟨before, rfl⟩ := List.getLast?_eq_some_iff.mp last
      rw [List.append_assoc, List.singleton_append, segments_append_slash, segments_append_slash]
      exact congrArg (· ++ _) (List.append_nil _).symm
  · rw [List.append_assoc]
    exact segments_append_slash p q

/-- Joining texts is joining the paths that they denote. -/
theorem ofText_joinPaths (hp : p ≠ []) (q : Text) :
    Path.ofText (joinPaths p q) = (Path.ofText p).join (Path.ofText q) := by
  rw [joinPaths_eq_gap]
  by_cases rooted : q.head? = some slash
  · obtain ⟨rest, rfl⟩ := List.head?_eq_some_iff.mp rooted
    have absolute : (Path.ofText (slash :: rest)).isAbsolute = true := by
      rw [← FileSystem.isAbsolute_ofText]
      exact decide_eq_true rooted
    rw [if_pos rooted, Path.join, if_pos absolute]
  · have relative : ¬(Path.ofText q).isAbsolute = true := by
      rw [← FileSystem.isAbsolute_ofText]
      exact fun absolute => rooted (of_decide_eq_true absolute)
    rw [if_neg rooted, Path.join, if_neg relative]
    exact congrArg₂ Path.mk (rootOf_append hp rooted) (segments_append p q)

end Texts

section Matches

/-- How a match may end. -/
def Ends (fs : FileSystem) (t : Text) : Prop :=
  t.getLast? = some slash ∨ EndsInName t ∨ fs.holds t = true

variable (named : fs.Named)
include named

theorem endsInName_of_names {found : List Text} (h : names fs directory onlyDirectories = .ok found)
    (mem : t ∈ found) : EndsInName t := by
  unfold names at h
  split at h
  · next listed =>
    cases h
    obtain ⟨isName, ne_dot, _⟩ := named.of_list listed (List.mem_filter.mp mem).1
    exact endsInName_of_isName isName ne_dot
  · cases h
    cases mem
  · cases h

theorem endsInName_of_deepNames {depth : Nat} {found : List Text}
    (h : deepNames fs onlyDirectories depth directory = .ok found) (mem : t ∈ found) :
    EndsInName t := by
  induction depth generalizing directory found t with
  | zero =>
      cases h
      cases mem
  | succ depth ih =>
      obtain ⟨listed, hlisted, h⟩ := bind_eq_ok h
      obtain ⟨parts, hparts, h⟩ := bind_eq_ok h
      cases h
      obtain ⟨part, hpart, mem⟩ := List.mem_flatten.mp mem
      obtain ⟨name, hname, h⟩ := exists_of_mapM_eq_ok hparts part hpart
      obtain ⟨below, hbelow, h⟩ := bind_eq_ok h
      cases h
      have first := endsInName_of_names named hlisted (List.mem_filter.mp hname).1
      rcases List.mem_cons.mp mem with rfl | mem
      · exact first
      · obtain ⟨later, hlater, rfl⟩ := List.mem_map.mp mem
        have later := ih hbelow hlater
        rw [joinNames_eq first.ne_nil later.ne_nil]
        exact later.joinPaths name

/-- The matches of a name in a directory. -/
theorem ends_of_inDirectory {found : List Text} (hne : directory ≠ [])
    (h : inDirectory fs onlyDirectories directory name = .ok found) (mem : t ∈ found) :
    Ends fs (joinPaths directory t) := by
  unfold inDirectory at h
  split_ifs at h with deep magic empty _ held
  · obtain ⟨below, hbelow, h⟩ := bind_eq_ok h
    cases h
    rcases List.mem_cons.mp mem with rfl | mem
    · exact Or.inl (getLast?_joinPaths_nil hne)
    · exact Or.inr (Or.inl ((endsInName_of_deepNames named hbelow mem).joinPaths directory))
  · obtain ⟨listed, hlisted, h⟩ := bind_eq_ok h
    cases h
    have last := endsInName_of_names named hlisted (List.mem_filter.mp mem).1
    exact Or.inr (Or.inl (last.joinPaths directory))
  · cases h
    obtain rfl := List.mem_singleton.mp mem
    rw [List.isEmpty_iff.mp empty]
    exact Or.inl (getLast?_joinPaths_nil hne)
  · cases h
    cases mem
  · cases h
    obtain rfl := List.mem_singleton.mp mem
    rw [joinNames_eq hne (by simpa using empty)] at held
    exact Or.inr (Or.inr held)
  · cases h
    cases mem

/-- The matches of a name in all directories that the pattern before it matches. -/
theorem ends_of_directories {root : Text} {directories : Except Refusal (List Text)}
    {found : List Text} (hne : root ≠ [])
    (h : (do
      let parts ← (← directories).mapM fun d => do
        return (← inDirectory fs onlyDirectories (joinNames root d) name).map (joinPaths d)
      return parts.flatten) = .ok found) (mem : t ∈ found) : Ends fs (joinPaths root t) := by
  obtain ⟨directories, _, h⟩ := bind_eq_ok h
  obtain ⟨parts, hparts, h⟩ := bind_eq_ok h
  cases h
  obtain ⟨part, hpart, mem⟩ := List.mem_flatten.mp mem
  obtain ⟨d, _, h⟩ := exists_of_mapM_eq_ok hparts part hpart
  obtain ⟨found, hfound, h⟩ := bind_eq_ok h
  cases h
  obtain ⟨last, hlast, rfl⟩ := List.mem_map.mp mem
  rw [joinPaths_joinNames hne]
  exact ends_of_inDirectory named (joinNames_ne_nil hne d) hfound hlast

theorem ends_of_matchesOf {root pattern : Text} {found : List Text} (hne : root ≠ [])
    (h : matchesOf fs root onlyDirectories pattern = .ok found) (mem : t ∈ found) :
    Ends fs (joinPaths root t) := by
  rw [matchesOf] at h
  simp only at h
  split_ifs at h with _ noName _ held
  · cases h
    obtain rfl := List.mem_singleton.mp mem
    exact Or.inl (getLast?_joinPaths_of_splitLast hne (List.isEmpty_iff.mp noName))
  · cases h
    cases mem
  · cases h
    obtain rfl := List.mem_singleton.mp mem
    by_cases nil : t = []
    · rw [nil]
      exact Or.inl (getLast?_joinPaths_nil hne)
    · rw [joinNames_eq hne nil] at held
      exact Or.inr (Or.inr held)
  · cases h
    cases mem
  · exact ends_of_inDirectory named hne h mem
  · exact ends_of_directories named hne h mem
  · exact ends_of_directories named hne h mem
  · exact ends_of_directories named hne h mem

theorem ends_of_expand {root pattern : Text} {found : List Text} (hne : root ≠ [])
    (h : expand fs root pattern = .ok found) (mem : t ∈ found) : Ends fs (joinPaths root t) := by
  obtain ⟨all, hall, h⟩ := bind_eq_ok h
  refine ends_of_matchesOf named hne hall ?_
  split at h
  · split_ifs at h
    · cases h
      exact List.mem_cons_of_mem _ mem
    · cases h
      exact mem
  · cases h
    exact mem

end Matches

end Glob

end SourceLedger
