import SourceLedger.Proofs.Path

/-!
# Paths that the system takes

Before a path is followed at all, it must be one that can be handed to the system: its code points
stand for bytes, it is not empty and it is not too long. What its names and slashes amount to
decides both, so that a path with fewer names is taken where a longer one is.
-/

namespace SourceLedger

/-- A path that the system can be asked about: each of its surrogates stands for a byte, and there
is no NUL in it. -/
def IsOsPath (path : Text) : Prop :=
  ∀ c ∈ path, FileName.standsForByte c = true ∧ c ≠ .scalar '\x00'

instance (path : Text) : Decidable (IsOsPath path) := List.decidableBAll _ _

namespace IsOsPath

variable {path : Text}

theorem surrogatesBefore (h : IsOsPath path) :
    ∀ c ∈ Route.surrogatesBefore path, FileName.standsForByte c = true := by
  induction path with
  | nil => exact nofun
  | cons c rest ih =>
      obtain ⟨first, others⟩ := List.forall_mem_cons.mp h
      cases c with
      | scalar => exact nofun
      | surrogate => exact List.forall_mem_cons.mpr ⟨first.1, ih others⟩

theorem strayRun? (h : IsOsPath path) (position : Nat) (afterSurrogate : Bool) :
    Route.strayRun? position afterSurrogate path = none := by
  induction path generalizing position afterSurrogate with
  | nil => rfl
  | cons c rest ih =>
      have others := (List.forall_mem_cons.mp h).2
      cases c with
      | scalar => exact ih others _ _
      | surrogate i =>
          have stands : (.surrogate i :: Route.surrogatesBefore rest : Text).any
              (fun c => !FileName.standsForByte c) = false := by
            rw [List.any_eq_false]
            intro c mem
            rw [h.surrogatesBefore c mem]
            exact Bool.noConfusion
          rw [Route.strayRun?]
          simp only [stands, Bool.and_false, Bool.false_eq_true, if_false]
          exact ih others _ _

/-- Where no surrogate is found astray, all code points stand for bytes. Behind a surrogate only
the rest of the run that it is in has been looked at before. -/
theorem of_strayRun? {position : Nat} {afterSurrogate : Bool}
    (none : Route.strayRun? position afterSurrogate path = none)
    (looked : afterSurrogate = true →
      ∀ c ∈ Route.surrogatesBefore path, FileName.standsForByte c = true) :
    ∀ c ∈ path, FileName.standsForByte c = true := by
  induction path generalizing position afterSurrogate with
  | nil => exact nofun
  | cons c rest ih =>
      cases c with
      | scalar => exact List.forall_mem_cons.mpr ⟨rfl, ih none nofun⟩
      | surrogate i =>
          rw [Route.strayRun?] at none
          split_ifs at none with stray
          have run : ∀ c ∈ (.surrogate i :: Route.surrogatesBefore rest : Text),
              FileName.standsForByte c = true := by
            cases afterSurrogate with
            | true => exact looked rfl
            | false => simpa using stray
          rw [List.forall_mem_cons] at run
          exact List.forall_mem_cons.mpr ⟨run.1, ih none fun _ => run.2⟩

theorem check_eq_ok_iff {route : Route} : Route.check path = .ok route ↔
    (IsOsPath path ∧ path ≠ [] ∧ FileName.byteLength path ≤ Route.maxLength) ∧
      route = Route.ofText path := by
  constructor
  · intro h
    unfold Route.check at h
    split at h
    · cases h
    · next none =>
      split_ifs at h with null empty long
      cases h
      refine ⟨⟨fun c mem => ⟨of_strayRun? none nofun c mem, ?_⟩, ?_, Nat.not_lt.mp long⟩, rfl⟩
      · rintro rfl
        exact null (List.contains_iff_mem.mpr mem)
      · rintro rfl
        exact empty rfl
  · rintro ⟨⟨isOsPath, ne_nil, short⟩, rfl⟩
    have noNull : path.contains (.scalar '\x00') = false := by
      rw [List.contains_eq_mem, decide_eq_false_iff_not]
      exact fun mem => (isOsPath _ mem).2 rfl
    rw [Route.check, isOsPath.strayRun?, noNull]
    simp [ne_nil, Nat.not_lt.mpr short]

/-- All that the system refuses about such a path, it refuses for a reason of its own. -/
theorem check_eq_error (h : IsOsPath path) {r : Refusal} (refused : Route.check path = .error r) :
    ∃ e, r = .system e := by
  have noNull : path.contains (.scalar '\x00') = false := by
    rw [List.contains_eq_mem, decide_eq_false_iff_not]
    exact fun mem => (h _ mem).2 rfl
  rw [Route.check, h.strayRun?, noNull] at refused
  simp only [Bool.false_eq_true, if_false] at refused
  split_ifs at refused
  · exact ⟨_, (Except.error.inj refused).symm⟩
  · exact ⟨_, (Except.error.inj refused).symm⟩

end IsOsPath

namespace Text

theorem join_singleton (s piece : Text) : join s [piece] = piece := by
  simp [join]

theorem join_cons_cons (s piece next : Text) (later : List Text) :
    join s (piece :: next :: later) = piece ++ s ++ join s (next :: later) := by
  rw [join, join, List.intercalate_cons_of_ne_nil (List.cons_ne_nil next later)]

/-- The pieces of a text are what it is joined from. -/
theorem join_splitOn (c : CodePoint) (t : Text) : join [c] (splitOn c t) = t := by
  induction t with
  | nil => rfl
  | cons first rest ih =>
      rw [splitOn]
      cases pieces : splitOn c rest with
      | nil => exact absurd pieces (splitOn_ne_nil c rest)
      | cons piece pieces' =>
          rw [pieces] at ih
          simp only
          split_ifs with same
          · rw [join_cons_cons, same, ih]
            rfl
          · cases pieces' with
            | nil => exact congrArg (first :: ·) ih
            | cons => exact congrArg (first :: ·) ih

end Text

open Path

theorem isOsPath_append {s t : Text} : IsOsPath (s ++ t) ↔ IsOsPath s ∧ IsOsPath t :=
  List.forall_mem_append

theorem isOsPath_join {pieces : List Text} :
    IsOsPath (Text.join "/" pieces) ↔ ∀ s ∈ pieces, IsOsPath s := by
  have separator : IsOsPath "/" := by decide
  induction pieces with
  | nil => exact iff_of_true nofun nofun
  | cons piece pieces ih =>
      rw [List.forall_mem_cons]
      refine Iff.trans ?_ (and_congr_right' ih)
      cases pieces with
      | nil =>
          have nothing : IsOsPath (Text.join "/" []) := nofun
          rw [Text.join_singleton, and_iff_left nothing]
      | cons next later =>
          rw [Text.join_cons_cons, isOsPath_append, isOsPath_append, and_iff_left separator]

theorem isOsPath_splitOn {t : Text} : IsOsPath t ↔ ∀ s ∈ Text.splitOn slash t, IsOsPath s := by
  rw [← isOsPath_join]
  exact Iff.of_eq (congrArg IsOsPath (Text.join_splitOn slash t).symm)

/-- Only the segments of a path decide whether all of it can be handed to the system. -/
theorem isOsPath_iff_segments {t : Text} : IsOsPath t ↔ ∀ s ∈ (ofText t).segments, IsOsPath s := by
  rw [isOsPath_splitOn]
  constructor
  · exact fun h s mem => h s (List.mem_filter.mp mem).1
  · intro h s mem
    by_cases nil : s = []
    · subst nil
      exact nofun
    by_cases isDot : s = dot
    · subst isDot
      decide
    · exact h s (List.mem_filter.mpr ⟨mem, by simp [nil, isDot]⟩)

theorem toText_of_isAbsolute {p : Path} (absolute : p.isAbsolute = true) :
    p.toText = rootText p.root ++ Text.join "/" p.segments := by
  obtain ⟨root, segments⟩ := p
  cases root with
  | relative => cases absolute
  | single | double => rfl

theorem isOsPath_toText {p : Path} (absolute : p.isAbsolute = true) :
    IsOsPath p.toText ↔ ∀ s ∈ p.segments, IsOsPath s := by
  have root : IsOsPath (rootText p.root) := by cases p.root <;> decide
  rw [toText_of_isAbsolute absolute, isOsPath_append, isOsPath_join]
  exact and_iff_right root

namespace FileName

theorem byteLength_append (s t : Text) : byteLength (s ++ t) = byteLength s + byteLength t := by
  induction s with
  | nil => exact (Nat.zero_add _).symm
  | cons c s ih => cases c <;> simp only [List.cons_append, byteLength, ih, Nat.add_assoc]

/-- What names take, each with a slash. -/
def roomFor : List Text → Nat
  | [] => 0
  | name :: rest => byteLength name + 1 + roomFor rest

theorem roomFor_le {names more : List Text} (h : names.Sublist more) :
    roomFor names ≤ roomFor more := by
  induction h with
  | slnil => exact Nat.le_refl _
  | cons name _ ih => exact Nat.le_trans ih (Nat.le_add_left _ _)
  | cons_cons name _ ih => exact Nat.add_le_add_left ih _

theorem byteLength_join (names : List Text) :
    byteLength (Text.join "/" names) = roomFor names - 1 := by
  have slash : byteLength "/" = 1 := rfl
  induction names with
  | nil => rfl
  | cons name names ih =>
      cases names with
      | nil => simp [Text.join, roomFor]
      | cons next later =>
          have room : roomFor (name :: next :: later) =
              byteLength name + 1 + roomFor (next :: later) := rfl
          have some : 1 ≤ roomFor (next :: later) := by
            simp [roomFor]
            omega
          rw [Text.join_cons_cons, byteLength_append, byteLength_append, ih, slash, room]
          omega

/-- A text has room for the names in it, but for a slash. -/
theorem roomFor_splitOn (t : Text) : roomFor (Text.splitOn slash t) = byteLength t + 1 := by
  have whole := byteLength_join (Text.splitOn slash t)
  rw [show Text.join "/" (Text.splitOn slash t) = t from Text.join_splitOn slash t] at whole
  have some : 1 ≤ roomFor (Text.splitOn slash t) := by
    cases pieces : Text.splitOn slash t with
    | nil => exact absurd pieces (Text.splitOn_ne_nil slash t)
    | cons piece pieces =>
        simp [roomFor]
        omega
  omega

theorem byteLength_slash (t : Text) : byteLength (slash :: t) = 1 + byteLength t := rfl

theorem segments_slash (t : Text) : (ofText (slash :: t)).segments = (ofText t).segments := by
  have split : Text.splitOn slash (slash :: t) = [] :: Text.splitOn slash t :=
    Text.splitOn_append_cons [] t
  rw [ofText, split]
  rfl

/-- A path from a root that is made of names in a text is not longer than the text. -/
theorem byteLength_toText_le {t : Text} {segments : List Text}
    (absolute : (ofText t).isAbsolute = true) (sub : segments.Sublist (ofText t).segments) :
    byteLength (toText ⟨(ofText t).root, segments⟩) ≤ byteLength t := by
  have room (u : Text) (h : segments.Sublist (ofText u).segments) :
      roomFor segments ≤ byteLength u + 1 := by
    rw [← roomFor_splitOn]
    exact roomFor_le (h.trans List.filter_sublist)
  have single (u : Text) (same : t = slash :: u) :
      byteLength (rootText .single) + (roomFor segments - 1) ≤ byteLength t := by
    subst same
    have := room u (segments_slash u ▸ sub)
    have one : byteLength (rootText .single) = 1 := rfl
    rw [byteLength_slash]
    omega
  rw [toText_of_isAbsolute (p := ⟨_, segments⟩) absolute, byteLength_append, byteLength_join]
  change byteLength (rootText (rootOf t)) + (roomFor segments - 1) ≤ _
  change (rootOf t != .relative) = true at absolute
  unfold rootOf at absolute ⊢
  split at absolute
  · exact single _ rfl
  · next u _ =>
    have := room u (segments_slash u ▸ segments_slash (slash :: u) ▸ sub)
    have two : byteLength (rootText .double) = 2 := rfl
    change byteLength (rootText .double) + _ ≤ byteLength (slash :: slash :: u)
    rw [byteLength_slash, byteLength_slash]
    omega
  · exact single _ rfl
  · cases absolute

end FileName

end SourceLedger
