import SourceLedger.Parsing
import SourceLedger.Proofs.Results

/-!
# What escapes the parser

Nearly everything that can be wrong with a source, its name or the options is reported as a parse
error. Three things are not: a version that does not fit a machine integer, a comment that silences
a line where locations are kept, and a tree that is too deep to be built. The three are exactly
characterised, and each of them is met whenever its condition holds.
-/

namespace SourceLedger

namespace Grammar

/-- Lines are silenced only where comments give types. -/
theorem typeComments_of_read? {settings : Settings} {source : List Char} {m : Syntax.Module}
    (read : read? settings source = some m) (silenced : m.typeIgnores ≠ []) :
    settings.typeComments = true := by
  obtain ⟨⟨tokens, ignores⟩, made, read⟩ := Option.bind_eq_some_iff.mp read
  dsimp only at read
  split at read
  · cases read
    cases wanted : settings.typeComments with
    | true => rfl
    | false => exact absurd (Token.read?_ignores wanted made) silenced
  · cases read

end Grammar

namespace Parsing

variable {options : ParseOptions} {source filename : Text} {m : Syntax.Module} {f : Fault}

/-- What is wrong with the parse of a source and is yet no parse error. -/
inductive Escapes (options : ParseOptions) (source filename : Text) : Unexpected → Prop
  | versionOutOfRange {n : Int} (named : CodePoint.scalar '\x00' ∉ filename)
      (asked : options.minorVersion = some n) (beyond : n < -2147483648 ∨ 2147483648 ≤ n) :
      Escapes options source filename (.outOfRange "Python int too large to convert to C int")
  | silencedLine {m : Syntax.Module} (read : tree options source filename = .ok m)
      (height : m.outline.height ≤ Syntax.Outline.maxHeight)
      (descent : m.outline.descent ≤ Syntax.Outline.maxDescent)
      (located : options.locations = true) (silenced : m.typeIgnores ≠ []) :
      Escapes options source filename .noMember
  | unbuildable {m : Syntax.Module} (read : tree options source filename = .ok m)
      (height : Syntax.Outline.maxHeight < m.outline.height) :
      Escapes options source filename .tooDeep

/-- A source has no tree because of what is wrong before it is read, or because of its syntax. -/
theorem tree_eq_error (h : tree options source filename = .error f) :
    inputFault? options source filename = some f ∨ f = .syntaxError := by
  unfold tree at h
  split at h
  · next fault =>
    cases h
    exact .inl fault
  · split at h <;> cases h
    exact .inr rfl

theorem typeComments_of_tree (read : tree options source filename = .ok m)
    (silenced : m.typeIgnores ≠ []) : options.typeComments = true := by
  unfold tree at read
  split at read
  · cases read
  · split at read
    · cases read
    · next made =>
      cases read
      obtain ⟨chars, _, made⟩ := Option.bind_eq_some_iff.mp made
      exact (Grammar.typeComments_of_read? made silenced : (settings options).typeComments = true)

theorem parse_of_inputFault (h : inputFault? options source filename = some f) :
    parse options source filename = .error f := by
  rw [parse, tree, h]
  rfl

theorem parse_of_tree (read : tree options source filename = .ok m) :
    parse options source filename =
      if Syntax.Outline.maxHeight < m.outline.height then .error .unbuildable
      else if Syntax.Outline.maxDescent < m.outline.descent then .error .tooDeep
      else if options.locations && !m.typeIgnores.isEmpty then .error .noColumn
      else .ok (m.outline.toValue options.locations) := by
  rw [parse, read]
  rfl

/-- Why there is no value of a source: there is no tree, or one of three checks of the tree
fails. -/
theorem parse_eq_error (h : parse options source filename = .error f) :
    tree options source filename = .error f ∨
      ∃ m, tree options source filename = .ok m ∧
        ((f = .unbuildable ∧ Syntax.Outline.maxHeight < m.outline.height) ∨
          f = .tooDeep ∨
          (f = .noColumn ∧ m.outline.height ≤ Syntax.Outline.maxHeight ∧
            m.outline.descent ≤ Syntax.Outline.maxDescent ∧ options.locations = true ∧
            m.typeIgnores ≠ [])) := by
  cases read : tree options source filename with
  | error fault =>
      rw [parse, read] at h
      exact .inl (Except.error.inj h ▸ rfl)
  | ok m =>
      rw [parse_of_tree read] at h
      refine .inr ⟨m, rfl, ?_⟩
      split at h
      · next height =>
        cases h
        exact .inl ⟨rfl, height⟩
      next height =>
      split at h
      · cases h
        exact .inr (.inl rfl)
      next descent =>
      split at h
      · next silenced =>
        cases h
        rw [Bool.and_eq_true, Bool.not_eq_true', List.isEmpty_eq_false_iff] at silenced
        exact .inr (.inr ⟨rfl, Nat.not_lt.mp height, Nat.not_lt.mp descent, silenced⟩)
      · cases h

/-- Whatever is wrong is reported as a parse error, or it escapes. -/
theorem reported_or_escapes (h : parse options source filename = .error f) :
    (∃ message, f.failure filename = .reported .parse message) ∨
      ∃ u, f.failure filename = .unexpected u ∧ Escapes options source filename u := by
  rcases parse_eq_error h with h | ⟨m, read, checks⟩
  · rcases tree_eq_error h with fault | rfl
    · rcases inputFault?_eq_some fault with
        rfl | ⟨e, rfl⟩ | rfl | ⟨rfl, named, n, asked, beyond⟩
      · exact .inl ⟨_, rfl⟩
      · exact .inl ⟨_, rfl⟩
      · exact .inl ⟨_, rfl⟩
      · exact .inr ⟨_, rfl, .versionOutOfRange named asked beyond⟩
    · exact .inl ⟨_, rfl⟩
  · rcases checks with ⟨rfl, height⟩ | rfl | ⟨rfl, height, descent, located, silenced⟩
    · exact .inr ⟨_, rfl, .unbuildable read height⟩
    · exact .inl ⟨_, rfl⟩
    · exact .inr ⟨_, rfl, .silencedLine read height descent located silenced⟩

/-- Nothing that escapes is caught by a later check. -/
theorem Escapes.attempt_eq {u : Unexpected} (h : Escapes options source filename u) :
    attempt options source filename = .error (.unexpected u) := by
  rw [attempt]
  cases h with
  | versionOutOfRange named asked beyond =>
      rw [parse_of_inputFault (inputFault?_of_version named asked beyond)]
      rfl
  | silencedLine read height descent located silenced =>
      rw [parse_of_tree read, if_neg (Nat.not_lt.mpr height), if_neg (Nat.not_lt.mpr descent),
        located, List.isEmpty_eq_false_iff.mpr silenced]
      rfl
  | unbuildable read height =>
      rw [parse_of_tree read, if_pos height]
      rfl

/-- The law of failing parses. A parse gives a tree, or it fails with a parse error, or something
escapes; what escapes is a version that does not fit a machine integer, a silenced line where both
type comments and locations are wanted, or a tree that is too deep to be built, and each of them
escapes wherever it is met. -/
theorem attempt_fails_iff (options : ParseOptions) (source filename : Text) :
    (∀ kind message, attempt options source filename = .error (.reported kind message) →
      kind = .parse) ∧
    (∀ u, attempt options source filename = .error (.unexpected u) ↔
      Escapes options source filename u) ∧
    (Escapes options source filename .noMember →
      options.locations = true ∧ options.typeComments = true) := by
  have failed {failure : Failure} (h : attempt options source filename = .error failure) :
      (∃ message, failure = .reported .parse message) ∨
        ∃ u, failure = .unexpected u ∧ Escapes options source filename u := by
    rw [attempt] at h
    cases parsed : parse options source filename with
    | ok v =>
        rw [parsed] at h
        cases h
    | error f =>
        rw [parsed] at h
        cases h
        exact reported_or_escapes parsed
  refine ⟨fun kind message h => ?_, fun u => ⟨fun h => ?_, Escapes.attempt_eq⟩, fun h => ?_⟩
  · obtain ⟨_, heq⟩ | ⟨_, heq, _⟩ := failed h
    · cases heq
      rfl
    · cases heq
  · obtain ⟨_, heq⟩ | ⟨_, heq, escapes⟩ := failed h
    · cases heq
    · cases heq
      exact escapes
  · cases h with
    | silencedLine read _ _ located silenced => exact ⟨located, typeComments_of_tree read silenced⟩

section Examples

/-- Options that are accepted let failures escape: a version that is too great, and a comment that
silences its line where locations are kept. -/
theorem accepted_options_escape :
    let kindOfFailure? (given : Value.Table) (source : Text) : Option Text :=
      match ParseOptions.ofValue (.table given) with
      | .ok options =>
        match attempt options source unknownName with
        | .ok _ => none
        | .error f => some f.kindName
      | .error _ => none
    kindOfFailure? [(ParseOptions.versionKey, .list [.int 3, .int 2147483648])] "x\n" =
        some "OverflowError" ∧
      kindOfFailure? [(ParseOptions.typeCommentsKey, .bool true),
        (ParseOptions.locationsKey, .bool true)] "x  # type: ignore\n" =
        some "AttributeError" := by
  decide +kernel

end Examples

end Parsing

end SourceLedger
