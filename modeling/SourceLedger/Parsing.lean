import SourceLedger.Grammar.Source
import SourceLedger.ParseOptions
import SourceLedger.Syntax.Serialization
import SourceLedger.Text.Codec

/-!
# Parsing sources

From the text of a source to the tree that is stored for it.
-/

namespace SourceLedger

namespace Parsing

/-- Why there is no tree for a source. -/
inductive Fault
  | syntaxError
  | nullInName
  | nullInSource
  | unencodable (f : Utf8.EncodeFailure)
  | tooDeep
  /-- The version asked for does not fit a machine integer. -/
  | versionOutOfRange
  /-- The tree is too deep to be built at all. -/
  | unbuildable
  /-- A location was asked of a comment that has only a line. -/
  | noColumn
  deriving DecidableEq

/-- What a fault is reported with. The grammar does not say why it refuses a source, so that the
message stops before the reason. -/
def Fault.failure (filename : Text) : Fault → Failure
  | syntaxError => .reported .parse ("Syntax error in " ++ filename)
  | nullInName => cannotParse "embedded null character"
  | nullInSource => cannotParse "source code string cannot contain null bytes"
  | unencodable f => cannotParse f.message
  | tooDeep => .reported .parse ("Syntax tree of " ++ filename ++ " is too deeply nested")
  | versionOutOfRange => .unexpected (.outOfRange "Python int too large to convert to C int")
  | unbuildable => .unexpected .tooDeep
  | noColumn => .unexpected .noMember
where
  cannotParse (why : Text) : Failure :=
    .reported .parse ("Cannot parse " ++ filename ++ ": " ++ why)

private def nul : CodePoint := .scalar '\x00'

/-- A version that is not asked for, or negative, is the newest one. -/
def minorVersion (options : ParseOptions) : Int :=
  match options.minorVersion with
  | some n => if n < 0 then Grammar.newestMinor else n
  | none => Grammar.newestMinor

-- Powers are those of the core library, whatever else is imported.
attribute [local instance (high)] instPowNat

/-- Whether a version fits a machine integer. -/
private def fits (n : Int) : Bool := -2 ^ (31 : Nat) ≤ n && n < 2 ^ (31 : Nat)

/-- What is wrong before a source is read, if anything. -/
def inputFault? (options : ParseOptions) (source filename : Text) : Option Fault :=
  if filename.contains nul then some .nullInName
  else if !options.minorVersion.all fits then some .versionOutOfRange
  else
    match Utf8.encode source with
    | .error f => some (.unencodable f)
    | .ok _ => if source.contains nul then some .nullInSource else none

private theorem fits_eq_false_iff {n : Int} :
    fits n = false ↔ n < -2147483648 ∨ 2147483648 ≤ n := by
  have least : -2 ^ (31 : Nat) = (-2147483648 : Int) := rfl
  have beyond : 2 ^ (31 : Nat) = (2147483648 : Int) := rfl
  rw [fits, least, beyond, Bool.and_eq_false_iff, decide_eq_false_iff_not, decide_eq_false_iff_not]
  omega

/-- What can be wrong before a source is read: of the faults of the options only the version. -/
theorem inputFault?_eq_some {options : ParseOptions} {source filename : Text} {f : Fault}
    (h : inputFault? options source filename = some f) :
    f = .nullInName ∨ (∃ e, f = .unencodable e) ∨ f = .nullInSource ∨
      (f = .versionOutOfRange ∧ CodePoint.scalar '\x00' ∉ filename ∧
        ∃ n, options.minorVersion = some n ∧ (n < -2147483648 ∨ 2147483648 ≤ n)) := by
  unfold inputFault? at h
  split at h
  · exact .inl (Option.some.inj h).symm
  next named =>
  split at h
  · next unfit =>
    cases h
    have named : CodePoint.scalar '\x00' ∉ filename :=
      fun mem => named (List.contains_iff_mem.mpr mem)
    cases asked : options.minorVersion with
    | none =>
      rw [asked] at unfit
      cases unfit
    | some n =>
      rw [asked, Option.all_some, Bool.not_eq_true', fits_eq_false_iff] at unfit
      exact .inr (.inr (.inr ⟨rfl, named, n, rfl, unfit⟩))
  · split at h
    · exact .inr (.inl ⟨_, (Option.some.inj h).symm⟩)
    · split at h
      · exact .inr (.inr (.inl (Option.some.inj h).symm))
      · cases h

/-- A version that does not fit is met before the source is looked at. -/
theorem inputFault?_of_version {options : ParseOptions} {source filename : Text} {n : Int}
    (named : CodePoint.scalar '\x00' ∉ filename) (asked : options.minorVersion = some n)
    (beyond : n < -2147483648 ∨ 2147483648 ≤ n) :
    inputFault? options source filename = some .versionOutOfRange := by
  have named : filename.contains nul ≠ true := fun h => named (List.contains_iff_mem.mp h)
  rw [inputFault?, if_neg named, asked, Option.all_some, fits_eq_false_iff.mpr beyond]
  rfl

def settings (options : ParseOptions) : Grammar.Settings :=
  { minor := minorVersion options, typeComments := options.typeComments }

/-- The syntax tree of a source. -/
def tree (options : ParseOptions) (source filename : Text) : Except Fault Syntax.Module :=
  match inputFault? options source filename with
  | some f => .error f
  | none =>
    match source.toChars?.bind (Grammar.read? (settings options)) with
    | none => .error .syntaxError
    | some m => .ok m

/-- The tree of a source as a value. -/
def parse (options : ParseOptions) (source filename : Text) : Except Fault Value := do
  let m ← tree options source filename
  let o := m.outline
  if Syntax.Outline.maxHeight < o.height then .error .unbuildable
  else if Syntax.Outline.maxDescent < o.descent then .error .tooDeep
  else if options.locations && !m.typeIgnores.isEmpty then .error .noColumn
  else .ok (o.toValue options.locations)

/-- The tree of a source as a value, or the failure that there is none. -/
def attempt (options : ParseOptions) (source filename : Text) : Except Failure Value :=
  (parse options source filename).mapError (·.failure filename)

/-- The file name of a source that is not from a file. -/
def unknownName : Text := "<unknown>"

end Parsing

end SourceLedger
