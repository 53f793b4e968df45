import SourceLedger.Proofs.Binary64.Rounding
import SourceLedger.Proofs.FileSystem.Admission
import SourceLedger.Proofs.ParseOptions
import SourceLedger.Proofs.Path
import SourceLedger.Proofs.Text.Integer

/-!
# The language of parse options

Parse options are written as a table with known keys, flags that are boolean and a version such as
`"3.8"` or `[3, 8]`. Every table that is written in this way is accepted. But the parts of a version
are read as integers are read of any text, and a real number is cut to one, so that more is
accepted: `Accepts` says what. What is not accepted is reported, with one exception: an infinite
number cannot be cut, and nothing looks out for that.
-/

namespace SourceLedger.ParseOptions

open Numeral (Denotes digitChar)

variable {v : Value} {n : ℤ} {m : Option ℤ} {es : Value.Table} {o : ParseOptions} {f : Fault}

/-- A value stands for an integer: it is one, it is a text of one, or a real number that is cut
down to one. -/
inductive Stands : Value → ℤ → Prop
  | int (n : ℤ) : Stands (.int n) n
  | text {t : Text} {n : ℤ} (denotes : Denotes t n) : Stands (.text t) n
  | real (negative : Bool) {m : ℕ} {e : ℤ} (h : Binary64.Canonical m e) :
      Stands (.real (.finite negative m e h))
        (if negative then -⌊(m : ℚ) * 2 ^ e⌋ else ⌊(m : ℚ) * 2 ^ e⌋)

/-- The versions that are accepted, with the minor one. -/
inductive Accepts : Value → Option ℤ → Prop
  | none : Accepts .null none
  | text {major minor : Text} {n : ℤ} (three : Denotes major 3) (part : Denotes minor n) :
      Accepts (.text (major ++ .scalar '.' :: minor)) (some n)
  | list {major minor : Value} {n : ℤ} (three : Stands major 3) (part : Stands minor n) :
      Accepts (.list [major, minor]) (some n)

/-- Digits and nothing else, not too many to be read. -/
inductive Decimal : Text → ℕ → Prop
  | intro {ds : List ℕ} (some : ds ≠ []) (lt : ∀ d ∈ ds, d < 10)
      (few : ds.length ≤ Numeral.maxDigits) :
      Decimal (Text.ofChars (ds.map digitChar)) (Numeral.value 10 ds)

/-- The versions that are documented: `3.` and digits, or a list of a 3 and a number, each of
which may be written as digits in a text. -/
inductive Documents : Value → Option ℤ → Prop
  | none : Documents .null none
  | text {minor : Text} {n : ℕ} (part : Decimal minor n) :
      Documents (.text (.scalar '3' :: .scalar '.' :: minor)) (some n)
  | list {major minor : Value} {n : ℕ} (three : major = .int 3 ∨ major = .text "3")
      (part : minor = .int n ∨ ∃ t, minor = .text t ∧ Decimal t n) :
      Documents (.list [major, minor]) (some n)

/-- Options that are given in a language of versions. -/
inductive Given (versions : Value → Option ℤ → Prop) : Value → ParseOptions → Prop
  | absent : Given versions .null default
  | table {es : Value.Table} {o : ParseOptions} (known : ∀ key ∈ Entries.keys es, key ∈ knownKeys)
      (version : versions ((Entries.get? es versionKey).getD .null) o.minorVersion)
      (typeComments : (Entries.get? es typeCommentsKey).getD (.bool false) = .bool o.typeComments)
      (locations : (Entries.get? es locationsKey).getD (.bool false) = .bool o.locations) :
      Given versions (.table es) o

section Accepted

theorem isPart_iff : IsPart v n ↔ Stands v n := by
  constructor
  · intro part
    cases part with
    | int => exact .int _
    | text reads => exact .text (Numeral.ofText?_eq_some_iff.mp reads)
    | @real x _ cuts =>
        cases x with
        | nan => cases cuts
        | infinite => cases cuts
        | finite negative m e h =>
            rw [Binary64.truncate?_finite] at cuts
            cases cuts
            exact .real negative h
  · intro stands
    cases stands with
    | int => exact .int _
    | text denotes => exact .text (Numeral.ofText?_eq_some_iff.mpr denotes)
    | real negative h => exact .real (Binary64.truncate?_finite negative h)

theorem asks_iff : Asks v m ↔ Accepts v m := by
  constructor
  · intro asks
    cases asks with
    | none => exact .none
    | @text t major minor n parts three part =>
        have whole := Text.join_splitOn (.scalar '.') t
        rw [parts, Text.join_cons_cons, Text.join_singleton, List.append_assoc] at whole
        have three := isPart_iff.mp three
        have part := isPart_iff.mp part
        cases three with
        | text three =>
            cases part with
            | text part => exact whole ▸ .text three part
    | list three part => exact .list (isPart_iff.mp three) (isPart_iff.mp part)
  · intro accepts
    cases accepts with
    | none => exact .none
    | @text major minor n three part =>
        have parts : Text.splitOn (.scalar '.') (major ++ .scalar '.' :: minor) =
            [major, minor] := by
          rw [Text.splitOn_append_cons, Text.splitOn_of_notMem three.notMem_point,
            Text.splitOn_of_notMem part.notMem_point, List.singleton_append]
        exact .text parts (isPart_iff.mpr (.text three)) (isPart_iff.mpr (.text part))
    | list three part => exact .list (isPart_iff.mpr three) (isPart_iff.mpr part)

theorem given_iff {t : Value.Table} : Given Accepts (.table t) o ↔ o.GivenBy t := by
  constructor
  · intro given
    cases given with
    | table known version typeComments locations =>
        exact ⟨known, asks_iff.mpr version, typeComments, locations⟩
  · intro given
    exact .table given.known (asks_iff.mp given.version) given.typeComments given.locations

/-- What is accepted, and the options that it gives. -/
theorem ofValue_eq_ok_iff : ofValue v = .ok o ↔ Given Accepts v o := by
  cases v with
  | null =>
      constructor
      · intro h
        cases h
        exact .absent
      · intro given
        cases given
        rfl
  | table t => exact ofValue_table_iff.trans given_iff.symm
  | bool | int | real | text | moment | list => exact iff_of_false nofun nofun

end Accepted

section Documented

theorem Decimal.denotes {t : Text} {n : ℕ} (h : Decimal t n) : Denotes t n := by
  obtain ⟨some, lt, few⟩ := h
  exact Numeral.denotes_digits some lt few

theorem denotes_three : Denotes "3" 3 := by
  have few : [3].length ≤ Numeral.maxDigits := by decide
  exact Numeral.denotes_digits (List.cons_ne_nil 3 []) (by decide) few

theorem Documents.accepts (h : Documents v m) : Accepts v m := by
  cases h with
  | none => exact .none
  | text part => exact .text denotes_three part.denotes
  | @list major minor n three part =>
      refine .list ?_ ?_
      · rcases three with rfl | rfl
        · exact .int 3
        · exact .text denotes_three
      · rcases part with rfl | ⟨t, rfl, part⟩
        · exact .int n
        · exact .text part.denotes

theorem Given.mono {versions versions' : Value → Option ℤ → Prop}
    (weaker : ∀ v m, versions v m → versions' v m) (h : Given versions v o) :
    Given versions' v o := by
  cases h with
  | absent => exact .absent
  | table known version typeComments locations =>
      exact .table known (weaker _ _ version) typeComments locations

end Documented

/-- A version with an infinite number in a place where it is cut: the first part, or the second
behind one that stands for an integer. -/
inductive Overflows : Value → Prop
  | major {negative : Bool} {minor : Value} (other : ∀ b, minor ≠ .bool b) :
      Overflows (.list [.real (.infinite negative), minor])
  | minor {negative : Bool} {major : Value} {n : ℤ} (stands : Stands major n) :
      Overflows (.list [major, .real (.infinite negative)])

section Refused

theorem versionPart_eq_infinite (h : versionPart v = .error .versionInfinite) :
    ∃ negative, v = .real (.infinite negative) := by
  unfold versionPart at h
  split at h
  · cases h
  · split at h <;> cases h
  · next x =>
    cases x with
    | infinite negative => exact ⟨negative, rfl⟩
    | nan => cases h
    | finite => cases h
  · cases h

/-- The parts of a list are not boolean. -/
theorem versionParts_list_eq_ok {major minor first second : Value}
    (h : versionParts (.list [major, minor]) = .ok (first, second)) : ∀ b, minor ≠ .bool b := by
  rintro b rfl
  cases major <;> cases h

theorem versionParts_ne_infinite : versionParts v ≠ .error .versionInfinite := by
  intro h
  unfold versionParts at h
  dsimp only at h
  split at h
  · split_ifs at h
    cases h
  · cases h

/-- An infinite number is met in the first part, or in the second behind a first that is read. -/
theorem overflows_of_version (h : version v = .error .versionInfinite) : Overflows v := by
  unfold version at h
  split at h
  · cases h
  · rcases bind_eq_error h with parts | ⟨⟨major, minor⟩, parts, h⟩
    · exact absurd parts versionParts_ne_infinite
    · rcases bind_eq_error h with first | ⟨m, first, h⟩
      · obtain ⟨negative, rfl⟩ := versionPart_eq_infinite first
        rcases versionParts_eq_ok parts with ⟨_, _, _, _, _, text, _⟩ | rfl
        · cases text
        · exact .major (versionParts_list_eq_ok parts)
      · rcases bind_eq_error h with second | ⟨n, second, h⟩
        · obtain ⟨negative, rfl⟩ := versionPart_eq_infinite second
          rcases versionParts_eq_ok parts with ⟨_, _, _, _, _, _, text⟩ | rfl
          · cases text
          · exact .minor (isPart_iff.mp (versionPart_eq_ok_iff.mp first))
        · split_ifs at h
          cases h

theorem Overflows.version_eq (overflows : Overflows v) : version v = .error .versionInfinite := by
  cases overflows with
  | @major negative minor other =>
      have parts : versionParts (.list [.real (.infinite negative), minor]) =
          .ok (.real (.infinite negative), minor) := by
        cases minor with
        | bool b => exact absurd rfl (other b)
        | _ => rfl
      rw [version, parts]
      · rfl
      · nofun
  | @minor negative major n stands =>
      have parts : versionParts (.list [major, .real (.infinite negative)]) =
          .ok (major, .real (.infinite negative)) := by
        cases stands <;> rfl
      have first : versionPart major = .ok n := versionPart_eq_ok_iff.mpr (isPart_iff.mpr stands)
      rw [version, parts]
      · show (versionPart major >>= _) = _
        rw [first]
        rfl
      · nofun

theorem version_eq_infinite_iff : version v = .error .versionInfinite ↔ Overflows v :=
  ⟨overflows_of_version, Overflows.version_eq⟩

theorem flag_ne_infinite {key : Text} : flag es key ≠ .error .versionInfinite := by
  intro h
  unfold flag at h
  split at h <;> cases h

/-- Only a version can fail unexpectedly, and only in a table in which all keys are known. -/
theorem ofValue_eq_infinite_iff : ofValue v = .error .versionInfinite ↔
    ∃ es, v = .table es ∧ (∀ key ∈ Entries.keys es, key ∈ knownKeys) ∧
      Overflows ((Entries.get? es versionKey).getD .null) := by
  constructor
  · intro h
    cases v with
    | table es =>
        rw [ofValue] at h
        split_ifs at h with unknown
        · cases h
        · have known := unknown_isEmpty_iff.mp (by simpa using unknown)
          rcases bind_eq_error h with version | ⟨_, _, h⟩
          · exact ⟨es, rfl, known, version_eq_infinite_iff.mp version⟩
          · rcases bind_eq_error h with flag | ⟨_, _, h⟩
            · exact absurd flag flag_ne_infinite
            · rcases bind_eq_error h with flag | ⟨_, _, h⟩
              · exact absurd flag flag_ne_infinite
              · cases h
    | _ => cases h
  · rintro ⟨es, rfl, known, overflows⟩
    rw [ofValue, unknown_isEmpty_iff.mpr known, version_eq_infinite_iff.mpr overflows]
    rfl

/-- What is refused is reported, or it is an infinite number that cannot be cut. -/
theorem failure_cases (f : Fault) :
    (∃ message, f.failure = .reported .config message) ∨ f = .versionInfinite := by
  cases f with
  | versionInfinite => exact Or.inr rfl
  | notTable | unknown | versionShape | versionMajor | notBoolean => exact Or.inl ⟨_, rfl⟩

end Refused

/-- Parse options are given in the language that is accepted and in no other, and then they are the
ones that it gives; whatever is written as documented is accepted. All else is reported, but for
versions with an infinite number, of which the failure is unexpected. -/
theorem options_language (v : Value) :
    (∀ o, ofValue v = .ok o ↔ Given Accepts v o) ∧
    (∀ o, Given Documents v o → ofValue v = .ok o) ∧
    (∀ f, ofValue v = .error f →
      (∃ message, f.failure = .reported .config message) ∨ f = .versionInfinite) ∧
    (ofValue v = .error .versionInfinite ↔
      ∃ es, v = .table es ∧ (∀ key ∈ Entries.keys es, key ∈ knownKeys) ∧
        Overflows ((Entries.get? es versionKey).getD .null)) := by
  refine ⟨fun _ => ofValue_eq_ok_iff, ?_, fun f _ => failure_cases f, ofValue_eq_infinite_iff⟩
  intro o given
  exact ofValue_eq_ok_iff.mpr (given.mono fun _ _ => Documents.accepts)

section Examples

-- Of the ASCII characters only tabs, breaks and spaces may stand around a part of a version; the
-- separators are blanks elsewhere in Unicode, but not here.
example : (["3.\t8 ", "\u001F3.8", "3.8\u001C"] : List Text).map (fun t => version (.text t)) =
    [.ok (some 8), .error .versionShape, .error .versionShape] := by
  decide +kernel

/-- A table that asks for a version, and for nothing else. -/
private def versioned (version : Value) : Value := .table [(versionKey, version)]

private theorem known_versioned (version : Value) :
    ∀ key ∈ Entries.keys [(versionKey, version)], key ∈ knownKeys := by
  simp [Entries.keys, knownKeys]

private theorem given_versioned {versions : Value → Option ℤ → Prop} {version : Value}
    (asked : versions version m) : Given versions (versioned version) ⟨m, false, false⟩ :=
  .table (known_versioned version) asked rfl rfl

/-- A version as it is documented, one with blanks, a plus and an underscore, one that is no version
at all, and one with an infinite number. -/
theorem options_language_versions :
    let documented : Value := .list [.int 3, .text "08"]
    let loose : Value := .text " 3.+1_0"
    let wrong : Value := .text "three"
    let infinite : Value := .list [.int 3, .real (.infinite false)]
    (Documents documented (some 8) ∧ ofValue (versioned documented) = .ok ⟨some 8, false, false⟩) ∧
    (Accepts loose (some 10) ∧ ofValue (versioned loose) = .ok ⟨some 10, false, false⟩) ∧
    (∃ f message, ofValue (versioned wrong) = .error f ∧ f.failure = .reported .config message) ∧
    (Overflows infinite ∧ ofValue (versioned infinite) = .error .versionInfinite) := by
  intro documented loose wrong infinite
  have few : [0, 8].length ≤ Numeral.maxDigits := by decide
  have documents : Documents documented (some 8) :=
    .list (Or.inl rfl) (Or.inr ⟨_, rfl, .intro (List.cons_ne_nil 0 [8]) (by decide) few⟩)
  have major : Denotes ([.scalar ' '] ++ ([] ++ [.scalar '3']) ++ []) (Numeral.signed false [3]) :=
    .intro (by decide) .none (.last (by decide)) (by decide) nofun
  have minor : Denotes ([] ++ ([.scalar '+'] ++ [.scalar '1', .scalar '_', .scalar '0']) ++ [])
      (Numeral.signed false [1, 0]) :=
    .intro nofun .plus (.group (by decide) (.last (by decide))) (by decide) nofun
  have accepts : Accepts loose (some 10) := .text major minor
  have overflows : Overflows infinite := .minor (.int 3)
  have refused : ofValue (versioned wrong) = .error .versionShape := by decide +kernel
  refine ⟨⟨documents, ?_⟩, ⟨accepts, ?_⟩, ?_, overflows, ?_⟩
  · exact (options_language (versioned documented)).2.1 _ (given_versioned documents)
  · exact ((options_language (versioned loose)).1 _).mpr (given_versioned accepts)
  · rcases (options_language (versioned wrong)).2.2.1 _ refused with ⟨message, reported⟩ | infinite
    · exact ⟨_, message, refused, reported⟩
    · cases infinite
  · exact (options_language (versioned infinite)).2.2.2.mpr
      ⟨_, rfl, known_versioned infinite, overflows⟩

/-- A real number is no documented part of a version. -/
private theorem not_documents_real {x : Binary64} : ¬Documents (.list [.int 3, .real x]) m := by
  intro documents
  cases documents with
  | list _ part => rcases part with whole | ⟨_, text, _⟩ <;> contradiction

/-- A minus is no digit. -/
private theorem not_documents_minus {rest : Text} :
    ¬Documents (.text (.scalar '3' :: .scalar '.' :: .scalar '-' :: rest)) m := by
  have noDigit : ∀ d < 10, digitChar d ≠ '-' := by decide
  intro documents
  cases documents with
  | @text minor n part =>
      generalize same : CodePoint.scalar '-' :: rest = minor at part
      obtain ⟨some, lt, _⟩ := part
      obtain ⟨d, ds, rfl⟩ := List.exists_cons_of_ne_nil some
      have first := (List.cons.inj same).1
      exact noDigit d (lt d List.mem_cons_self) (CodePoint.scalar.inj first).symm

/-- Numbers that are not whole and negative numbers are accepted, neither of which is documented,
and an infinite one fails with an error that is not reported. -/
theorem undocumented_versions :
    let cut : Value := .list [.int 3, .real (.ofDecimal false 89 (-1))]
    let negative : Value := .text "3.-1"
    let infinite : Value := .list [.int 3, .real (.infinite false)]
    (ofValue (versioned cut) = .ok ⟨some 8, false, false⟩ ∧ ∀ m, ¬Documents cut m) ∧
    (ofValue (versioned negative) = .ok ⟨some (-1), false, false⟩ ∧ ∀ m, ¬Documents negative m) ∧
    ∃ u, (ofValue (versioned infinite)).mapError Fault.failure = .error (.unexpected u) := by
  intro cut negative infinite
  have cuts : ofValue (versioned cut) = .ok ⟨some 8, false, false⟩ := by decide +kernel
  have reads : ofValue (versioned negative) = .ok ⟨some (-1), false, false⟩ := by decide +kernel
  exact ⟨⟨cuts, fun _ => not_documents_real⟩, ⟨reads, fun _ => not_documents_minus⟩, _, rfl⟩

end Examples

end SourceLedger.ParseOptions
