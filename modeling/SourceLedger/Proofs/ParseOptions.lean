import SourceLedger.ParseOptions
import SourceLedger.Proofs.Entries
import SourceLedger.Proofs.Results

/-!
# Which tables give parse options

A table gives parse options if all of its keys are known, the version that it asks for has two parts
of which the first is a 3, and its flags are boolean. These are the tables that are accepted where
trees are made.
-/

namespace SourceLedger.ParseOptions

variable {v : Value} {n : Int} {es : Value.Table} {key : Text} {b : Bool} {o : ParseOptions}

/-- A part of a version stands for an integer. -/
inductive IsPart : Value → Int → Prop
  | int (n : Int) : IsPart (.int n) n
  | text {t : Text} {n : Int} (reads : Numeral.ofText? t = some n) : IsPart (.text t) n
  | real {x : Binary64} {n : Int} (cuts : x.truncate? = some n) : IsPart (.real x) n

/-- A value asks for a minor version, or for none. -/
inductive Asks : Value → Option Int → Prop
  | none : Asks .null none
  | text {t major minor : Text} {n : Int} (parts : Text.splitOn (.scalar '.') t = [major, minor])
      (three : IsPart (.text major) 3) (part : IsPart (.text minor) n) : Asks (.text t) (some n)
  | list {major minor : Value} {n : Int} (three : IsPart major 3) (part : IsPart minor n) :
      Asks (.list [major, minor]) (some n)

/-- A table gives options. What it leaves out is as by default. -/
structure GivenBy (es : Value.Table) (o : ParseOptions) : Prop where
  known : ∀ key ∈ Entries.keys es, key ∈ knownKeys
  version : Asks ((Entries.get? es versionKey).getD .null) o.minorVersion
  typeComments : (Entries.get? es typeCommentsKey).getD (.bool false) = .bool o.typeComments
  locations : (Entries.get? es locationsKey).getD (.bool false) = .bool o.locations

theorem versionPart_eq_ok_iff : versionPart v = .ok n ↔ IsPart v n := by
  constructor
  · intro h
    unfold versionPart at h
    split at h
    · cases h
      exact .int n
    · split at h
      · next reads =>
        cases h
        exact .text reads
      · cases h
    · split at h
      · cases h
      · split at h
        · next cuts =>
          cases h
          exact .real cuts
        · cases h
    · cases h
  · intro part
    cases part with
    | int => rfl
    | text reads => simp only [versionPart, reads]
    | @real x _ cuts =>
        cases x with
        | infinite => cases cuts
        | finite | nan => simp only [versionPart, cuts]

theorem versionParts_eq_ok {first second : Value} (h : versionParts v = .ok (first, second)) :
    (∃ t major minor, v = .text t ∧ Text.splitOn (.scalar '.') t = [major, minor] ∧
      first = .text major ∧ second = .text minor) ∨ v = .list [first, second] := by
  unfold versionParts at h
  dsimp only at h
  split at h
  · next parts =>
    split_ifs at h
    cases h
    split at parts
    · next t =>
      obtain ⟨major, later, both, rfl, one⟩ := List.map_eq_cons_iff.mp parts
      obtain ⟨minor, none, rfl, rfl, nil⟩ := List.map_eq_cons_iff.mp one
      obtain rfl := List.map_eq_nil_iff.mp nil
      exact Or.inl ⟨t, major, minor, rfl, both, rfl, rfl⟩
    · exact Or.inr (congrArg Value.list parts)
    · cases parts
  · cases h

theorem versionParts_text {t major minor : Text}
    (parts : Text.splitOn (.scalar '.') t = [major, minor]) :
    versionParts (.text t) = .ok (.text major, .text minor) := by
  rw [versionParts]
  simp only [parts]
  rfl

/-- Parts of a version are not boolean. -/
theorem versionParts_list {major minor : Value} {m n : Int} (first : IsPart major m)
    (second : IsPart minor n) : versionParts (.list [major, minor]) = .ok (major, minor) := by
  cases first <;> cases second <;> rfl

theorem version_of_parts {major minor : Value} (given : v ≠ .null)
    (parts : versionParts v = .ok (major, minor)) (three : IsPart major 3)
    (part : IsPart minor n) : version v = .ok (some n) := by
  unfold version
  split
  · exact absurd rfl given
  · rw [parts]
    simp only [bind, Except.bind, versionPart_eq_ok_iff.mpr three,
      versionPart_eq_ok_iff.mpr part, if_pos]

theorem version_eq_ok_iff {m : Option Int} : version v = .ok m ↔ Asks v m := by
  constructor
  · intro h
    unfold version at h
    split at h
    · cases h
      exact .none
    · obtain ⟨⟨major, minor⟩, both, h⟩ := bind_eq_ok h
      obtain ⟨three, first, h⟩ := bind_eq_ok h
      obtain ⟨n, second, h⟩ := bind_eq_ok h
      split_ifs at h with isThree
      cases h
      subst isThree
      have first := versionPart_eq_ok_iff.mp first
      have second := versionPart_eq_ok_iff.mp second
      rcases versionParts_eq_ok both with ⟨t, major, minor, rfl, parts, rfl, rfl⟩ | rfl
      · exact .text parts first second
      · exact .list first second
  · intro asks
    cases asks with
    | none => rfl
    | text parts three part => exact version_of_parts nofun (versionParts_text parts) three part
    | list three part => exact version_of_parts nofun (versionParts_list three part) three part

theorem flag_eq_ok_iff :
    flag es key = .ok b ↔ (Entries.get? es key).getD (.bool false) = .bool b := by
  unfold flag
  split
  · next found =>
    rw [found]
    exact ⟨fun h => congrArg Value.bool (Except.ok.inj h),
      fun h => congrArg Except.ok (Value.bool.inj h)⟩
  · next other => exact iff_of_false nofun fun h => other b h

theorem unknown_isEmpty_iff :
    ((Entries.keys es).filter fun k => !knownKeys.contains k).isEmpty = true ↔
      ∀ key ∈ Entries.keys es, key ∈ knownKeys := by
  simp [List.filter_eq_nil_iff]

/-- The tables that are accepted are those that give options, and these are the answer. -/
theorem ofValue_table_iff : ofValue (.table es) = .ok o ↔ o.GivenBy es := by
  rw [ofValue]
  constructor
  · intro h
    split_ifs at h with unknown
    obtain ⟨minorVersion, version, h⟩ := bind_eq_ok h
    obtain ⟨typeComments, hcomments, h⟩ := bind_eq_ok h
    obtain ⟨locations, hlocations, h⟩ := bind_eq_ok h
    cases h
    refine ⟨unknown_isEmpty_iff.mp ?_, version_eq_ok_iff.mp version, flag_eq_ok_iff.mp hcomments,
      flag_eq_ok_iff.mp hlocations⟩
    simpa using unknown
  · intro given
    rw [unknown_isEmpty_iff.mpr given.known, version_eq_ok_iff.mpr given.version,
      flag_eq_ok_iff.mpr given.typeComments, flag_eq_ok_iff.mpr given.locations]
    rfl

end SourceLedger.ParseOptions
