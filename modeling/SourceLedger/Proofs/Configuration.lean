import SourceLedger.Configuration
import SourceLedger.Proofs.Results
import SourceLedger.Proofs.Toml.Reading
import SourceLedger.Proofs.Value.Nesting

/-!
# Loaded configurations

A configuration that was loaded has distinct keys at every depth and texts of characters only, and
it always has a table of parse settings. So wherever its entries were merged in last, they give the
same parse options.
-/

namespace SourceLedger.Configuration

variable {fs : FileSystem} {c : Configuration} {start : Path} {t : Value.Table}

theorem overDefaults_eq_ok_iff {own : Value.Table} : overDefaults own = .ok t ↔
    (Value.table own).nesting ≤ maxNesting ∧ t = Value.merge defaults own := by
  rw [overDefaults]
  split_ifs with shallow <;> simp [shallow, eq_comm]

theorem overDefaults_eq_error_iff {own : Value.Table} {f : Failure} :
    overDefaults own = .error f ↔
      maxNesting < (Value.table own).nesting ∧ f = .unexpected .tooDeep := by
  rw [overDefaults]
  split_ifs with shallow
  · simp [Nat.not_lt.mpr shallow]
  · simp [Nat.lt_of_not_le shallow, eq_comm]

/-- A configuration has the defaults, or what a file says merged into them, which was checked. -/
theorem load_eq_ok (h : load fs start = .ok c) :
    ∃ real, fs.realPath start = .ok real ∧
      ((find fs real = .ok none ∧ c = ⟨defaults, real, none⟩) ∨
        ∃ source own, find fs real = .ok (some (source, own)) ∧
          (Value.table own).nesting ≤ maxNesting ∧
          validate (Value.merge defaults own) source = .ok () ∧
          c = ⟨Value.merge defaults own, source.parent, some source⟩) := by
  obtain ⟨real, resolved, h⟩ := bind_eq_ok h
  refine ⟨real, mapError_eq_ok resolved, ?_⟩
  obtain ⟨found, search, h⟩ := bind_eq_ok h
  cases found with
  | none =>
      cases h
      exact Or.inl ⟨search, rfl⟩
  | some found =>
      obtain ⟨_, copied, h⟩ := bind_eq_ok h
      obtain ⟨shallow, rfl⟩ := overDefaults_eq_ok_iff.mp copied
      obtain ⟨_, valid, h⟩ := bind_eq_ok h
      cases h
      exact Or.inr ⟨_, _, search, shallow, valid, rfl⟩

/-- What is left to do when the search has ended. -/
theorem load_of_resolved {real : Path} (resolved : fs.realPath start = .ok real) :
    load fs start = (find fs real >>= fun
      | none => .ok ⟨defaults, real, none⟩
      | some (source, own) => do
        let values ← overDefaults own
        validate values source
        return ⟨values, source.parent, some source⟩) := by
  rw [load, resolved]
  rfl

theorem load_of_found {real source : Path} {own : Value.Table}
    (resolved : fs.realPath start = .ok real)
    (search : find fs real = .ok (some (source, own)))
    (shallow : (Value.table own).nesting ≤ maxNesting)
    (valid : validate (Value.merge defaults own) source = .ok ()) :
    load fs start = .ok ⟨Value.merge defaults own, source.parent, some source⟩ := by
  rw [load_of_resolved resolved, search]
  change (overDefaults own >>= _) = _
  rw [overDefaults_eq_ok_iff.mpr ⟨shallow, rfl⟩]
  change (validate _ source >>= _) = _
  rw [valid]
  rfl

section Admitted

open Toml (Admits)

variable {named : Text → Prop} {P : Value → Prop} (admits : Admits named P)
include admits

theorem holds_readTable {path : Text} {bytes : Bytes} (h : readTable path bytes = .ok t) :
    P (.table t) := by
  obtain ⟨s, _, h⟩ := bind_eq_ok (mapError_eq_ok h)
  exact Toml.holds_of_read admits (mapError_eq_ok h)

theorem holds_section? {path : Path} {own : Value.Table} (table : P (.table t))
    (h : section? path t = .ok (some own)) : P (.table own) := by
  unfold section? at h
  split at h
  · next tools found =>
    have tools := admits.get? table found
    split at h
    · cases h
    · next found' =>
      cases h
      exact admits.get? tools found'
    · cases h
  · cases h

theorem holds_firstOf {paths : List Path} {path : Path}
    (h : firstOf fs paths = .ok (some (path, t))) : P (.table t) := by
  induction paths with
  | nil => cases h
  | cons first rest ih =>
      obtain ⟨content, _, h⟩ := bind_eq_ok h
      cases content with
      | none => exact ih h
      | some bytes =>
          obtain ⟨t', ht', h⟩ := bind_eq_ok h
          cases h
          exact holds_readTable admits ht'

theorem holds_inDirectory {directory path : Path}
    (h : inDirectory fs directory = .ok (some (path, t))) : P (.table t) := by
  obtain ⟨found, hfound, h⟩ := bind_eq_ok h
  cases found with
  | some found =>
      cases h
      exact holds_firstOf admits hfound
  | none =>
      obtain ⟨content, _, h⟩ := bind_eq_ok h
      cases content with
      | none => cases h
      | some bytes =>
          obtain ⟨shared, hshared, h⟩ := bind_eq_ok h
          obtain ⟨own, hown, h⟩ := bind_eq_ok h
          cases own with
          | none => cases h
          | some own =>
              cases h
              exact holds_section? admits (holds_readTable admits hshared) hown

theorem holds_findIn {directories : List Path} {path : Path}
    (h : findIn fs directories = .ok (some (path, t))) : P (.table t) := by
  induction directories with
  | nil => cases h
  | cons directory above ih =>
      obtain ⟨found, hfound, h⟩ := bind_eq_ok h
      cases found with
      | none => exact ih h
      | some found =>
          cases h
          exact holds_inDirectory admits hfound

theorem holds_defaults : P (.table defaults) := by
  have options : P (.table [("options", .table [])]) :=
    admits.put admits.empty (admits.chars _) admits.empty
  have out : P (.table [(outKey, .text defaultOut)]) :=
    admits.put admits.empty (admits.chars _) (admits.text (admits.chars _))
  have both := admits.put out (show named parseKey from admits.chars _) options
  rwa [Entries.put_of_notMem (by decide)] at both

/-- A configuration that was loaded has every property that reading admits. -/
theorem holds_of_load (h : load fs start = .ok c) : P (.table c.values) := by
  obtain ⟨_, _, ⟨_, rfl⟩ | ⟨_, _, found, _, _, rfl⟩⟩ := load_eq_ok h
  · exact holds_defaults admits
  · exact admits.merge (holds_defaults admits) (holds_findIn admits found)

end Admitted

theorem distinct_defaults : Value.Table.Distinct defaults := holds_defaults Toml.admits_distinct

theorem distinct_of_load (h : load fs start = .ok c) : Value.Table.Distinct c.values :=
  holds_of_load Toml.admits_distinct h

theorem scalar_of_load (h : load fs start = .ok c) : (Value.table c.values).Scalar :=
  holds_of_load Toml.admits_scalar h

/-- A configuration that was loaded has been copied. -/
theorem nesting_of_load (h : load fs start = .ok c) :
    (Value.table c.values).nesting ≤ maxNesting := by
  have defaults_le : (Value.table defaults).nesting ≤ maxNesting := by decide
  obtain ⟨_, _, ⟨_, rfl⟩ | ⟨_, _, _, shallow, _, rfl⟩⟩ := load_eq_ok h
  · exact defaults_le
  · exact Value.nesting_layered.merge maxNesting defaults_le shallow

/-- What the check of a configuration asks for: an output directory that is named, and a table of
parse options, whatever is in it. -/
structure Accepted (values : Value.Table) : Prop where
  out : ∃ name, name ≠ [] ∧ Entries.get? values outKey = some (.text name)
  options : ∃ settings es, Entries.get? values parseKey = some (.table settings) ∧
    Entries.get? settings "options" = some (.table es)

/-- The parse options are looked up in the parse settings. -/
theorem lookup?_optionsKey (values : Value.Table) :
    (Value.table values).lookup? optionsKey =
      (Entries.get? values parseKey).bind (·.follow? ["options"]) := by
  have parts : Text.splitOn (.scalar '.') optionsKey = [parseKey, "options"] := by decide
  rw [Value.lookup?, parts, Value.follow?]
  cases Entries.get? values parseKey <;> rfl

theorem lookup?_of_settings {settings : Value.Table}
    (found : Entries.get? t parseKey = some (.table settings)) :
    (Value.table t).lookup? optionsKey = Entries.get? settings "options" := by
  rw [lookup?_optionsKey, found]
  cases h : Entries.get? settings "options" <;> simp [Value.follow?, h]

theorem validate_eq_ok_iff {source : Path} : validate t source = .ok () ↔ Accepted t := by
  constructor
  · intro h
    unfold validate at h
    dsimp only at h
    split at h
    · next c name out =>
      split at h
      · next settings parse =>
        rw [lookup?_of_settings parse] at h
        split at h
        · next es options => exact ⟨⟨c :: name, nofun, out⟩, settings, es, parse, options⟩
        · cases h
      · cases h
    · cases h
  · rintro ⟨⟨name, named, out⟩, settings, es, parse, options⟩
    cases name with
    | nil => exact absurd rfl named
    | cons c name => simp only [validate, out, parse, lookup?_of_settings parse, options]

theorem accepted_defaults : Accepted defaults :=
  ⟨⟨defaultOut, nofun, rfl⟩, _, _, rfl, rfl⟩

theorem accepted_of_load (h : load fs start = .ok c) : Accepted c.values := by
  obtain ⟨_, _, ⟨_, rfl⟩ | ⟨_, _, _, _, valid, rfl⟩⟩ := load_eq_ok h
  · exact accepted_defaults
  · exact validate_eq_ok_iff.mp valid

/-- The parse options of a configuration that was loaded are a table. -/
theorem exists_options (h : load fs start = .ok c) : ∃ es, c.get optionsKey = .table es := by
  obtain ⟨settings, es, parse, options⟩ := (accepted_of_load h).options
  refine ⟨es, ?_⟩
  rw [get, Value.lookup, lookup?_of_settings parse, options]
  rfl

/-- Entries that were merged in last decide the parse options. -/
theorem lookup_update (h : load fs start = .ok c) (old : Value.Table) :
    (Value.table (Entries.update old c.values)).lookup optionsKey .null = c.get optionsKey := by
  obtain ⟨_, _, found, _⟩ := (accepted_of_load h).options
  rw [get, Value.lookup, Value.lookup, lookup?_optionsKey, lookup?_optionsKey,
    Entries.get?_update (distinct_of_load h).nodup, found]
  rfl

end SourceLedger.Configuration
