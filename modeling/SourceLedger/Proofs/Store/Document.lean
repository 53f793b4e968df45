import SourceLedger.Proofs.FileSystem.Growth
import SourceLedger.Proofs.Json.Reading
import SourceLedger.Proofs.Json.RoundTrip
import SourceLedger.Store.Document

/-!
# Documents read back

A document that was written whole is read back as it was. A document that is read has both
namespaces and no key twice, and there is one where there is a file that holds one, or nothing.
-/

namespace SourceLedger

open FileSystem

theorem Line.unify_of_unbroken {s : List Char} (h : '\r' ∉ s) : Line.unify s = s := by
  induction s with
  | nil => rfl
  | cons c rest ih =>
      rw [List.mem_cons, not_or] at h
      have hc : c ≠ '\r' := Ne.symm h.1
      rw [Line.unify, ih h.2, if_neg hc]
      rintro _ heq
      exact absurd heq hc

namespace Document

variable {d : Document} {bytes : Bytes} {fs : FileSystem} {path : Path}

/-- Reading is the inverse of writing. -/
theorem ofBytes_of_text? (distinct : Value.Table.Distinct d)
    (h : Json.text? (.table d) = some bytes) : ofBytes bytes = .ok d := by
  have fault : (Json.write (.table d)).fault = none := by
    rw [Json.text?] at h
    split at h
    · assumption
    · cases h
  obtain ⟨s, written, unbroken, read⟩ := Json.read_of_write distinct fault
  have hb : bytes = Utf8.encodeChars s := by
    rw [Json.text?, fault, written] at h
    exact (Option.some.inj h).symm
  rw [ofBytes, hb, Utf8.decode_encodeChars]
  change ofChars (Line.unify s) = _
  rw [Line.unify_of_unbroken unbroken, ofChars, read]

theorem distinct_of_ofBytes (h : ofBytes bytes = .ok d) : Value.Table.Distinct d := by
  unfold ofBytes at h
  cases hs : Utf8.decode bytes with
  | error f => rw [hs] at h; cases h
  | ok s =>
      rw [hs] at h
      change ofChars (Line.unify s) = _ at h
      unfold ofChars at h
      split at h
      · next read =>
        cases h
        exact Json.distinct_of_read read
      · cases h
      · split at h <;> cases h

/-- Both namespaces are there, and no key twice. -/
structure Complete (d : Document) : Prop where
  distinct : Value.Table.Distinct d
  config : configName ∈ Entries.keys d
  files : filesName ∈ Entries.keys d

theorem withDefaults_complete (distinct : Value.Table.Distinct d) : Complete (withDefaults d) where
  distinct := (distinct.putDefault _ Value.Table.distinct_nil).putDefault _
    Value.Table.distinct_nil
  config := Entries.mem_keys_putDefault.mpr (Or.inl (Entries.mem_keys_putDefault.mpr (Or.inr rfl)))
  files := Entries.mem_keys_putDefault.mpr (Or.inr rfl)

theorem Complete.withDefaults (complete : Complete d) : Document.withDefaults d = d := by
  rw [Document.withDefaults, Entries.putDefault_of_mem complete.config,
    Entries.putDefault_of_mem complete.files]

theorem Complete.put (complete : Complete d) (name : Text) {v : Value} (hv : v.Distinct) :
    Complete (Entries.put d name v) where
  distinct := complete.distinct.put name hv
  config := Entries.mem_keys_put.mpr (Or.inl complete.config)
  files := Entries.mem_keys_put.mpr (Or.inl complete.files)

theorem complete_of_read (h : Document.read fs path = .ok d) : d.Complete := by
  obtain ⟨isThere, _, h⟩ := bind_eq_ok h
  cases isThere with
  | false =>
      cases h
      exact withDefaults_complete Value.Table.distinct_nil
  | true =>
      obtain ⟨bytes, _, h⟩ := bind_eq_ok h
      obtain ⟨d', denotes, h⟩ := bind_eq_ok h
      cases h
      exact withDefaults_complete (distinct_of_ofBytes (mapError_eq_ok denotes))

theorem read_of_absent (absent : Absent fs path) : read fs path = .ok (withDefaults []) := by
  obtain ⟨r, hf, means⟩ := absent
  have found : fs.find? path.toText = .ok none := by
    unfold find?
    rw [hf]
    exact if_pos means
  simp only [read, present, found]
  rfl

theorem eq_of_read_missing (missing : Missing fs path) (h : read fs path = .ok d) :
    d = withDefaults [] := by
  cases hf : fs.find true path.toText with
  | ok node => exact absurd hf (missing node)
  | error r =>
      by_cases means : meansAbsent r = true
      · exact Except.ok.inj (h.symm.trans (read_of_absent ⟨r, hf, means⟩))
      · simp [read, present, find?, hf, means, bind, Except.bind, Except.mapError] at h

theorem read_of_bytes (hr : fs.read path.toText = .ok bytes) (hd : ofBytes bytes = .ok d) :
    read fs path = .ok (withDefaults d) := by
  have found : fs.find? path.toText = .ok (some (.file bytes)) := by
    unfold find?
    rw [read_eq_ok_iff.mp hr]
  simp only [read, present, found, hr, bind, Except.bind, pure, Except.pure, Except.mapError,
    Option.isSome, if_true, hd]

end Document

end SourceLedger
