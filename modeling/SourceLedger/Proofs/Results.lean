import SourceLedger.Failure

/-!
# Results of parts

What a result that came about says of the results that it was made from, and what a result that did
not come about fails with.
-/

namespace SourceLedger

variable {α β ε : Type}

theorem map_eq_ok {f : α → β} {r : Except ε α} {b : β} (h : r.map f = .ok b) :
    ∃ a, r = .ok a ∧ f a = b := by
  cases r with
  | error e => cases h
  | ok a => exact ⟨a, rfl, Except.ok.inj h⟩

theorem mapError_eq_ok {ε' : Type} {f : ε → ε'} {r : Except ε α} {a : α}
    (h : r.mapError f = .ok a) : r = .ok a := by
  cases r with
  | error e => cases h
  | ok a => exact congrArg Except.ok (Except.ok.inj h)

theorem eq_ok_of_toOption {r : Except ε α} {a : α} (h : r.toOption = some a) : r = .ok a := by
  cases r with
  | error e => cases h
  | ok a' => exact congrArg Except.ok (Option.some.inj h)

theorem bind_eq_ok {f : α → Except ε β} {r : Except ε α} {b : β} (h : r >>= f = .ok b) :
    ∃ a, r = .ok a ∧ f a = .ok b := by
  cases r with
  | error e => cases h
  | ok a => exact ⟨a, rfl, h⟩

theorem mapError_eq_error {ε' : Type} {f : ε → ε'} {r : Except ε α} {e : ε'}
    (h : r.mapError f = .error e) : ∃ e', r = .error e' ∧ f e' = e := by
  cases r with
  | error e' => exact ⟨e', rfl, Except.error.inj h⟩
  | ok a => cases h

/-- What is made of two parts fails with one of them. -/
theorem bind_eq_error {f : α → Except ε β} {r : Except ε α} {e : ε} (h : r >>= f = .error e) :
    r = .error e ∨ ∃ a, r = .ok a ∧ f a = .error e := by
  cases r with
  | error e' => exact .inl (congrArg Except.error (Except.error.inj h))
  | ok a => exact .inr ⟨a, rfl, h⟩

theorem exists_of_mapM_eq_ok {f : α → Except ε β} {xs : List α} {ys : List β}
    (h : xs.mapM f = .ok ys) : ∀ y ∈ ys, ∃ x ∈ xs, f x = .ok y := by
  induction xs generalizing ys with
  | nil =>
      cases h
      exact nofun
  | cons x xs ih =>
      rw [List.mapM_cons] at h
      obtain ⟨y, hy, h⟩ := bind_eq_ok h
      obtain ⟨later, hlater, h⟩ := bind_eq_ok h
      cases h
      intro y' hy'
      rcases List.mem_cons.mp hy' with rfl | hy'
      · exact ⟨x, List.mem_cons_self, hy⟩
      · obtain ⟨x', hx', hf⟩ := ih hlater y' hy'
        exact ⟨x', List.mem_cons_of_mem x hx', hf⟩

/-- Where all results have come about, each of them has. -/
theorem exists_of_map_eq {f : α → Except ε β} {xs : List α} {ys : List β}
    (h : xs.map f = ys.map .ok) {x : α} (hx : x ∈ xs) : ∃ y ∈ ys, f x = .ok y := by
  have member : f x ∈ ys.map .ok := h ▸ List.mem_map_of_mem hx
  obtain ⟨y, hy, heq⟩ := List.mem_map.mp member
  exact ⟨y, hy, heq.symm⟩

/-- What has come about is a result of something. -/
theorem exists_of_mem_of_map_eq {f : α → Except ε β} {xs : List α} {ys : List β}
    (h : xs.map f = ys.map .ok) {y : β} (hy : y ∈ ys) : ∃ x ∈ xs, f x = .ok y := by
  have member : .ok y ∈ xs.map f := h.symm ▸ List.mem_map_of_mem hy
  exact List.mem_map.mp member

/-- Where every part comes about, so does the whole. -/
theorem mapM_eq_ok_map {f : α → Except ε β} {g : α → β} {xs : List α}
    (h : ∀ x ∈ xs, f x = .ok (g x)) : xs.mapM f = .ok (xs.map g) := by
  induction xs with
  | nil => rfl
  | cons x xs ih =>
      rw [List.forall_mem_cons] at h
      rw [List.mapM_cons, h.1, ih h.2]
      rfl

section FailsBy

variable {P : ε → Prop} {r : Except ε α} {e : ε}

/-- Whatever a result fails with has a property. -/
def FailsBy (P : ε → Prop) : Except ε α → Prop
  | .error e => P e
  | .ok _ => True

@[simp] theorem failsBy_ok (a : α) : FailsBy P (.ok a) := trivial

@[simp] theorem failsBy_error : FailsBy P (.error e : Except ε α) ↔ P e := Iff.rfl

theorem FailsBy.of_eq (h : FailsBy P r) (failed : r = .error e) : P e := by
  rwa [failed] at h

@[simp] theorem failsBy_map {f : α → β} : FailsBy P (r.map f) ↔ FailsBy P r := by
  cases r <;> rfl

theorem failsBy_bind {f : α → Except ε β} (h : FailsBy P r) (next : ∀ a, FailsBy P (f a)) :
    FailsBy P (r >>= f) := by
  cases r with
  | error e => exact h
  | ok a => exact next a

end FailsBy

/-- A failure of a kind that is reported with a message about something. -/
def Failure.Names (kind : ErrorKind) (what : Text) : Failure → Prop
  | .reported kind' message => kind' = kind ∧ what <:+: message
  | .unexpected _ => False

/-- Whatever a reader makes has a property. -/
def Makes (P : α → Prop) (read : List Char → Except ε (α × List Char)) : Prop :=
  ∀ s a rest, read s = .ok (a, rest) → P a

end SourceLedger
