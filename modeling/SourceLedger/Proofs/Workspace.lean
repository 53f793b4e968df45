import Mathlib.Tactic.SplitIfs
import SourceLedger.Workspace

/-!
# Jobs

A job that is made of parts goes on with what the part before has left behind, and fails with it.
Much of what jobs do is to speak: that changes nothing but the log.
-/

namespace SourceLedger

namespace Job

variable {σ α β : Type} {x : ExceptT Failure (StateM σ) α} {f : α → ExceptT Failure (StateM σ) β}
  {s s' : σ}

theorem bind_apply (x : ExceptT Failure (StateM σ) α) (f : α → ExceptT Failure (StateM σ) β)
    (s : σ) :
    (x >>= f) s =
      match x s with
      | (.ok a, s') => f a s'
      | (.error failure, s') => (.error failure, s') := by
  change (match x s with
    | (r, s) => ExceptT.bindCont f r s : Except Failure β × σ) = _
  rcases x s with ⟨_ | _, s⟩ <;> rfl

theorem get_bind (f : σ → ExceptT Failure (StateM σ) β) (s : σ) : (get >>= f) s = f s s := rfl

theorem bind_of_ok {a : α} (h : x s = (.ok a, s')) : (x >>= f) s = f a s' := by
  rw [bind_apply, h]

theorem bind_of_error {failure : Failure} (h : x s = (.error failure, s')) :
    (x >>= f) s = (.error failure, s') := by
  rw [bind_apply, h]

/-- Work of which only the end is forgotten. -/
theorem discard_of_eq {y : ExceptT Failure (StateM σ) Unit} {a : α}
    (h : x s = (do y; return a : ExceptT Failure (StateM σ) α) s') :
    (x >>= fun _ => pure () : ExceptT Failure (StateM σ) Unit) s = y s' := by
  rw [bind_apply, h, bind_apply]
  rcases y s' with ⟨_ | _, _⟩ <;> rfl

/-- Both parts of work that succeeds succeed. -/
theorem bind_eq_ok {b : β} (h : (x >>= f) s = (.ok b, s')) :
    ∃ a s₁, x s = (.ok a, s₁) ∧ f a s₁ = (.ok b, s') := by
  rw [bind_apply] at h
  split at h
  · next a s₁ first => exact ⟨a, s₁, first, h⟩
  · cases h

section Speaking

variable {w w' : Workspace}

/-- A job that only adds to the log. -/
def Speaks (x : Job Unit) : Prop := ∀ w, ∃ log, x w = (.ok (), { w with log })

theorem speaks_say (level : Level) (text : Text) : Speaks (say level text) :=
  fun w => ⟨w.log ++ [⟨level, text⟩], rfl⟩

theorem speaks_pure : Speaks (pure ()) := fun w => ⟨w.log, rfl⟩

theorem speaks_forM {α : Type} {f : α → Job Unit} (h : ∀ a, Speaks (f a)) (as : List α) :
    Speaks (as.forM f) := by
  induction as with
  | nil => exact speaks_pure
  | cons a as ih =>
      intro w
      obtain ⟨log, first⟩ := h a w
      obtain ⟨log', rest⟩ := ih { w with log }
      exact ⟨log', (bind_of_ok first).trans rest⟩

end Speaking

section Gathering

variable {α : Type} {results : List (Except Failure α)}

/-- There is an earliest failure as soon as there is any. -/
theorem ok_of_earliestFailure? {schedule : Schedule}
    (h : earliestFailure? schedule results.zipIdx = none) : ∀ r ∈ results, ∃ a, r = .ok a := by
  rw [earliestFailure?, Option.map_eq_none_iff] at h
  intro r hr
  obtain ⟨n, hn, rfl⟩ := List.getElem_of_mem hr
  have member : (results[n], n) ∈ results.zipIdx := by
    rw [List.mk_mem_zipIdx_iff_getElem?]
    exact List.getElem?_eq_getElem hn
  cases hr : results[n] with
  | ok a => exact ⟨a, rfl⟩
  | error failure =>
      rw [hr] at member
      generalize found : results.zipIdx.filterMap _ = failures at h
      rcases failures.eq_nil_or_concat with rfl | ⟨before, last, rfl⟩
      · have left := List.filterMap_eq_nil_iff.mp found _ member
        cases left
      · rw [List.concat_eq_append, List.foldl_append] at h
        simp only [List.foldl_cons, List.foldl_nil] at h
        split at h
        · next earliest before =>
          split_ifs at h
          cases before.symm.trans h
        · cases h

/-- The earlier one of a failure and the earliest so far. -/
def earlier (best : Option (Failure × Nat)) (p : Failure × Nat) : Option (Failure × Nat) :=
  match best with
  | some (_, earliest) => if p.2 < earliest then some p else best
  | none => some p

theorem earlier_eq_some {best : Option (Failure × Nat)} {p q : Failure × Nat}
    (h : earlier best p = some q) : q = p ∨ best = some q := by
  unfold earlier at h
  split at h
  · split_ifs at h
    · exact .inl (Option.some.inj h).symm
    · exact .inr h
  · exact .inl (Option.some.inj h).symm

/-- What is left of some failures was the best before or is one of them. -/
theorem mem_of_foldl_earlier {failures : List (Failure × Nat)} {best : Option (Failure × Nat)}
    {q : Failure × Nat} (h : failures.foldl earlier best = some q) :
    best = some q ∨ q ∈ failures := by
  induction failures generalizing best with
  | nil => exact .inl h
  | cons p failures ih =>
      rcases ih h with before | mem
      · rcases earlier_eq_some before with rfl | best
        · exact .inr List.mem_cons_self
        · exact .inl best
      · exact .inr (List.mem_cons_of_mem _ mem)

/-- The earliest failure is one of the failures, whatever the schedule is. -/
theorem mem_of_earliestFailure? {schedule : Schedule} {failure : Failure}
    (h : earliestFailure? schedule results.zipIdx = some failure) : .error failure ∈ results := by
  obtain ⟨p, earliest, rfl⟩ := Option.map_eq_some_iff.mp h
  obtain ⟨⟨r, n⟩, mem, failed⟩ :=
    List.mem_filterMap.mp ((mem_of_foldl_earlier earliest).resolve_left (by simp))
  cases r with
  | ok => cases failed
  | error f =>
      cases failed
      exact (List.mem_zipIdx' mem).2 ▸ List.getElem_mem _

theorem eq_map_of_ok (h : ∀ r ∈ results, ∃ a, r = .ok a) :
    results = (results.filterMap (·.toOption)).map .ok := by
  induction results with
  | nil => rfl
  | cons r results ih =>
      rw [List.forall_mem_cons] at h
      obtain ⟨a, rfl⟩ := h.1
      exact congrArg (_ :: ·) (ih h.2)

theorem gather_run (results : List (Except Failure α)) (w : Workspace) :
    gather results w = (match earliestFailure? w.schedule results.zipIdx with
      | some f => fail f
      | none => return results.filterMap (·.toOption) : Job (List α)) w :=
  rfl

/-- What was gathered is what all parts answered. -/
theorem gather_cases (results : List (Except Failure α)) (w : Workspace) :
    (∃ failure, gather results w = (.error failure, w)) ∨
      ∃ as, gather results w = (.ok as, w) ∧ results = as.map .ok := by
  have run := gather_run results w
  cases h : earliestFailure? w.schedule results.zipIdx with
  | some failure =>
      rw [h] at run
      exact Or.inl ⟨failure, run⟩
  | none =>
      rw [h] at run
      exact Or.inr ⟨_, run, eq_map_of_ok (ok_of_earliestFailure? h)⟩

/-- Gathering fails with one of the failures. -/
theorem mem_of_gather {failure : Failure} {w w' : Workspace}
    (failed : gather results w = (.error failure, w')) : .error failure ∈ results := by
  have run := (gather_run results w).symm.trans failed
  cases found : earliestFailure? w.schedule results.zipIdx with
  | some first =>
      rw [found] at run
      cases run
      exact mem_of_earliestFailure? found
  | none =>
      rw [found] at run
      cases run

/-- Results that have all come about are gathered, whatever the schedule is. -/
theorem gather_of_ok {as : List α} (all : results = as.map .ok) (w : Workspace) :
    gather results w = (.ok as, w) := by
  rcases gather_cases results w with ⟨failure, failed⟩ | ⟨as', gathered, same⟩
  · obtain ⟨a, _, wrong⟩ := List.mem_map.mp (all ▸ mem_of_gather failed)
    cases wrong
  · have answers := congrArg (List.filterMap (·.toOption)) (same.symm.trans all)
    simp only [List.filterMap_map, Function.comp_def, Except.toOption,
      List.filterMap_some] at answers
    rw [gathered, answers]

end Gathering

end Job

end SourceLedger
