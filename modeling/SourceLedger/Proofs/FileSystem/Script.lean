import SourceLedger.Proofs.FileSystem.Changes

/-!
# What scripts ensure

`Meets` says what holds wherever a script can stop: in every state that it leaves behind, and of
its answer at the end. The system may refuse any of the steps that are named; what it does not
refuse, the file system decides.

A script meets a specification if its parts do, so that one lemma about each part is enough.
-/

namespace SourceLedger.Script

variable {α β : Type}

/-- The steps that the system refuses for a reason of its own while a script runs. -/
def refused : Script α → Faults → FileSystem → List Step
  | done _, _, _ => []
  | look next, faults, fs => (next fs).refused faults fs
  | step s next, faults, fs =>
    match faults.head?.join with
    | some e => s :: (next (.error (.system e))).refused faults.tail fs
    | none =>
      match s.apply fs with
      | .error r => (next (.error r)).refused faults.tail fs
      | .ok fs => (next (.ok ())).refused faults.tail fs

/-- Whatever the system refuses of the steps that it `may`, every state that the script leaves
behind is as in `during`, and its answer and the state at the end are as in `after`. -/
def Meets (may : Step → Prop) (during : FileSystem → Prop) (after : α → FileSystem → Prop) :
    Script α → FileSystem → Prop
  | done a, fs => after a fs
  | look next, fs => Meets may during after (next fs) fs
  | step s next, fs =>
    (may s → ∀ e, Meets may during after (next (.error (.system e))) fs) ∧
      match s.apply fs with
      | .error r => Meets may during after (next (.error r)) fs
      | .ok fs' => during fs' ∧ Meets may during after (next (.ok ())) fs'

theorem Ran.final_cons (r : Ran α) (fs fs' : FileSystem) :
    ({ r with states := fs' :: r.states } : Ran α).final fs = r.final fs' :=
  List.getLastD_cons ..

variable {may : Step → Prop} {during during' : FileSystem → Prop}
  {after after' : α → FileSystem → Prop} {x : Script α} {fs : FileSystem}

/-- What a script meets holds of its runs. -/
theorem Meets.run (h : x.Meets may during after fs) (faults : Faults)
    (refused : ∀ s ∈ x.refused faults fs, may s) :
    (∀ s ∈ (x.run faults fs).states, during s) ∧
      after (x.run faults fs).result ((x.run faults fs).final fs) := by
  induction x generalizing fs faults with
  | done a => exact ⟨by simp [Script.run], h⟩
  | look next ih => exact ih fs h faults refused
  | step s next ih =>
      rw [Meets] at h
      obtain ⟨onFault, onApply⟩ := h
      unfold Script.run
      unfold Script.refused at refused
      cases hf : faults.head?.join with
      | some e =>
          simp only [hf, List.forall_mem_cons] at refused
          exact ih _ (onFault refused.1 e) _ refused.2
      | none =>
          simp only [hf] at refused
          cases ha : s.apply fs with
          | error r =>
              simp only [ha] at refused onApply
              exact ih _ onApply _ refused
          | ok fs' =>
              simp only [ha] at refused onApply ⊢
              obtain ⟨states, result⟩ := ih _ onApply.2 _ refused
              refine ⟨?_, ?_⟩
              · rw [List.forall_mem_cons]
                exact ⟨onApply.1, states⟩
              · rwa [Ran.final_cons]

/-- A run that starts in a tree ends in one. -/
theorem isTree_final (x : Script α) (faults : Faults) (tree : fs.IsTree) :
    ((x.run faults fs).final fs).IsTree := by
  induction x generalizing faults fs with
  | done a => exact tree
  | look next ih => exact ih fs faults tree
  | step s next ih =>
      unfold Script.run
      cases faults.head?.join with
      | some e => exact ih _ _ tree
      | none =>
          cases ha : s.apply fs with
          | error r => exact ih _ _ tree
          | ok fs' =>
              simp only [Ran.final_cons]
              exact ih _ _ (tree.apply ha)

theorem Meets.mono (h : x.Meets may during after fs) (hd : ∀ s, during s → during' s)
    (ha : ∀ a s, after a s → after' a s) : x.Meets may during' after' fs := by
  induction x generalizing fs with
  | done a => exact ha a fs h
  | look next ih => exact ih fs h
  | step s next ih =>
      rw [Meets] at h ⊢
      refine ⟨fun hm e => ih _ (h.1 hm e), ?_⟩
      have onApply := h.2
      cases hs : s.apply fs with
      | error r =>
          simp only [hs] at onApply ⊢
          exact ih _ onApply
      | ok fs' =>
          simp only [hs] at onApply ⊢
          exact ⟨hd _ onApply.1, ih _ onApply.2⟩

theorem meets_step {s : Step} {next : Except Refusal Unit → Script α}
    (fault : may s → ∀ e, (next (.error (.system e))).Meets may during after fs)
    (error : ∀ r, s.apply fs = .error r → (next (.error r)).Meets may during after fs)
    (ok : ∀ fs', s.apply fs = .ok fs' →
      during fs' ∧ (next (.ok ())).Meets may during after fs') :
    (step s next).Meets may during after fs := by
  rw [Meets]
  refine ⟨fault, ?_⟩
  cases hs : s.apply fs with
  | error r => exact error r hs
  | ok fs' => exact ok fs' hs

theorem meets_bind {f : α → Script β} {after : β → FileSystem → Prop} :
    (x.bind f).Meets may during after fs ↔
      x.Meets may during (fun a fs' => (f a).Meets may during after fs') fs := by
  induction x generalizing fs with
  | done a => rfl
  | look next ih => exact ih fs
  | step s next ih =>
      rw [bind, Meets, Meets]
      refine and_congr (forall_congr' fun _ => forall_congr' fun e => ih _) ?_
      cases s.apply fs with
      | error r => exact ih _
      | ok fs' => exact and_congr Iff.rfl (ih _)

section Attempts

variable {ε : Type} {y : ExceptT ε Script α} {f : α → ExceptT ε Script β}
  {handle : ε → ExceptT ε Script α}

/-- An attempt goes on only where the part before has succeeded. -/
theorem meets_run_bind {after : Except ε β → FileSystem → Prop} :
    (y >>= f).run.Meets may during after fs ↔
      y.run.Meets may during (fun r fs' =>
        match r with
        | .ok a => (f a).run.Meets may during after fs'
        | .error e => after (.error e) fs') fs := by
  have unfolded : (y >>= f).run = y.run.bind fun
      | .ok a => (f a).run
      | .error e => .done (.error e) := by
    change y.run.bind _ = y.run.bind _
    congr 1
    funext r
    cases r <;> rfl
  rw [unfolded, meets_bind]
  constructor <;>
    exact fun h => h.mono (fun _ hs => hs) fun r _ hr => by cases r <;> exact hr

theorem meets_run_tryCatch {after : Except ε α → FileSystem → Prop} :
    (tryCatch y handle).run.Meets may during after fs ↔
      y.run.Meets may during (fun r fs' =>
        match r with
        | .ok a => after (.ok a) fs'
        | .error e => (handle e).run.Meets may during after fs') fs := by
  have unfolded : (tryCatch y handle).run = y.run.bind fun
      | .ok a => .done (.ok a)
      | .error e => (handle e).run := by
    change y.run.bind _ = y.run.bind _
    congr 1
    funext r
    cases r <;> rfl
  rw [unfolded, meets_bind]
  constructor <;>
    exact fun h => h.mono (fun _ hs => hs) fun r _ hr => by cases r <;> exact hr

end Attempts

end SourceLedger.Script
