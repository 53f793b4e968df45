import SourceLedger.Proofs.Store.Rewriting

/-!
# Where documents can be written

What a document says does not matter to the system: where no step is refused by chance, a path at
which one text can be stored takes all others.
-/

namespace SourceLedger

open FileSystem Script

namespace Script

variable {α : Type} {may : Step → Prop} {during : FileSystem → Prop}
  {after after' : α → FileSystem → Prop} {x : Script α} {fs : FileSystem}

/-- The system refuses nothing for a reason of its own. -/
def Calm (_ : Step) : Prop := False

theorem Meets.and (h : x.Meets may during after fs) {during' : FileSystem → Prop}
    (h' : x.Meets may during' after' fs) :
    x.Meets may during (fun a s => after a s ∧ after' a s) fs := by
  induction x generalizing fs with
  | done a => exact ⟨h, h'⟩
  | look next ih => exact ih fs h h'
  | step s next ih =>
      rw [Meets] at h h' ⊢
      refine ⟨fun hm e => ih _ (h.1 hm e) (h'.1 hm e), ?_⟩
      have onApply := h.2
      have onApply' := h'.2
      cases hs : s.apply fs with
      | error r =>
          simp only [hs] at onApply onApply' ⊢
          exact ih _ onApply onApply'
      | ok fs' =>
          simp only [hs] at onApply onApply' ⊢
          exact ⟨onApply.1, ih _ onApply.2 onApply'.2⟩

theorem refused_nil (x : Script α) (fs : FileSystem) : x.refused [] fs = [] := by
  induction x generalizing fs with
  | done a => rfl
  | look next ih => exact ih fs fs
  | step s next ih =>
      unfold refused
      simp only [List.head?_nil, Option.join_none, List.tail_nil]
      split
      · exact ih _ _
      · exact ih _ _

/-- What a script meets holds at its end, if nothing is refused. -/
theorem Meets.at_end (h : x.Meets may during after fs) :
    after (x.run [] fs).result ((x.run [] fs).final fs) :=
  (h.run [] fun s hs => by rw [refused_nil] at hs; cases hs).2

/-- A script meets what its only run without refusals shows. -/
theorem meets_of_run (h : after (x.run [] fs).result ((x.run [] fs).final fs)) :
    x.Meets Calm (fun _ => True) after fs := by
  induction x generalizing fs with
  | done a => exact h
  | look next ih => exact ih fs h
  | step s next ih =>
      refine meets_step (fun hm => absurd hm id) (fun r hr => ?_) fun fs' hs => ⟨trivial, ?_⟩
      · unfold run at h
        simp only [List.head?_nil, Option.join_none, List.tail_nil, hr] at h
        exact ih _ h
      · unfold run at h
        simp only [List.head?_nil, Option.join_none, List.tail_nil, hs] at h
        rw [Ran.final_cons] at h
        exact ih _ h

end Script

namespace Writing

variable {fs : FileSystem} {path : Path} {temporary : Text} {place final : Location}
  {content bytes : Bytes}

/-- A draft grows to all that it is to hold. -/
theorem meets_appendBlocks_calm (draft : Draft fs path temporary place) (content : Bytes)
    (later : List Bytes) :
    (appendBlocks temporary later).run.Meets Calm (fun _ => True)
      (fun r s => r = .ok () ∧ s = fs.put place (.file (content ++ later.flatten)))
      (fs.put place (.file content)) := by
  induction later generalizing content with
  | nil => exact ⟨rfl, by simp⟩
  | cons block later ih =>
      have appended : (fs.put place (.file content)).append temporary block =
          .ok (fs.put place (.file (content ++ block))) :=
        append_eq_ok_iff.mpr ⟨place, content, draft.walk_put content true,
          (draft.hasFile content).file, (put_put fs place _ _).symm⟩
      have more := ih (content ++ block)
      rw [List.append_assoc, ← List.flatten_cons] at more
      rw [run_appendBlocks]
      refine meets_step (fun hm => absurd hm id) (fun r refused => ?_) fun fs' hs => ⟨trivial, ?_⟩
      · cases refused.symm.trans appended
      · obtain rfl := Except.ok.inj (hs.symm.trans appended)
        exact more

/-- A path that ends at a place does so when other things are added. -/
theorem Target.walk_keeps {fs' : FileSystem} (target : Target fs path final)
    (keeps : Keeps fs fs') : fs'.walk false path.toText = .ok final := by
  obtain ⟨before, ends⟩ := target.ends
  obtain ⟨isStep, there, reaches, rfl⟩ := ends.walk_iff.mp target.walk
  exact ends.walk_iff.mpr ⟨isStep, there, reaches.keeps keeps, rfl⟩

/-- A draft can take the place of a document, whatever it holds. -/
theorem Draft.replace_target (draft : Draft fs path temporary place)
    (target : Target fs path final) (content : Bytes) :
    (fs.put place (.file content)).replace temporary path.toText =
      .ok (fs.put final (.file content)) := by
  have walk := target.walk_keeps (keeps_put draft.free (.file content))
  have other : (fs.put place (.file content)).node? final ≠ some .directory := by
    rw [node?_put fs _ _ draft.ne_nil]
    split_ifs
    · exact nofun
    · exact target.other
  refine replace_eq_ok_iff.mpr ⟨place, _, final, draft.walk_put content false,
    (draft.hasFile content).file, nofun, walk, other, ?_⟩
  rw [erase_put draft.free]

theorem meets_fill_calm (draft : Draft fs path temporary place) (target : Target fs path final)
    (bytes : Bytes) :
    (fill temporary path ⟨bytes, none⟩).run.Meets Calm (fun _ => True) (fun r _ => r = .ok ())
      (fs.put place (.file [])) := by
  have drafted := meets_appendBlocks_calm draft [] (blocks bytes)
  rw [List.nil_append, flatten_blocks] at drafted
  unfold fill
  rw [meets_run_bind]
  refine drafted.mono (fun _ _ => trivial) ?_
  rintro r s ⟨rfl, rfl⟩
  have replaced := draft.replace_target target bytes
  refine meets_step (fun hm => absurd hm id) (fun r refused => ?_) fun fs' hs => ⟨trivial, rfl⟩
  cases refused.symm.trans replaced

/-- Drafting and putting in place, as `store` does it once the directories are there. -/
def placing (path directory : Path) (w : Json.Written) : Attempt Unit := do
  let temporary ← createTemporary directory path.name maxAttempts
  tryCatch (fill temporary path w) (giveUp temporary)

/-- Where one document can be placed, any other can. -/
theorem meets_placing_calm (tree : fs.IsTree) (ending : Ending path)
    (one : (placing path (draftDirectory fs path) ⟨[], none⟩).run.Meets Calm (fun _ => True)
      (fun r _ => r = .ok ()) fs) (bytes : Bytes) :
    (placing path (draftDirectory fs path) ⟨bytes, none⟩).run.Meets Calm (fun _ => True)
      (fun r _ => r = .ok ()) fs := by
  obtain ⟨done, stored⟩ := (one.and (meets_draft Calm ⟨[], none⟩ tree ending)).at_end
  obtain ⟨_, final, target, _⟩ : Stored fs path ⟨[], none⟩ _ := by
    rcases stored with ⟨problem, failed, _⟩ | ⟨_, stored⟩
    · cases done.symm.trans failed
    · exact stored
  unfold placing at one ⊢
  rw [meets_run_bind] at one ⊢
  refine (one.and (meets_createTemporary ending.slash _)).mono (fun _ _ => trivial) ?_
  rintro r s ⟨goesOn, ⟨problem, rfl, rfl⟩ | ⟨temporary, place, rfl, draft, rfl⟩⟩
  · cases goesOn
  · change (tryCatch _ _ : Attempt Unit).run.Meets _ _ _ _
    rw [meets_run_tryCatch]
    refine (meets_fill_calm draft target bytes).mono (fun _ _ => trivial) ?_
    rintro r s rfl
    rfl

/-- Where nothing is refused by chance, a path at which one text can be stored takes every text. -/
theorem store_takes (tree : fs.IsTree) (ending : Ending path)
    (one : ((store path ⟨[], none⟩).run.run [] fs).result = .ok ()) (bytes : Bytes) :
    ((store path ⟨bytes, none⟩).run.run [] fs).result = .ok () := by
  have one : (store path ⟨[], none⟩).run.Meets Calm (fun _ => True) (fun r _ => r = .ok ()) fs :=
    meets_of_run one
  suffices all : (store path ⟨bytes, none⟩).run.Meets Calm (fun _ => True)
      (fun r _ => r = .ok ()) fs from all.at_end
  unfold store at one ⊢
  rw [meets_run_bind] at one ⊢
  refine (one.and (meets_makeDirectories_extends path.parent tree)).mono (fun _ _ => trivial) ?_
  rintro r base ⟨goesOn, extended⟩
  cases r with
  | error problem => cases goesOn
  | ok => exact meets_placing_calm extended.2 ending goesOn bytes

end Writing

end SourceLedger
