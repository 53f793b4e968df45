import SourceLedger.Proofs.FileSystem.Growth
import SourceLedger.Proofs.FileSystem.Script
import SourceLedger.Store.Writing

/-!
# Making the directories of a document

The directories that a document needs are made from the first one that is missing, each empty in
the one before. So as long as the way to the document breaks off somewhere there is nothing at
its path, and no directory is made at all where something is.

This needs that every `..` of the path stands behind a directory. Otherwise making the directory
before it can open a way to a file that is elsewhere.
-/

namespace SourceLedger

open FileSystem Script

variable {fs fs' fs'' : FileSystem} {path : Path} {rest : List Text} {name : Text}

namespace Writing

/-- What making the directories of a path has left behind: perhaps more directories, and if so
the way to the path breaks off. -/
structure Climbed (fs : FileSystem) (path : Path) (fs' : FileSystem) : Prop where
  grown : Grown fs fs'
  tree : fs'.IsTree
  breaks : fs' = fs ∨ ∃ before name rest,
    path.segments = before ++ name :: rest ∧ BreaksOff fs' path before name

theorem Climbed.start (path : Path) (tree : fs.IsTree) : Climbed fs path fs :=
  ⟨.refl fs, tree, Or.inl rfl⟩

variable {may : Step → Prop} {directory : Path}

/-- A path leads on from a directory above it. -/
structure Above (directory path : Path) (name : Text) (rest : List Text) : Prop where
  root : directory.root = path.root
  segments : path.segments = directory.segments ++ name :: rest

theorem Above.proper (h : Above directory path name rest) (proper : path.Proper) :
    directory.Proper :=
  fun s hs => proper s (h.segments ▸ List.mem_append_left _ hs)

theorem Above.startOfPath (h : Above directory path name rest) :
    fs.startOfPath directory = fs.startOfPath path := by
  have : directory.isAbsolute = path.isAbsolute := by rw [Path.isAbsolute, h.root]; rfl
  rw [FileSystem.startOfPath, this, FileSystem.startOfPath]

theorem Above.leadsInto (h : Above directory path name rest) {before : List Text}
    {there : Location} :
    LeadsInto fs directory before there ↔ LeadsInto fs path before there := by
  simp only [LeadsInto, h.startOfPath]

theorem Above.breaksOff (h : Above directory path name rest) {before : List Text} {last : Text} :
    BreaksOff fs directory before last ↔ BreaksOff fs path before last := by
  simp only [BreaksOff, h.leadsInto]

/-- Where a directory has been made, the way to the path breaks off behind it. -/
theorem Above.climbed (h : Above directory path name rest) (proper : path.Proper)
    (settled : Settled fs path) (climbed : Climbed fs path fs')
    (made : fs'.makeDirectory directory.toText = .ok fs'') :
    Climbed fs path fs'' ∧ BreaksOff fs'' path directory.segments name := by
  obtain ⟨grown, ⟨before, last, segments, missing⟩, there, into, empty⟩ :=
    makeDirectory_breaksOff climbed.tree (h.proper proper) made
  have ne_dotDot : name ≠ Path.dotDot := by
    rintro rfl
    obtain ⟨there, into⟩ := settled directory.segments rest h.segments
    have ne_dot := (h.proper proper last (by simp [segments])).2
    rw [segments] at into
    exact (h.breaksOff.mp missing).not_leadsInto ne_dot (into.keeps climbed.grown.keeps)
  have breaks : BreaksOff fs'' path directory.segments name :=
    ⟨ne_dotDot, there, h.leadsInto.mp into, empty name⟩
  exact ⟨⟨climbed.grown.trans grown, climbed.tree.makeDirectory made,
    Or.inr ⟨_, _, _, h.segments, breaks⟩⟩, breaks⟩

/-- What follows when making a directory is refused. -/
def unlessThere (path : Text) : Refusal → Script (Except WriteProblem Unit)
  | .system e =>
    if e = .notFound then .done (.error (.refused path (.system e)))
    else
      .look fun fs =>
        if fs.isDirectory path then .done (.ok ())
        else .done (.error (.refused path (.system e)))
  | r => .done (.error (.refused path r))

theorem run_makeDirectory (path : Text) :
    (makeDirectory path).run = .step (.makeDirectory path) (fun
      | .ok () => .done (.ok ())
      | .error r => unlessThere path r) := by
  change Script.step _ _ = _
  congr 1
  funext r
  rcases r with (e | _ | _) | _ <;> rfl

/-- What follows when making the last one of several directories is refused. -/
def unlessAbove (path : Path) : Refusal → Script (Except WriteProblem Unit)
  | .system .notFound =>
    if path.segments = [] then .done (.error (.refused path.toText (.system .notFound)))
    else (do makeDirectories path.parent; makeDirectory path.toText : Attempt Unit).run
  | .system e =>
    .look fun fs =>
      if fs.isDirectory path.toText then .done (.ok ())
      else .done (.error (.refused path.toText (.system e)))
  | r => .done (.error (.refused path.toText r))

theorem run_makeDirectories (path : Path) :
    (makeDirectories path).run = .step (.makeDirectory path.toText) (fun
      | .ok () => .done (.ok ())
      | .error r => unlessAbove path r) := by
  rw [makeDirectories]
  change Script.step _ _ = _
  congr 1
  funext r
  rcases r with (e | _ | _) | _
  · cases e <;> rfl
  all_goals rfl

/-- The state that making a directory leaves behind, and what success says of it. -/
abbrev Made (fs : FileSystem) (path directory : Path) (name : Text) (r : Except WriteProblem Unit)
    (fs' : FileSystem) : Prop :=
  Climbed fs path fs' ∧ (r = .ok () → fs' = fs ∨ BreaksOff fs' path directory.segments name)

variable {r : Except WriteProblem Unit}

/-- Looking whether the directory is there after all. -/
theorem made_ite (climbed : Climbed fs path fs')
    (there : fs'.isDirectory directory.toText = true → fs' = fs) (problem : WriteProblem) :
    (if fs'.isDirectory directory.toText then Script.done (.ok ())
      else .done (.error problem)).Meets may (Climbed fs path)
        (Made fs path directory name) fs' := by
  split_ifs with h
  · exact ⟨climbed, fun _ => Or.inl (there h)⟩
  · exact ⟨climbed, nofun⟩

theorem meets_unlessThere (may : Step → Prop) (name : Text) (climbed : Climbed fs path fs')
    (there : fs'.isDirectory directory.toText = true → fs' = fs) (refusal : Refusal) :
    (unlessThere directory.toText refusal).Meets may (Climbed fs path)
      (Made fs path directory name) fs' := by
  cases refusal with
  | system e =>
      simp only [unlessThere]
      split_ifs
      · exact ⟨climbed, nofun⟩
      · exact made_ite climbed there _
  | nullInPath | unencodable => exact ⟨climbed, nofun⟩

theorem meets_makeDirectory (above : Above directory path name rest) (proper : path.Proper)
    (settled : Settled fs path) (climbed : Climbed fs path fs')
    (there : fs'.isDirectory directory.toText = true → fs' = fs) :
    (makeDirectory directory.toText).run.Meets may (Climbed fs path)
      (Made fs path directory name) fs' := by
  rw [run_makeDirectory]
  have refused := meets_unlessThere may name climbed there
  refine meets_step (fun _ e => refused (.system e)) (fun r _ => refused r) fun fs'' made => ?_
  obtain ⟨climbed, breaks⟩ := above.climbed proper settled climbed made
  exact ⟨climbed, climbed, fun _ => Or.inr breaks⟩

/-- Making directories never lets a path lead to anything else. -/
theorem meets_makeDirectories (tree : fs.IsTree) (proper : path.Proper)
    (settled : Settled fs path) (above : Above directory path name rest) :
    (makeDirectories directory).run.Meets may (Climbed fs path)
      (Made fs path directory name) fs := by
  induction hn : directory.segments.length using Nat.strongRecOn
    generalizing directory name rest with
  | ind n ih =>
      have start := Climbed.start path tree
      have refused : ∀ r, (unlessAbove directory r).Meets may (Climbed fs path)
          (Made fs path directory name) fs := by
        intro r
        unfold unlessAbove
        split
        · split_ifs with hnil
          · exact ⟨start, nofun⟩
          · obtain ⟨front, last, hs⟩ :=
              List.eq_nil_or_concat directory.segments |>.resolve_left hnil
            rw [List.concat_eq_append] at hs
            have parent : directory.parent.segments = front := by simp [Path.parent, hs]
            have above' : Above directory.parent path last (name :: rest) :=
              ⟨above.root, by rw [parent, above.segments, hs]; simp⟩
            have shorter : directory.parent.segments.length < n := by simp [parent, ← hn, hs]
            rw [meets_run_bind]
            refine (ih _ shorter above' rfl).mono (fun _ hs => hs) fun r fs' made => ?_
            obtain ⟨climbed, ok⟩ := made
            cases r with
            | error problem => exact ⟨climbed, nofun⟩
            | ok =>
                refine meets_makeDirectory above proper settled climbed fun hd => ?_
                rcases ok rfl with rfl | breaks
                · rfl
                · have segments : directory.segments = directory.parent.segments ++ [last] := by
                    rw [parent, hs]
                  have vacant := (above.breaksOff.mpr breaks).vacant (above.proper proper) segments
                  exact absurd (isDirectory_iff.mp hd) (vacant.find _ _)
        · exact made_ite start (fun _ => rfl) _
        · exact ⟨start, nofun⟩
      rw [run_makeDirectories]
      refine meets_step (fun _ e => refused (.system e)) (fun r _ => refused r) fun fs' made => ?_
      obtain ⟨climbed, breaks⟩ := above.climbed proper settled start made
      exact ⟨climbed, climbed, fun _ => Or.inr breaks⟩

end Writing

end SourceLedger
