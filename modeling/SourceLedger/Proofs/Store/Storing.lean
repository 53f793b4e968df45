import SourceLedger.Proofs.Store.Drafts

/-!
# Storing a document

Storing a document first makes the directories that are missing, then drafts the document, then
puts the draft in its place. Wherever this stops, the path leads to what it led to before or to
the whole new document.
-/

namespace SourceLedger

open FileSystem Script

variable {fs fs' base : FileSystem} {path : Path} {w : Json.Written} {may : Step → Prop}

namespace Writing

/-- The directories of a path have been made. -/
structure Ready (fs : FileSystem) (path : Path) (base : FileSystem) : Prop where
  climbed : Climbed fs path base
  breaks : base = fs ∨
    ∃ before name, path.segments = before ++ [name] ∧ BreaksOff base path before name

theorem above_parent (hne : path.segments ≠ []) :
    Above path.parent path path.name [] where
  root := rfl
  segments := by
    rcases path.segments.eq_nil_or_concat with hs | ⟨before, last, hs⟩
    · exact absurd hs hne
    · rw [List.concat_eq_append] at hs
      simp [Path.parent, Path.name, hs]

/-- A path without segments is a directory, and none is made. -/
theorem meets_makeDirectories_root (tree : fs.IsTree) (proper : path.Proper)
    (hnil : path.segments = []) :
    (makeDirectories path).run.Meets may (fun s => s = fs) (fun _ s => s = fs) fs := by
  have refused : ∀ r, (unlessAbove path r).Meets may (fun s => s = fs) (fun _ s => s = fs) fs := by
    intro r
    unfold unlessAbove
    split
    · rw [if_pos hnil]
      rfl
    · simp only [Meets]
      split_ifs <;> rfl
    · rfl
  rw [run_makeDirectories]
  refine meets_step (fun _ e => refused (.system e)) (fun r _ => refused r) fun fs' made => ?_
  obtain ⟨place, hw, missing, rfl⟩ := makeDirectory_eq_ok_iff.mp made
  have directory := walk_toText_directory tree proper hw (by simp [hnil])
  simp [directory] at missing

theorem meets_makeDirectories_parent (tree : fs.IsTree) (proper : path.Proper)
    (settled : Settled fs path) :
    (makeDirectories path.parent).run.Meets may (Climbed fs path)
      (fun r s => Climbed fs path s ∧ (r = .ok () → Ready fs path s)) fs := by
  by_cases hne : path.segments = []
  · have root : path.parent.segments = [] := by simp [Path.parent, hne]
    refine (meets_makeDirectories_root tree proper.parent root).mono ?_ ?_
    · rintro s rfl
      exact Climbed.start path tree
    · rintro r s rfl
      exact ⟨Climbed.start path tree, fun _ => ⟨Climbed.start path tree, Or.inl rfl⟩⟩
  · have above := above_parent hne
    refine (meets_makeDirectories tree proper settled above).mono (fun _ h => h) ?_
    rintro r s ⟨climbed, made⟩
    refine ⟨climbed, fun ok => ⟨climbed, ?_⟩⟩
    rcases made ok with rfl | breaks
    · exact Or.inl rfl
    · exact Or.inr ⟨_, _, above.segments, breaks⟩

/-- What storing can leave behind before it is done. -/
def Underway (fs : FileSystem) (path : Path) (w : Json.Written) (fs' : FileSystem) : Prop :=
  Climbed fs path fs' ∨ ∃ base, Ready fs path base ∧ Drafted base path w fs'

/-- What storing leaves behind when it is done. -/
def Finished (fs : FileSystem) (path : Path) (w : Json.Written) (fs' : FileSystem) : Prop :=
  ∃ base, Ready fs path base ∧ Stored base path w fs'

theorem meets_store (may : Step → Prop) (w : Json.Written) (tree : fs.IsTree)
    (proper : path.Proper) (settled : Settled fs path) :
    (store path w).run.Meets may
      (fun s => Underway fs path w s ∨ Finished fs path w s)
      (fun r s =>
        (∃ problem, r = .error problem ∧ (Climbed fs path s ∨
          (∃ t, may (.removeFile t)) ∧ Underway fs path w s)) ∨
        (r = .ok () ∧ Finished fs path w s)) fs := by
  unfold store
  rw [meets_run_bind]
  refine (meets_makeDirectories_parent tree proper settled).mono
    (fun s climbed => Or.inl (Or.inl climbed)) fun r base h => ?_
  obtain ⟨climbed, ready⟩ := h
  cases r with
  | error problem => exact Or.inl ⟨problem, rfl, Or.inl climbed⟩
  | ok =>
      have ready := ready rfl
      refine (meets_draft may w climbed.tree (ending_of_proper proper)).mono ?_ fun r s h => ?_
      · rintro s (rfl | drafted | stored)
        · exact Or.inl (Or.inl climbed)
        · exact Or.inl (Or.inr ⟨base, ready, drafted⟩)
        · exact Or.inr ⟨base, ready, stored⟩
      · rcases h with ⟨problem, rfl, rfl | ⟨may, drafted⟩⟩ | ⟨rfl, stored⟩
        · exact Or.inl ⟨problem, rfl, Or.inl climbed⟩
        · exact Or.inl ⟨problem, rfl, Or.inr ⟨may, Or.inr ⟨base, ready, drafted⟩⟩⟩
        · exact Or.inr ⟨rfl, base, ready, stored⟩

/-- A path leads to the place of a draft of its own document. -/
structure LeadsToDraft (fs : FileSystem) (path : Path) (place : Location) : Prop where
  named : ∃ above n, place = above ++ [temporaryName path.name n]
  beside : ∃ n, fs.walk false (draftPath fs path n) = .ok place
  free : fs.node? place = none
  walk : fs.walk true path.toText = .ok place

/-- The path leads to what it led to before, and everything else is still there. A link to where
a draft happens to be made leads to the draft. -/
structure Intact (fs : FileSystem) (path : Path) (fs' : FileSystem) : Prop where
  keeps : Keeps fs fs'
  vacant : Vacant fs path → Vacant fs' path
  finds : ∀ node, fs'.find true path.toText = .ok node →
    fs.find true path.toText = .ok node ∨
      ∃ place, LeadsToDraft fs path place ∧ fs'.walk true path.toText = .ok place

/-- A path does not come past its own end: with a file at its end, it still leads there. -/
def Straight (fs : FileSystem) (path : Path) : Prop :=
  ∀ place content, fs.walk false path.toText = .ok place → fs.node? place ≠ some .directory →
    (fs.put place (.file content)).walk false path.toText = .ok place

/-- The path leads to a new file in place of what was there, and everything else is still there.
-/
structure Replaced (fs : FileSystem) (path : Path) (bytes : Bytes) (fs' : FileSystem) : Prop where
  hasFile : ∃ place, HasFile fs fs' place bytes ∧ fs.node? place ≠ some .directory ∧
    (Vacant fs path ∨ fs.walk false path.toText = .ok place)
  reads : Straight fs path →
    ∀ followLast, fs'.find followLast path.toText = .ok (.file bytes)

theorem Intact.of_vacant (keeps : Keeps fs fs') (vacant : Vacant fs' path) :
    Intact fs path fs' where
  keeps := keeps
  vacant _ := vacant
  finds node hf := absurd hf (vacant.missing node)

theorem Intact.refl (fs : FileSystem) (path : Path) : Intact fs path fs :=
  ⟨.refl fs, id, fun _ => Or.inl⟩

theorem Intact.missing (intact : Intact fs path fs') (missing : Missing fs path)
    (undrafted : ∀ place, ¬LeadsToDraft fs path place) : Missing fs' path := by
  intro node found
  rcases intact.finds node found with found | ⟨place, drafted, _⟩
  · exact missing node found
  · exact undrafted place drafted

/-- A draft is not at the path itself. -/
theorem Draft.ne_walk {temporary : Text} {place : Location} {content : Bytes}
    (draft : Draft fs path temporary place) (tree : fs.IsTree) (proper : path.Proper) :
    (fs.put place (.file content)).walk false path.toText ≠ .ok place := by
  intro hw
  have file := (draft.hasFile content).file
  obtain ⟨above, n, rfl⟩ := draft.named
  by_cases step : ∃ before name, path.segments = before ++ [name] ∧ name ≠ Path.dotDot
  · obtain ⟨before, name, segments, ne_dotDot⟩ := step
    obtain ⟨_, there, _, heq⟩ := (endsIn_toText proper segments ne_dotDot).walk_iff.mp hw
    obtain ⟨_, heq⟩ := List.append_inj' heq rfl
    exact temporaryName_ne ((List.singleton_inj.mp heq).trans (Path.name_eq segments).symm)
  · have directory := walk_toText_directory (draft.tree tree content) proper hw
      fun before name hs => by_contra fun hne => step ⟨before, name, hs, hne⟩
    simp [file] at directory

theorem Draft.leadsToDraft {temporary : Text} {place : Location}
    (draft : Draft fs path temporary place) (walk : fs.walk true path.toText = .ok place) :
    LeadsToDraft fs path place := by
  obtain ⟨n, rfl⟩ := draft.beside
  exact ⟨draft.named, ⟨n, draft.walk⟩, draft.free, walk⟩

theorem BreaksOff.draft {temporary : Text} {place : Location} {content : Bytes}
    {before : List Text} (breaks : BreaksOff fs path before path.name)
    (draft : Draft fs path temporary place) :
    BreaksOff (fs.put place (.file content)) path before path.name := by
  obtain ⟨ne_dotDot, there, into, missing⟩ := breaks
  refine ⟨ne_dotDot, there, into.keeps (keeps_put draft.free _), ?_⟩
  obtain ⟨above, n, rfl⟩ := draft.named
  rw [node?_put fs _ _ draft.ne_nil, if_neg, missing]
  intro heq
  obtain ⟨_, heq⟩ := List.append_inj' heq rfl
  exact temporaryName_ne (List.singleton_inj.mp heq)

/-- On the way there is at most a draft beside what there was, or the way to the path breaks off. -/
inductive Halfway (fs : FileSystem) (path : Path) : FileSystem → Prop
  | unchanged : Halfway fs path fs
  | drafted {temporary : Text} {place : Location} {part : Bytes}
      (draft : Draft fs path temporary place) : Halfway fs path (fs.put place (.file part))
  | broken {fs' : FileSystem} {before rest : List Text} {name : Text}
      (segments : path.segments = before ++ name :: rest) (breaks : BreaksOff fs' path before name)
      (keeps : Keeps fs fs') (tree : fs'.IsTree) : Halfway fs path fs'

theorem Climbed.halfway (climbed : Climbed fs path fs') : Halfway fs path fs' := by
  rcases climbed.breaks with rfl | ⟨before, name, rest, segments, breaks⟩
  · exact .unchanged
  · exact .broken segments breaks climbed.grown.keeps climbed.tree

theorem Underway.halfway (underway : Underway fs path w fs') : Halfway fs path fs' := by
  rcases underway with climbed | ⟨base, ready, temporary, place, part, draft, -, rfl⟩
  · exact climbed.halfway
  rcases ready.breaks with rfl | ⟨before, name, segments, breaks⟩
  · exact .drafted draft
  · obtain rfl := Path.name_eq segments
    exact .broken segments (BreaksOff.draft breaks draft)
      (ready.climbed.grown.keeps.trans (keeps_put draft.free _))
      (draft.tree ready.climbed.tree part)

namespace Halfway

theorem keeps (halfway : Halfway fs path fs') : Keeps fs fs' := by
  cases halfway with
  | unchanged => exact .refl fs
  | drafted draft => exact keeps_put draft.free _
  | broken _ _ keeps => exact keeps

theorem isTree (halfway : Halfway fs path fs') (tree : fs.IsTree) : fs'.IsTree := by
  cases halfway with
  | unchanged => exact tree
  | drafted draft => exact draft.tree tree _
  | broken _ _ _ tree => exact tree

theorem intact (halfway : Halfway fs path fs') (tree : fs.IsTree) (proper : path.Proper) :
    Intact fs path fs' := by
  cases halfway with
  | unchanged => exact .refl fs path
  | broken segments breaks keeps => exact .of_vacant keeps (breaks.vacant proper segments)
  | drafted draft =>
      refine ⟨keeps_put draft.free _, fun vacant node hf => ?_, fun node hf => ?_⟩
      · rcases find_put_file draft.free hf with hf | hw
        · exact vacant node hf
        · exact draft.ne_walk tree proper hw
      · rcases find_put_file draft.free hf with hf | hw
        · exact Or.inl hf
        · exact Or.inr ⟨_, draft.leadsToDraft (walk_of_put_file draft.free hw), hw⟩

end Halfway

/-- A draft does not change why a path leads to nothing, unless it is in the way itself. -/
theorem Draft.absent {temporary : Text} {place : Location} {content : Bytes}
    (draft : Draft fs path temporary place) (missing : Missing (fs.put place (.file content)) path)
    (absent : Absent fs path) : Absent (fs.put place (.file content)) path := by
  have notThere : (fs.put place (.file content)).walk true path.toText ≠ .ok place := fun hw =>
    missing _ (find_eq_ok_iff.mpr ⟨place, hw, (draft.hasFile content).file⟩)
  rcases walk_put_file content draft.free true path.toText with same | fails
  · obtain ⟨r, hf, means⟩ := absent
    cases hw : fs.walk true path.toText with
    | error e =>
        rw [FileSystem.find, hw] at hf
        cases hf
        exact absent_of_walk (same.trans hw) means
    | ok final =>
        have hne : final ≠ place := by
          rintro rfl
          exact notThere (same.trans hw)
        refine absent_of_walk_none (same.trans hw) ?_
        rw [node?_put fs _ _ draft.ne_nil, if_neg (Ne.symm hne)]
        cases hn : fs.node? final with
        | none => rfl
        | some node => cases hf.symm.trans (find_eq_ok_iff.mpr ⟨final, hw, hn⟩)
  · exact absent_of_walk fails rfl

theorem Halfway.absent (halfway : Halfway fs path fs') (proper : path.Proper)
    (nameable : Nameable path) (missing : Missing fs' path) (absent : Absent fs path) :
    Absent fs' path := by
  cases halfway with
  | unchanged => exact absent
  | drafted draft => exact draft.absent missing absent
  | broken segments breaks => exact breaks.absent proper nameable segments absent

section Straight

variable {place : Location} {content : Bytes}

/-- A file at the end of a path is what it leads to, whatever else is added. -/
theorem Straight.walk_hasFile (straight : Straight fs path)
    (hw : fs.walk false path.toText = .ok place) (other : fs.node? place ≠ some .directory)
    (has : HasFile fs fs' place content) : fs'.walk false path.toText = .ok place := by
  have hne := ne_nil_of_not_directory other
  have file := (hasFile_put fs hne content).file
  have keeps : Keeps (fs.put place (.file content)) fs' := by
    refine ⟨has.current, fun place' node hn => ?_⟩
    rw [node?_put fs _ _ hne] at hn
    split_ifs at hn with here
    · cases hn
      exact here ▸ has.file
    · exact has.others _ (Ne.symm here) _ hn
  exact keeps.walk (straight place content hw other) (by simp [file])

/-- A path that leads to something other than a directory stays straight when other things are
added. -/
theorem Straight.keeps (straight : Straight fs path) {node : Node}
    (found : fs.find false path.toText = .ok node) (keeps : Keeps fs fs') : Straight fs' path := by
  intro place content hw other
  obtain ⟨place', hw', hn⟩ := find_eq_ok_iff.mp found
  obtain rfl := Except.ok.inj (hw.symm.trans (keeps.walk hw' (by simp [hn])))
  have hne := ne_nil_of_not_directory other
  exact straight.walk_hasFile hw' (fun hd => other (keeps.node _ _ hd))
    ((hasFile_put fs' hne content).of_keeps keeps)

/-- A path is straight if nothing at its end can be passed through. -/
theorem straight_of_notPast (tree : fs.IsTree) (proper : path.Proper)
    (away : ∀ place before, EndsIn path.toText before path.name →
      fs.walk false path.toText = .ok place → NotPast fs place) : Straight fs path := by
  intro place content hw other
  obtain ⟨before, ends⟩ := (ending_of_proper proper).ends tree hw other
  have hne := ne_nil_of_not_directory other
  exact ends.walk_hasFile hw (away place before ends hw) (hasFile_put fs hne content)

theorem straight_of_vacant (tree : fs.IsTree) (proper : path.Proper) (vacant : Vacant fs path) :
    Straight fs path := by
  refine straight_of_notPast tree proper fun place _ _ hw => ?_
  cases hn : fs.node? place with
  | none => exact notPast_of_none hn
  | some node => exact absurd (find_eq_ok_iff.mpr ⟨place, hw, hn⟩) (vacant node)

/-- A path is straight if it leads neither to a directory nor through too many links. -/
theorem straight_of_find (tree : fs.IsTree) (proper : path.Proper)
    (notDirectory : fs.find true path.toText ≠ .ok .directory)
    (fewLinks : fs.find true path.toText ≠ .error (.system .tooManyLinks)) : Straight fs path :=
  straight_of_notPast tree proper fun _ _ ends hw => ends.notPast tree hw notDirectory fewLinks

end Straight

theorem Ready.straight (ready : Ready fs path base) (proper : path.Proper)
    (straight : Straight fs path) : Straight base path := by
  rcases ready.breaks with rfl | ⟨before, name, segments, breaks⟩
  · exact straight
  · exact straight_of_vacant ready.climbed.tree proper (breaks.vacant proper segments)

theorem Finished.replaced (finished : Finished fs path w fs') (proper : path.Proper) :
    Replaced fs path w.bytes fs' := by
  obtain ⟨base, ready, _, place, target, rfl⟩ := finished
  have hne := ne_nil_of_not_directory target.other
  have has := hasFile_put base hne w.bytes
  have keeps := ready.climbed.grown.keeps
  refine ⟨⟨place, has.of_keeps keeps, fun hd => target.other (keeps.node _ _ hd), ?_⟩,
    fun straight followLast => ?_⟩
  · rcases ready.breaks with rfl | ⟨before, name, segments, breaks⟩
    · exact Or.inr target.walk
    · exact Or.inl ((breaks.vacant proper segments).of_keeps keeps)
  · obtain ⟨before, ends⟩ := target.ends
    have hw := ready.straight proper straight place w.bytes target.walk target.other
    obtain ⟨step, there, reaches, rfl⟩ := ends.walk_iff.mp hw
    exact find_eq_ok_iff.mpr ⟨_, ends.walk_file step reaches has.file, has.file⟩

end Writing

end SourceLedger
