import SourceLedger.Proofs.FileSystem.Find

/-!
# What the single changes do

A change succeeds exactly when its paths lead where it needs them to, and then it changes one
place, or two for a replacement. From this follows that every change keeps a file system a tree.
-/

namespace SourceLedger.FileSystem

variable {fs fs' : FileSystem} {path newPath : Text} {place : Location}

theorem makeDirectory_eq_ok_iff : fs.makeDirectory path = .ok fs' ↔
    ∃ place, fs.walk false path = .ok place ∧ fs.node? place = none ∧
      fs' = fs.put place .directory := by
  unfold makeDirectory
  cases fs.walk false path with
  | error r => simp [bind, Except.bind]
  | ok place =>
      simp only [bind, Except.bind, Except.ok.injEq, exists_eq_left']
      cases fs.node? place <;>
        simp [pure, Except.pure, throw, throwThe, MonadExceptOf.throw, eq_comm]

theorem createFile_eq_ok_iff : fs.createFile path = .ok fs' ↔
    ∃ place, fs.walk false path = .ok place ∧ fs.node? place = none ∧
      fs' = fs.put place (.file []) := by
  unfold createFile
  cases fs.walk false path with
  | error r => simp [bind, Except.bind]
  | ok place =>
      simp only [bind, Except.bind, Except.ok.injEq, exists_eq_left']
      cases fs.node? place <;>
        simp [pure, Except.pure, throw, throwThe, MonadExceptOf.throw, eq_comm]

theorem append_eq_ok_iff {bytes : Bytes} : fs.append path bytes = .ok fs' ↔
    ∃ place content, fs.walk true path = .ok place ∧ fs.node? place = some (.file content) ∧
      fs' = fs.put place (.file (content ++ bytes)) := by
  unfold append
  cases fs.walk true path with
  | error r => simp [bind, Except.bind]
  | ok place =>
      simp only [bind, Except.bind, Except.ok.injEq, exists_and_left, exists_eq_left']
      cases fs.node? place with
      | none => simp [throw, throwThe, MonadExceptOf.throw]
      | some node =>
          cases node <;> simp [pure, Except.pure, throw, throwThe, MonadExceptOf.throw, eq_comm]

theorem removeFile_eq_ok_iff : fs.removeFile path = .ok fs' ↔
    ∃ place node, fs.walk false path = .ok place ∧ fs.node? place = some node ∧
      node ≠ .directory ∧ fs' = fs.erase place := by
  unfold removeFile
  cases fs.walk false path with
  | error r => simp [bind, Except.bind]
  | ok place =>
      simp only [bind, Except.bind, Except.ok.injEq, exists_and_left, exists_eq_left']
      cases fs.node? place with
      | none => simp [throw, throwThe, MonadExceptOf.throw]
      | some node =>
          cases node <;> simp [pure, Except.pure, throw, throwThe, MonadExceptOf.throw, eq_comm]

theorem replace_eq_ok_iff : fs.replace path newPath = .ok fs' ↔
    ∃ place node newPlace, fs.walk false path = .ok place ∧ fs.node? place = some node ∧
      node ≠ .directory ∧ fs.walk false newPath = .ok newPlace ∧
      fs.node? newPlace ≠ some .directory ∧ fs' = (fs.erase place).put newPlace node := by
  unfold replace
  cases fs.walk false path with
  | error r => simp [bind, Except.bind]
  | ok place =>
      simp only [bind, Except.bind, Except.ok.injEq, exists_and_left, exists_eq_left']
      cases fs.node? place with
      | none => simp [throw, throwThe, MonadExceptOf.throw]
      | some node =>
          cases node with
          | directory => simp [throw, throwThe, MonadExceptOf.throw]
          | file | locked | link =>
              cases fs.walk false newPath with
              | error r => simp
              | ok newPlace =>
                  cases hn : fs.node? newPlace with
                  | none => simp [pure, Except.pure, hn, eq_comm]
                  | some node =>
                      cases node <;>
                        simp [pure, Except.pure, throw, throwThe, MonadExceptOf.throw, hn, eq_comm]

/-- Where a path leads in a tree, there is a directory or the place is in one. -/
theorem IsTree.walk (tree : fs.IsTree) {followLast : Bool}
    (h : fs.walk followLast path = .ok place) :
    fs.node? place = some .directory ∨
      ∃ above name, place = above ++ [name] ∧ fs.node? above = some .directory := by
  obtain ⟨route, _, start, leads⟩ := walk_eq_ok_iff.mp h
  exact leads.parent tree start

theorem IsTree.walk_put (tree : fs.IsTree) {followLast : Bool}
    (h : fs.walk followLast path = .ok place) (other : fs.node? place ≠ some .directory)
    (node : Node) : (fs.put place node).IsTree := by
  obtain hd | ⟨above, name, rfl, hd⟩ := tree.walk h
  · exact absurd hd other
  · exact isTree_put tree hd (fun hd' => absurd hd' other)

theorem IsTree.makeDirectory (tree : fs.IsTree) (h : fs.makeDirectory path = .ok fs') :
    fs'.IsTree := by
  obtain ⟨place, hw, hn, rfl⟩ := makeDirectory_eq_ok_iff.mp h
  exact tree.walk_put hw (by simp [hn]) _

theorem IsTree.createFile (tree : fs.IsTree) (h : fs.createFile path = .ok fs') :
    fs'.IsTree := by
  obtain ⟨place, hw, hn, rfl⟩ := createFile_eq_ok_iff.mp h
  exact tree.walk_put hw (by simp [hn]) _

theorem IsTree.append (tree : fs.IsTree) {bytes : Bytes} (h : fs.append path bytes = .ok fs') :
    fs'.IsTree := by
  obtain ⟨place, content, hw, hn, rfl⟩ := append_eq_ok_iff.mp h
  exact tree.walk_put hw (by simp [hn]) _

theorem IsTree.removeFile (tree : fs.IsTree) (h : fs.removeFile path = .ok fs') :
    fs'.IsTree := by
  obtain ⟨place, node, hw, hn, hne, rfl⟩ := removeFile_eq_ok_iff.mp h
  have other : fs.node? place ≠ some .directory := by simpa [hn] using hne
  refine isTree_erase tree ?_ other
  rintro rfl
  exact other rfl

theorem IsTree.replace (tree : fs.IsTree) (h : fs.replace path newPath = .ok fs') :
    fs'.IsTree := by
  obtain ⟨place, node, newPlace, hw, hn, hne, hw', other', rfl⟩ := replace_eq_ok_iff.mp h
  have other : fs.node? place ≠ some .directory := by simpa [hn] using hne
  have nonroot := ne_nil_of_not_directory other
  obtain hd | ⟨above, name, rfl, hd⟩ := tree.walk hw'
  · exact absurd hd other'
  · -- The old name is gone from a directory, never from above the new one.
    have away : place ≠ above := by
      rintro rfl
      exact other hd
    refine isTree_put (isTree_erase tree nonroot other) ?_ ?_
    · rw [node?_erase fs _ nonroot, if_neg away, hd]
    · rw [node?_erase fs _ nonroot]
      split_ifs
      · rintro ⟨⟩
      · exact fun hd' => absurd hd' other'

/-- Every change leaves a tree behind. -/
theorem IsTree.apply (tree : fs.IsTree) {s : Step} (h : s.apply fs = .ok fs') : fs'.IsTree := by
  cases s with
  | makeDirectory path => exact tree.makeDirectory h
  | createFile path => exact tree.createFile h
  | append path bytes => exact tree.append h
  | replace path newPath => exact tree.replace h
  | removeFile path => exact tree.removeFile h

end SourceLedger.FileSystem
