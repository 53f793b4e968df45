import Mathlib.Tactic.SplitIfs
import SourceLedger.FileSystem.Script

/-!
# Trees

A file system is a list of places, which as such could hold a file below nothing. `IsTree` says
that whatever is below the root is in a directory. The empty file system is a tree, and every
change keeps it one: nothing is made but where a way has led to through a directory, and a
directory is never replaced by something else.
-/

namespace SourceLedger.FileSystem

/-- Everything is in a directory. -/
def IsTree (fs : FileSystem) : Prop :=
  ∀ place name, (fs.node? (place ++ [name])).isSome → fs.node? place = some .directory

@[simp] theorem node?_root (fs : FileSystem) : fs.node? [] = some .directory := rfl

theorem ne_nil_of_not_directory {fs : FileSystem} {place : Location}
    (h : fs.node? place ≠ some .directory) : place ≠ [] := by
  rintro rfl
  exact h rfl

theorem isTree_empty : empty.IsTree := by
  intro place name h
  simp [node?, empty] at h

variable {fs fs' : FileSystem} {place : Location} {name : Text}

theorem mem_nodes {node : Node} (h : fs.node? place = some node) (hne : place ≠ []) :
    (place, node) ∈ fs.nodes := by
  unfold node? at h
  split at h
  · exact absurd rfl hne
  · obtain ⟨e, found, rfl⟩ := Option.map_eq_some_iff.mp h
    have key : e.1 = place := by simpa using List.find?_some found
    exact key ▸ List.mem_of_find?_eq_some found

theorem node?_of_mem {node : Node} (h : (place, node) ∈ fs.nodes) : fs.node? place ≠ none := by
  unfold node?
  split
  · exact Option.some_ne_none _
  · rw [Ne, Option.map_eq_none_iff, List.find?_eq_none]
    exact fun none => none _ h (by simp)

/-- Whatever is listed is in a directory. -/
theorem isTree_of_nodes (h : ∀ e ∈ fs.nodes, fs.node? e.1.dropLast = some .directory) :
    fs.IsTree := by
  intro place name hn
  obtain ⟨node, hnode⟩ := Option.isSome_iff_exists.mp hn
  have parent := h _ (mem_nodes hnode (by simp))
  rwa [List.dropLast_concat] at parent

theorem IsTree.parent (tree : fs.IsTree) {node : Node}
    (h : fs.node? (place ++ [name]) = some node) : fs.node? place = some .directory :=
  tree place name (by rw [h]; rfl)

/-- Nothing is below a place where nothing is. -/
theorem IsTree.node?_below (tree : fs.IsTree) (h : fs.node? place ≠ some .directory) :
    fs.node? (place ++ [name]) = none := by
  cases hn : fs.node? (place ++ [name]) with
  | none => rfl
  | some node => exact absurd (tree.parent hn) h

theorem IsTree.dropLast (tree : fs.IsTree) (h : fs.node? place = some .directory) :
    fs.node? place.dropLast = some .directory := by
  rcases List.eq_nil_or_concat place with rfl | ⟨above, name, rfl⟩
  · exact h
  · rw [List.concat_eq_append] at h ⊢
    rw [List.dropLast_concat]
    exact tree.parent h

/-- Everything that is in one file system is in the other as well. -/
structure Keeps (fs fs' : FileSystem) : Prop where
  current : fs'.current = fs.current
  node : ∀ place node, fs.node? place = some node → fs'.node? place = some node

namespace Keeps

theorem refl (fs : FileSystem) : Keeps fs fs := ⟨rfl, fun _ _ => id⟩

theorem trans {fs'' : FileSystem} (h : Keeps fs fs') (h' : Keeps fs' fs'') : Keeps fs fs'' :=
  ⟨h'.current.trans h.current, fun place node hn => h'.node place node (h.node place node hn)⟩

end Keeps

theorem isTree_put (tree : fs.IsTree) {node : Node} (parent : fs.node? place = some .directory)
    (old : fs.node? (place ++ [name]) = some .directory → node = .directory) :
    (fs.put (place ++ [name]) node).IsTree := by
  intro place' name' h
  rw [node?_put fs _ _ (by simp)] at h ⊢
  have above : fs.node? place' = some .directory := by
    split_ifs at h with heq
    · obtain ⟨rfl, _⟩ := List.append_inj' heq.symm rfl
      exact parent
    · exact tree place' name' h
  split_ifs with heq
  · rw [old (heq ▸ above)]
  · exact above

theorem isTree_erase (tree : fs.IsTree) (hne : place ≠ []) (h : fs.node? place ≠ some .directory) :
    (fs.erase place).IsTree := by
  intro place' name hn
  rw [node?_erase fs _ hne] at hn ⊢
  split_ifs at hn with heq
  · cases hn
  · rw [if_neg, tree place' name hn]
    rintro rfl
    exact h (tree place name hn)

end SourceLedger.FileSystem
