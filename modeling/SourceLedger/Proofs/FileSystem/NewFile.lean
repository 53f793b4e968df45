import SourceLedger.Proofs.FileSystem.Changes

/-!
# A new file

A file is put where nothing was. Every way leads where it led before, unless it leads to the new
file, and taking the file away again gives the file system that was there before.
-/

namespace SourceLedger.FileSystem

variable {fs : FileSystem} {place : Location} {content : Bytes}

theorem put_put (fs : FileSystem) (place : Location) (node node' : Node) :
    (fs.put place node).put place node' = fs.put place node' := by
  simp [put, List.filter_filter]

theorem filter_of_node?_none (h : fs.node? place = none) :
    (fs.nodes.filter fun (p, _) => p != place) = fs.nodes := by
  refine List.filter_eq_self.mpr fun (p, node) hp => bne_iff_ne.mpr ?_
  rintro rfl
  cases p with
  | nil => cases h
  | cons first rest =>
      simp only [node?, Option.map_eq_none_iff, List.find?_eq_none] at h
      exact h _ hp (beq_self_eq_true _)

theorem erase_put (h : fs.node? place = none) (node : Node) :
    (fs.put place node).erase place = fs := by
  simp [put, erase, filter_of_node?_none h]

theorem hasFile_put (fs : FileSystem) (hne : place ≠ []) (content : Bytes) :
    HasFile fs (fs.put place (.file content)) place content where
  current := rfl
  file := by rw [node?_put fs _ _ hne, if_pos rfl]
  others other h node hn := by rwa [node?_put fs _ _ hne, if_neg (Ne.symm h)]

theorem ne_nil_of_node?_none (h : fs.node? place = none) : place ≠ [] := by
  rintro rfl
  cases h

theorem keeps_put (h : fs.node? place = none) (node : Node) : Keeps fs (fs.put place node) := by
  refine ⟨rfl, fun other node' hn => ?_⟩
  rw [node?_put fs other node (ne_nil_of_node?_none h), if_neg, hn]
  rintro rfl
  simp [h] at hn

/-- A way leads where it led before, or it meets a new file where a directory is needed. -/
def MeetsFile (old new : Except SystemError Location) : Prop :=
  new = old ∨ new = .error .notDirectory

theorem walkFrom_put_file (content : Bytes) (free : fs.node? place = none) (followLast : Bool)
    (links : Nat) (here : Location) (toDirectory : Bool) (names : List Text) :
    MeetsFile (fs.walkFrom followLast links here toDirectory names)
      ((fs.put place (.file content)).walkFrom followLast links here toDirectory names) := by
  have hne := ne_nil_of_node?_none free
  have others : ∀ other, ¬other = place →
      (fs.put place (.file content)).node? other = fs.node? other := by
    intro other apart
    rw [node?_put fs _ _ hne, if_neg (Ne.symm apart)]
  refine walkFrom_related MeetsFile (fun _ => Or.inl rfl) others ?_ links here toDirectory names
  rintro links here toDirectory name names step rfl
  rw [walkFrom_file step (hasFile_put fs hne content).file rfl]
  split_ifs with last
  · rw [walkFrom_none step free, if_pos (Bool.and_eq_true .. ▸ last).1]
    exact Or.inl rfl
  · exact Or.inr rfl

/-- A path leads where it led before, or it meets the new file on the way. -/
theorem walk_put_file (content : Bytes) (free : fs.node? place = none) (followLast : Bool)
    (t : Text) :
    (fs.put place (.file content)).walk followLast t = fs.walk followLast t ∨
      (fs.put place (.file content)).walk followLast t = .error (.system .notDirectory) := by
  have hne := ne_nil_of_node?_none free
  have directories : ∀ other, (fs.put place (.file content)).node? other = some .directory ↔
      fs.node? other = some .directory := by
    intro other
    rw [node?_put fs _ _ hne]
    split_ifs with here
    · simp [← here, free]
    · rfl
  have current := (hasFile_put fs hne content).current
  obtain same | ⟨old, new, met, walk, walk'⟩ :=
    walk_related MeetsFile current directories (walkFrom_put_file content free followLast) t
  · exact Or.inl same
  · rw [walk, walk']
    obtain rfl | rfl := met
    · exact Or.inl rfl
    · exact Or.inr rfl

/-- Where a path leads when there is a new file, it led before. -/
theorem walk_of_put_file {followLast : Bool} {t : Text} {final : Location}
    (free : fs.node? place = none)
    (h : (fs.put place (.file content)).walk followLast t = .ok final) :
    fs.walk followLast t = .ok final := by
  rcases walk_put_file content free followLast t with same | fails
  · exact same.symm.trans h
  · cases h.symm.trans fails

theorem find_put_file {followLast : Bool} {t : Text} {node : Node}
    (free : fs.node? place = none)
    (h : (fs.put place (.file content)).find followLast t = .ok node) :
    fs.find followLast t = .ok node ∨
      (fs.put place (.file content)).walk followLast t = .ok place := by
  obtain ⟨final, hw, hn⟩ := find_eq_ok_iff.mp h
  by_cases hne : final = place
  · exact Or.inr (hne ▸ hw)
  · rw [node?_put fs _ _ (ne_nil_of_node?_none free), if_neg (Ne.symm hne)] at hn
    exact Or.inl (find_eq_ok_iff.mpr ⟨final, walk_of_put_file free hw, hn⟩)

theorem Reaches.without {t : Text} {before : List Text} {there : Location}
    (free : fs.node? place = none)
    (h : Reaches (fs.put place (.file content)) t before there) : Reaches fs t before there := by
  have hne := ne_nil_of_node?_none free
  have file := (hasFile_put fs hne content).file
  obtain ⟨route, left, check, start, passes⟩ := h
  refine ⟨route, left, check, ?_, ?_⟩
  · rw [node?_put fs _ _ hne] at start
    split_ifs at start
    · cases start
    · exact start
  · have notDirectory : (fs.put place (.file content)).node? place ≠ some .directory := by
      simp [file]
    refine passes.avoids (fun other hother node hn _ => ?_) notDirectory ?_
    · rwa [node?_put fs _ _ hne, if_neg (Ne.symm hother)] at hn
    · intro _ _ _ _ _ _ _ link
      simp [file] at link

end SourceLedger.FileSystem
