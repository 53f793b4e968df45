import SourceLedger.Proofs.Store.Atomic
import SourceLedger.Proofs.Store.Document

/-!
# Writing a document again

Whatever its path is, a document that was written is at its path, unless the path came past its own
end: then nothing is found there any more. The first writing can make directories that let the path
lead elsewhere; after it there is a file at the end of the path, so that a document that was written
twice is found in any case.
-/

namespace SourceLedger

open FileSystem Script

namespace Writing

variable {fs fs' fs'' : FileSystem} {path : Path} {w : Json.Written} {may : Step → Prop}

/-- Things were added to a file system, and nothing else. -/
def Extends (fs fs' : FileSystem) : Prop := Keeps fs fs' ∧ fs'.IsTree

theorem extends_of_makeDirectory {t : Text} (extended : Extends fs fs')
    (made : fs'.makeDirectory t = .ok fs'') : Extends fs fs'' := by
  obtain ⟨keeps, tree⟩ := extended
  refine ⟨keeps.trans ?_, tree.makeDirectory made⟩
  obtain ⟨place, _, missing, rfl⟩ := makeDirectory_eq_ok_iff.mp made
  exact keeps_put missing .directory

theorem meets_makeDirectory_extends (t : Text) (extended : Extends fs fs') :
    (makeDirectory t).run.Meets may (Extends fs) (fun _ => Extends fs) fs' := by
  have refused : ∀ r, (unlessThere t r).Meets may (Extends fs) (fun _ => Extends fs) fs' := by
    intro r
    cases r with
    | system e =>
        simp only [unlessThere]
        split_ifs
        · exact extended
        · simp only [Meets]
          split_ifs <;> exact extended
    | nullInPath | unencodable => exact extended
  rw [run_makeDirectory]
  refine meets_step (fun _ e => refused (.system e)) (fun r _ => refused r) fun fs'' made => ?_
  have extended := extends_of_makeDirectory extended made
  exact ⟨extended, extended⟩

/-- Making directories takes nothing away, wherever they are. -/
theorem meets_makeDirectories_extends (path : Path) (tree : fs.IsTree) :
    (makeDirectories path).run.Meets may (Extends fs) (fun _ => Extends fs) fs := by
  induction hn : path.segments.length using Nat.strongRecOn generalizing path with
  | ind n ih =>
      have start : Extends fs fs := ⟨.refl fs, tree⟩
      have refused : ∀ r,
          (unlessAbove path r).Meets may (Extends fs) (fun _ => Extends fs) fs := by
        intro r
        unfold unlessAbove
        split
        · split_ifs with hnil
          · exact start
          · have shorter : path.parent.segments.length < n := by
              have := List.length_pos_iff.mpr hnil
              simp only [Path.parent, List.length_dropLast]
              omega
            rw [meets_run_bind]
            refine (ih _ shorter path.parent rfl).mono (fun _ hs => hs) fun r fs' extended => ?_
            cases r with
            | error problem => exact extended
            | ok => exact meets_makeDirectory_extends path.toText extended
        · simp only [Meets]
          split_ifs <;> exact start
        · exact start
      rw [run_makeDirectories]
      refine meets_step (fun _ e => refused (.system e)) (fun r _ => refused r) fun fs' made => ?_
      have extended := extends_of_makeDirectory start made
      exact ⟨extended, extended⟩

/-- A document was stored, in whatever the making of its directories had left. -/
def Landed (fs : FileSystem) (path : Path) (w : Json.Written) (fs' : FileSystem) : Prop :=
  ∃ base, Extends fs base ∧ Stored base path w fs'

/-- Storing lands a document or adds something, whatever the path is. -/
theorem meets_store_landed (w : Json.Written) (tree : fs.IsTree) (ending : Ending path) :
    (store path w).run.Meets may (fun _ => True)
      (fun r s => (r = .ok () ∧ Landed fs path w s) ∨
        (∃ problem, r = .error problem) ∧ Keeps fs s) fs := by
  unfold store
  rw [meets_run_bind]
  refine (meets_makeDirectories_extends path.parent tree).mono (fun _ _ => trivial)
    fun r base extended => ?_
  cases r with
  | error problem => exact Or.inr ⟨⟨problem, rfl⟩, extended.1⟩
  | ok =>
      refine (meets_draft may w extended.2 ending).mono (fun _ _ => trivial) fun r s h => ?_
      rcases h with ⟨problem, failed, rfl | ⟨_, _, _, _, draft, _, rfl⟩⟩ | ⟨done, stored⟩
      · exact Or.inr ⟨⟨problem, failed⟩, extended.1⟩
      · exact Or.inr ⟨⟨problem, failed⟩, extended.1.trans (keeps_put draft.free _)⟩
      · exact Or.inl ⟨done, base, extended, stored⟩

/-- There is nothing at a path, whatever is added to the file system. -/
def Lost (fs : FileSystem) (path : Path) : Prop := ∀ fs', Keeps fs fs' → Vacant fs' path

/-- Every `..` of a path stands behind names that lead into a directory, and the path does not come
past its own end. -/
structure Direct (fs : FileSystem) (path : Path) : Prop where
  proper : path.Proper
  settled : Settled fs path
  straight : Straight fs path

/-- Something holds when a document has been written at a path, unless the path came past its own
end, so that nothing is ever found there again. A direct path does not. -/
structure UnlessPast (fs fs' : FileSystem) (path : Path) (P : Prop) : Prop where
  or_lost : P ∨ Lost fs' path
  direct : Direct fs path → P

theorem UnlessPast.imp {P Q : Prop} (h : P → Q) (holds : UnlessPast fs fs' path P) :
    UnlessPast fs fs' path Q :=
  ⟨holds.or_lost.imp_left h, fun direct => h (holds.direct direct)⟩

/-- A document that was stored is found at its path, unless the path came past its own end: then
nothing is at the path any more. -/
theorem Landed.found_or_lost (landed : Landed fs path w fs') :
    (∀ followLast, fs'.find followLast path.toText = .ok (.file w.bytes)) ∨ Lost fs' path := by
  obtain ⟨base, _, _, place, target, rfl⟩ := landed
  have hne := ne_nil_of_not_directory target.other
  obtain ⟨before, ends⟩ := target.ends
  by_cases lost : Lost (base.put place (.file w.bytes)) path
  · exact Or.inr lost
  · simp only [Lost, Vacant, not_forall, not_not] at lost
    obtain ⟨later, keeps, node, found⟩ := lost
    exact Or.inl (ends.find_of_later target.walk (hasFile_put base hne w.bytes) keeps found)

/-- The path leads to a file that was put at a place, and everything else is still there. -/
structure Placed (fs : FileSystem) (path : Path) (place : Location) (bytes : Bytes)
    (fs' : FileSystem) : Prop where
  hasFile : HasFile fs fs' place bytes
  walk : ∀ followLast, fs'.walk followLast path.toText = .ok place

theorem Placed.read {place : Location} {bytes : Bytes} (placed : Placed fs path place bytes fs') :
    fs'.read path.toText = .ok bytes :=
  read_eq_ok_iff.mpr (find_eq_ok_iff.mpr ⟨place, placed.walk true, placed.hasFile.file⟩)

theorem Placed.trans {place : Location} {old bytes : Bytes} (first : Placed fs path place old fs')
    (second : Placed fs' path place bytes fs'') : Placed fs path place bytes fs'' :=
  ⟨first.hasFile.trans second.hasFile, second.walk⟩

/-- A document that is stored twice is at one place after both times. -/
theorem Landed.placed {w' : Json.Written} (first : Landed fs path w fs')
    (second : Landed fs' path w' fs'') :
    ∃ place, Placed fs path place w.bytes fs' ∧ Placed fs' path place w'.bytes fs'' := by
  obtain ⟨base, ⟨kept, _⟩, _, place, target, rfl⟩ := first
  obtain ⟨base', ⟨keeps, _⟩, _, place', target', rfl⟩ := second
  have hne := ne_nil_of_not_directory target.other
  have has := hasFile_put base hne w.bytes
  obtain ⟨before, ends⟩ := target.ends
  obtain rfl := ends.walk_unique target.walk has keeps target'.walk
  have there := keeps.node _ _ has.file
  have has' := hasFile_put base' hne w'.bytes
  refine ⟨place, ⟨has.of_keeps kept, ?_⟩, ⟨has'.of_keeps keeps, fun _ => ?_⟩⟩
  · exact ends.walk_of_later target.walk has keeps (find_eq_ok_iff.mpr ⟨place, target'.walk, there⟩)
  · exact ends.walk_hasFile target'.walk (notPast_of_file there) has'

/-- The second time a document is stored, it is where it was stored the first time. -/
theorem Landed.again {w' : Json.Written} (first : Landed fs path w fs')
    (second : Landed fs' path w' fs'') : fs''.read path.toText = .ok w'.bytes := by
  obtain ⟨_, _, placed⟩ := first.placed second
  exact placed.read

end Writing

namespace Store

variable {fs fs' fs'' : FileSystem} {path : Path} {w : Workspace} {d : Document}

/-- A document was landed, or the file system keeps what it had. -/
theorem landed_or_keeps (d : Document) (tree : w.files.IsTree) (ending : Ending w.store.path) :
    ((writing w d).result = .ok () ∧
      Writing.Landed w.files w.store.path (Json.write (.table d)) (written w d).files) ∨
    (∃ problem, (writing w d).result = .error problem) ∧ Keeps w.files (written w d).files :=
  ((Writing.meets_store_landed (Json.write (.table d)) tree ending).run w.faults
    fun _ _ => trivial).2

/-- A document that was written twice is what is read afterwards. -/
theorem read_of_landed {first : Json.Written} (landed : Writing.Landed fs path first fs')
    (again : Writing.Landed fs' path (Json.write (.table d)) fs'') (complete : d.Complete) :
    Document.read fs'' path = .ok d := by
  have read := landed.again again
  obtain ⟨_, _, fault, _⟩ := again
  have text : Json.text? (.table d) = some (Json.write (.table d)).bytes := by
    rw [Json.text?, fault]
  have denotes := Document.ofBytes_of_text? complete.distinct text
  rw [Document.read_of_bytes read denotes, complete.withDefaults]

end Store

end SourceLedger
