import SourceLedger.Proofs.Glob.Matches
import SourceLedger.Proofs.Resolution

/-!
# What an item's path names

An item gets its path from a match by text alone: dots, slashes and steps up are taken away without
a look at the files. Opening that path comes to the file that was matched, as long as the steps up
take back directories and not links. In the other direction a match that asks for a directory at
its end, or that is too long, may come to nothing where the path of its item comes to a file.
-/

namespace SourceLedger

namespace FileSystem

/-- Following a path to its end comes to what is at a place. -/
def Opens (fs : FileSystem) (path : Text) (place : Location) (node : Node) : Prop :=
  fs.walk true path = .ok place ∧ fs.node? place = some node

end FileSystem

namespace Item

open Glob (joinPaths)

variable {w w' : Workspace} {directory : Text} {patterns paths : List Text} {path : Text}

theorem ne_nil_of_isAbsolute (absolute : (Path.ofText directory).isAbsolute = true) :
    directory ≠ [] := by
  rintro rfl
  cases absolute

theorem resolve_eq_collapse (absolute : (Path.ofText directory).isAbsolute = true) (path : Text) :
    Path.resolve directory path = (Path.ofText (joinPaths directory path)).collapse.toText := by
  rw [Glob.ofText_joinPaths (ne_nil_of_isAbsolute absolute), Path.resolve]

/-- Opening the path of an item comes to what its match comes to, if in the match every step up
takes back a directory; and it comes to nothing else, if the match is not too long and does not
ask for a directory in the place of a regular file. -/
theorem fullPath_opens_match (id : Text)
    (resolved : Resolution.resolve directory patterns w = (.ok paths, w'))
    (tree : w.files.IsTree) (named : w.files.Named)
    (absolute : (Path.ofText directory).isAbsolute = true) (mem : path ∈ paths)
    (back : w.files.TakesBack (Path.ofText (joinPaths directory path))) :
    ∃ full, (create id directory path).fullPath = .text full ∧
      (∀ place node, w.files.Opens (joinPaths directory path) place node →
        w.files.Opens full place node) ∧
      (FileName.byteLength (joinPaths directory path) ≤ Route.maxLength →
        ((joinPaths directory path).getLast? = some Path.slash →
          ∀ place node, w.files.Opens full place node → node.isRegular = false) →
        ∀ place node, w.files.Opens full place node →
          w.files.Opens (joinPaths directory path) place node) := by
  have absolute' : (Path.ofText (joinPaths directory path)).isAbsolute = true := by
    rw [Glob.ofText_joinPaths (ne_nil_of_isAbsolute absolute)]
    exact Path.isAbsolute_join absolute _
  obtain ⟨pattern, _, found, expanded, matched⟩ :=
    Resolution.exists_pattern_of_resolve resolved mem
  have ends := Glob.ends_of_expand named (ne_nil_of_isAbsolute absolute) expanded matched
  refine ⟨_, congrArg Value.text (resolve_eq_collapse absolute path), ?_, ?_⟩
  · rintro place node ⟨walk, there⟩
    exact ⟨FileSystem.walk_collapse absolute' back walk (by simp [there]), there⟩
  · rintro short atSlash place node ⟨walk, there⟩
    refine ⟨FileSystem.walk_of_collapse absolute' back tree short ?_ ?_ walk (by simp [there]),
      there⟩
    · intro last node found
      obtain ⟨place, walk, there⟩ := FileSystem.find_eq_ok_iff.mp found
      exact atSlash last place node ⟨walk, there⟩
    · intro slashless last
      rcases ends with last' | named | held
      · exact absurd last' slashless
      · exact absurd last named.getLast?_names
      · exact held

section Example

/-- Two directories with a file in the one. -/
private def stepUp : Workspace := { Resolution.twoFiles with
  files := ⟨[(["w"], .directory), (["w", "a"], .directory), (["w", "b"], .directory),
    (["w", "b", "x.py"], .file [1])], []⟩ }

private def viaStepUp : Text := "a/../b/x.py"

theorem fullPath_opens_match_stepUp :
    (∃ w', Resolution.resolve "/w" ["a/../b/*.py"] stepUp = (.ok [viaStepUp], w')) ∧
    stepUp.files.IsTree ∧ stepUp.files.Named ∧
    stepUp.files.TakesBack (Path.ofText (joinPaths "/w" viaStepUp)) ∧
    ∃ full, (create "0" "/w" viaStepUp).fullPath = .text full ∧
      stepUp.files.Opens full ["w", "b", "x.py"] (.file [1]) ∧
      ∀ place node, stepUp.files.Opens full place node →
        stepUp.files.Opens (joinPaths "/w" viaStepUp) place node := by
  have resolved : Resolution.resolve "/w" ["a/../b/*.py"] stepUp = (.ok [viaStepUp],
      (Resolution.resolve "/w" ["a/../b/*.py"] stepUp).2) :=
    Prod.ext (eq_ok_of_toOption (by decide +kernel)) rfl
  have tree : stepUp.files.IsTree := FileSystem.isTree_of_nodes (by decide +kernel)
  have named : stepUp.files.Named := FileSystem.named_of_nodes (by decide +kernel)
  have back : stepUp.files.TakesBack (Path.ofText (joinPaths "/w" viaStepUp)) := by
    decide +kernel
  obtain ⟨full, same, opens, only⟩ := fullPath_opens_match "0" resolved tree named (by decide)
    (List.mem_singleton_self viaStepUp) back
  refine ⟨⟨_, resolved⟩, tree, named, back, full, same, opens _ _ ⟨?_, rfl⟩, only ?_ ?_⟩
  · exact eq_ok_of_toOption (by decide +kernel)
  · decide +kernel
  · intro last
    exact absurd last (by decide +kernel)

/-- A link into another directory, and files of one name there and here. -/
private def linkedAway : Workspace := { Resolution.twoFiles with
  files := ⟨[(["w"], .directory), (["w", "link"], .link "/e/d"), (["w", "a.py"], .file [2]),
    (["e"], .directory), (["e", "d"], .directory), (["e", "a.py"], .file [1])], []⟩ }

/-- Behind a link a step up does not take the link back, and a slash behind a file leads nowhere:
the paths of the items come to another file, or to a file all the same. -/
theorem fullPath_opens_another :
    let files := linkedAway.files
    (∃ w', Resolution.resolve "/w" ["link/../a.py", "a.py/**"] linkedAway =
      (.ok ["link/../a.py", "a.py/"], w')) ∧
    (create "0" "/w" "link/../a.py").fullPath = .text "/w/a.py" ∧
    (create "0" "/w" "a.py/").fullPath = .text "/w/a.py" ∧
    files.Opens "/w/a.py" ["w", "a.py"] (.file [2]) ∧
    files.Opens (joinPaths "/w" "link/../a.py") ["e", "a.py"] (.file [1]) ∧
    ∀ place node, ¬files.Opens (joinPaths "/w" "a.py/") place node := by
  refine ⟨⟨(Resolution.resolve "/w" ["link/../a.py", "a.py/**"] linkedAway).2,
    Prod.ext (eq_ok_of_toOption (by decide +kernel)) rfl⟩, ?_, ?_, ⟨?_, rfl⟩, ⟨?_, rfl⟩, ?_⟩
  · exact congrArg Value.text (by decide +kernel)
  · exact congrArg Value.text (by decide +kernel)
  · exact eq_ok_of_toOption (by decide +kernel)
  · exact eq_ok_of_toOption (by decide +kernel)
  · rintro place node ⟨walk, _⟩
    have lost : linkedAway.files.walk true (joinPaths "/w" "a.py/") =
        .error (.system .notDirectory) := by decide +kernel
    cases lost.symm.trans walk

end Example

end Item

end SourceLedger
