import SourceLedger.Proofs.Store.Directories
import SourceLedger.Proofs.Text.Numeral

/-!
# Drafts

A document is drafted in a temporary file where nothing was before. Until the draft takes the
place of the document there is one more file and nothing else is changed. A draft that does not
get that far is removed, and only the system can prevent that.
-/

namespace SourceLedger

open FileSystem Script

variable {fs fs' : FileSystem} {path : Path} {place : Location} {content : Bytes}

theorem Numeral.le_length_hex (width n : Nat) : width ≤ (Numeral.hex width n).length := by
  simp only [Numeral.hex, List.length_append, List.length_replicate]
  omega

theorem Numeral.slash_notMem_hex (width n : Nat) : '/' ∉ Numeral.hex width n := by
  have digit : ∀ d < 16, Numeral.digitChar d ≠ '/' := by decide
  simp only [Numeral.hex, List.mem_append, List.mem_replicate, List.mem_map, not_or]
  refine ⟨fun h => absurd h.2 (by decide), ?_⟩
  rintro ⟨d, hd, heq⟩
  exact digit d (Numeral.lt_of_mem_digits (by omega) hd) heq

namespace Writing

variable {name : Text} {n : Nat}

theorem length_temporaryName (name : Text) (n : Nat) :
    name.length + 2 < (temporaryName name n).length := by
  have := Numeral.le_length_hex 8 n
  simp only [temporaryName, List.length_append, Text.ofChars, List.length_map, Text.ofString]
  simp
  omega

theorem temporaryName_ne : temporaryName name n ≠ name := by
  intro h
  have := length_temporaryName name n
  rw [h] at this
  omega

theorem isName_temporaryName (h : Path.slash ∉ name) : Path.IsName (temporaryName name n) where
  ne_nil hnil := by
    have := length_temporaryName name n
    simp [hnil] at this
  slash := by
    have hex := Numeral.slash_notMem_hex 8 n
    simp only [temporaryName, Text.ofChars, List.mem_append, List.mem_map, not_or, Path.slash]
    refine ⟨⟨⟨by decide, h⟩, by decide⟩, ?_⟩
    rintro ⟨c, hc, heq⟩
    cases heq
    exact hex hc

theorem temporaryName_ne_short {dots : Text} (short : dots.length ≤ 2) :
    temporaryName name n ≠ dots := by
  rintro rfl
  have := length_temporaryName name n
  omega

/-- The directory in which a document is drafted. -/
def draftDirectory (fs : FileSystem) (path : Path) : Path :=
  (Path.join ⟨.single, fs.current⟩ path.parent).collapse

/-- A path at which a document may be drafted. -/
def draftPath (fs : FileSystem) (path : Path) (n : Nat) : Text :=
  ((draftDirectory fs path).child (temporaryName path.name n)).toText

/-- A temporary file can be made for the draft of a document: nothing is at its path yet. -/
structure Draft (fs : FileSystem) (path : Path) (temporary : Text) (place : Location) : Prop where
  free : fs.node? place = none
  walk : fs.walk false temporary = .ok place
  beside : ∃ n, temporary = draftPath fs path n
  ends : ∃ before n, EndsIn temporary before (temporaryName path.name n)

namespace Draft

variable {temporary : Text}

theorem ne_nil (draft : Draft fs path temporary place) : place ≠ [] :=
  ne_nil_of_node?_none draft.free

theorem hasFile (draft : Draft fs path temporary place) (content : Bytes) :
    HasFile fs (fs.put place (.file content)) place content :=
  hasFile_put fs draft.ne_nil content

theorem walk_put (draft : Draft fs path temporary place) (content : Bytes) (followLast : Bool) :
    (fs.put place (.file content)).walk followLast temporary = .ok place := by
  obtain ⟨_, _, ends⟩ := draft.ends
  exact ends.walk_hasFile draft.walk (notPast_of_none draft.free) (draft.hasFile content)

theorem named (draft : Draft fs path temporary place) :
    ∃ above n, place = above ++ [temporaryName path.name n] := by
  obtain ⟨_, n, ends⟩ := draft.ends
  obtain ⟨_, there, _, heq⟩ := ends.walk_iff.mp draft.walk
  exact ⟨there, n, heq⟩

theorem tree (draft : Draft fs path temporary place) (tree : fs.IsTree) (content : Bytes) :
    (fs.put place (.file content)).IsTree :=
  tree.walk_put draft.walk (by simp [draft.free]) _

end Draft

theorem draft_of_createFile (hname : Path.slash ∉ path.name)
    (h : fs.createFile (draftPath fs path n) = .ok fs') :
    ∃ place, Draft fs path (draftPath fs path n) place ∧ fs' = fs.put place (.file []) := by
  obtain ⟨place, hw, free, rfl⟩ := createFile_eq_ok_iff.mp h
  obtain ⟨before, ends⟩ := endsIn_child (draftDirectory fs path)
    (isName_temporaryName (n := n) hname) (temporaryName_ne_short (by decide))
    (temporaryName_ne_short (by decide))
  exact ⟨place, ⟨free, hw, ⟨n, rfl⟩, before, n, ends⟩, rfl⟩

variable {may : Step → Prop} {temporary : Text} {bytes : Bytes}

/-- What follows when making a temporary file is refused. -/
def unlessTaken (directory : Path) (name : Text) (attempts : Nat) (path : Text) :
    Refusal → Script (Except WriteProblem Text)
  | .system .alreadyExists => (createTemporary directory name attempts).run
  | r => .done (.error (.refused path r))

theorem run_createTemporary (directory : Path) (name : Text) (attempts : Nat) :
    ∃ n, (createTemporary directory name (attempts + 1)).run =
      let temporary := (directory.child (temporaryName name n)).toText
      .step (.createFile temporary) (fun
        | .ok () => .done (.ok temporary)
        | .error r => unlessTaken directory name attempts temporary r) := by
  refine ⟨maxAttempts - attempts - 1, ?_⟩
  rw [createTemporary]
  change Script.step _ _ = _
  congr 1
  funext r
  rcases r with (e | _ | _) | _
  · cases e <;> rfl
  all_goals rfl

theorem meets_unlessTaken {directory : Path} {attempts : ℕ} {between : FileSystem → Prop}
    {after : Except WriteProblem Text → FileSystem → Prop}
    (again : (createTemporary directory name attempts).run.Meets may between after fs)
    (fails : ∀ problem, after (.error problem) fs) (temporary : Text) (refusal : Refusal) :
    (unlessTaken directory name attempts temporary refusal).Meets may between after fs := by
  unfold unlessTaken
  split
  · exact again
  · exact fails _

/-- A new draft, or nothing. -/
theorem meets_createTemporary (hname : Path.slash ∉ path.name) (attempts : Nat) :
    (createTemporary (draftDirectory fs path) path.name attempts).run.Meets may
      (fun s => ∃ temporary place, Draft fs path temporary place ∧ s = fs.put place (.file []))
      (fun r s =>
        (∃ problem, r = .error problem ∧ s = fs) ∨
        (∃ temporary place, r = .ok temporary ∧ Draft fs path temporary place ∧
          s = fs.put place (.file []))) fs := by
  induction attempts with
  | zero => exact Or.inl ⟨_, rfl, rfl⟩
  | succ attempts ih =>
      obtain ⟨n, run⟩ := run_createTemporary (draftDirectory fs path) path.name attempts
      rw [run]
      have refused := meets_unlessTaken ih fun problem => Or.inl ⟨problem, rfl, rfl⟩
      refine meets_step (fun _ e => refused _ (.system e)) (fun r _ => refused _ r)
        fun fs' made => ?_
      obtain ⟨place, draft, rfl⟩ := draft_of_createFile hname made
      exact ⟨⟨_, place, draft, rfl⟩, Or.inr ⟨_, place, rfl, draft, rfl⟩⟩

/-- The blocks are the bytes, cut. -/
theorem flatten_blocks (bytes : Bytes) : (blocks bytes).flatten = bytes := by
  induction hn : bytes.length using Nat.strongRecOn generalizing bytes with
  | ind n ih =>
      rw [blocks]
      split_ifs with hnil
      · exact hnil.symm
      · have shorter : (bytes.drop blockSize).length < n := by
          have := List.length_pos_iff.mpr hnil
          simp only [List.length_drop, blockSize]
          omega
        rw [List.flatten_cons, ih _ shorter _ rfl, List.take_append_drop]

theorem run_appendBlocks (path : Text) (block : Bytes) (later : List Bytes) :
    (appendBlocks path (block :: later)).run = .step (.append path block) (fun
      | .ok () => (appendBlocks path later).run
      | .error r => .done (.error (.notTaken r))) := by
  rfl

/-- A draft grows to all that it is to hold, or stops on the way. -/
theorem meets_appendBlocks (may : Step → Prop) {place : Location}
    (draft : Draft fs path temporary place) (content : Bytes) (later : List Bytes) :
    (appendBlocks temporary later).run.Meets may
      (fun s => ∃ part, part <+: content ++ later.flatten ∧ s = fs.put place (.file part))
      (fun r s =>
        (∃ problem part, r = .error problem ∧ part <+: content ++ later.flatten ∧
          s = fs.put place (.file part)) ∨
        (r = .ok () ∧ s = fs.put place (.file (content ++ later.flatten))))
      (fs.put place (.file content)) := by
  induction later generalizing content with
  | nil => exact Or.inr ⟨rfl, by simp⟩
  | cons block later ih =>
      rw [run_appendBlocks]
      have start : content <+: content ++ (block :: later).flatten := List.prefix_append _ _
      refine meets_step (fun _ e => Or.inl ⟨_, content, rfl, start, rfl⟩)
        (fun r _ => Or.inl ⟨_, content, rfl, start, rfl⟩) fun fs' appended => ?_
      obtain ⟨final, old, hw, hn, rfl⟩ := append_eq_ok_iff.mp appended
      obtain rfl := Except.ok.inj (hw.symm.trans (draft.walk_put content true))
      rw [(draft.hasFile content).file] at hn
      cases hn
      have more := ih (content ++ block)
      rw [List.append_assoc, ← List.flatten_cons] at more
      rw [put_put]
      refine ⟨⟨content ++ block, ?_, rfl⟩, more⟩
      rw [List.flatten_cons, ← List.append_assoc]
      exact List.prefix_append _ _

/-- Where a file at the end of a path goes. -/
structure Target (fs : FileSystem) (path : Path) (place : Location) : Prop where
  ends : ∃ before, EndsIn path.toText before path.name
  walk : fs.walk false path.toText = .ok place
  other : fs.node? place ≠ some .directory

/-- The draft takes the place of the document and leaves its own. -/
theorem Draft.replace {place : Location} (draft : Draft fs path temporary place)
    (tree : fs.IsTree) (ending : Ending path)
    (h : (fs.put place (.file content)).replace temporary path.toText = .ok fs') :
    ∃ final, Target fs path final ∧ fs' = fs.put final (.file content) := by
  obtain ⟨start, node, final, hw, hn, _, hw', other, rfl⟩ := replace_eq_ok_iff.mp h
  obtain rfl := Except.ok.inj (hw.symm.trans (draft.walk_put content false))
  rw [(draft.hasFile content).file] at hn
  cases hn
  obtain ⟨before, ends⟩ := ending.ends (draft.tree tree content) hw' other
  obtain ⟨isStep, there, reaches, rfl⟩ := ends.walk_iff.mp hw'
  obtain ⟨above, n, rfl⟩ := draft.named
  have apart : there ++ [path.name] ≠ above ++ [temporaryName path.name n] := by
    intro heq
    obtain ⟨_, heq⟩ := List.append_inj' heq rfl
    exact temporaryName_ne (List.singleton_inj.mp heq).symm
  refine ⟨there ++ [path.name], ⟨⟨before, ends⟩, ?_, ?_⟩, ?_⟩
  · exact ends.walk_iff.mpr ⟨isStep, there, reaches.without draft.free, rfl⟩
  · rwa [node?_put fs _ _ draft.ne_nil, if_neg (Ne.symm apart)] at other
  · rw [erase_put draft.free]

/-- After a problem the draft is removed, unless the system refuses that. -/
theorem meets_giveUp {place : Location} (draft : Draft fs path temporary place)
    (problem : WriteProblem) :
    (giveUp temporary problem).run.Meets may (fun s => s = fs)
      (fun r s => ∃ problem, r = .error problem ∧
        (s = fs ∨ may (.removeFile temporary) ∧ s = fs.put place (.file content)))
      (fs.put place (.file content)) := by
  have hw := draft.walk_put content false
  have there := (draft.hasFile content).file
  have removed : (fs.put place (.file content)).removeFile temporary = .ok fs := by
    rw [removeFile_eq_ok_iff]
    exact ⟨place, _, hw, there, nofun, (erase_put draft.free _).symm⟩
  refine meets_step (fun may e => ?_) (fun r refused => ?_) fun fs' h => ?_
  · cases e <;> exact ⟨_, rfl, Or.inr ⟨may, rfl⟩⟩
  · exact absurd (refused.symm.trans removed) nofun
  · obtain rfl := Except.ok.inj (h.symm.trans removed)
    exact ⟨rfl, _, rfl, Or.inl rfl⟩

/-- There is a draft, with a part of what is to be written. -/
def Drafted (fs : FileSystem) (path : Path) (w : Json.Written) (fs' : FileSystem) : Prop :=
  ∃ temporary place part, Draft fs path temporary place ∧ part <+: w.bytes ∧
    fs' = fs.put place (.file part)

/-- The document is there, with all that was to be written. -/
def Stored (fs : FileSystem) (path : Path) (w : Json.Written) (fs' : FileSystem) : Prop :=
  w.fault = none ∧ ∃ place, Target fs path place ∧ fs' = fs.put place (.file w.bytes)

theorem meets_fill {w : Json.Written} {place : Location} (tree : fs.IsTree)
    (ending : Ending path) (draft : Draft fs path temporary place) :
    (fill temporary path w).run.Meets may
      (fun s => Drafted fs path w s ∨ Stored fs path w s)
      (fun r s =>
        (∃ problem part, r = .error problem ∧ part <+: w.bytes ∧ s = fs.put place (.file part)) ∨
        (r = .ok () ∧ Stored fs path w s))
      (fs.put place (.file [])) := by
  have drafted := meets_appendBlocks may draft [] (blocks w.bytes)
  rw [List.nil_append, flatten_blocks] at drafted
  unfold fill
  rw [meets_run_bind]
  refine drafted.mono ?_ fun r s h => ?_
  · rintro s ⟨part, h, rfl⟩
    exact Or.inl ⟨temporary, place, part, draft, h, rfl⟩
  · rcases h with ⟨problem, part, rfl, h, rfl⟩ | ⟨rfl, rfl⟩
    · exact Or.inl ⟨problem, part, rfl, h, rfl⟩
    · have whole : w.bytes <+: w.bytes := List.prefix_rfl
      cases hf : w.fault with
      | some fault => exact Or.inl ⟨_, w.bytes, rfl, whole, rfl⟩
      | none =>
          refine meets_step (fun _ e => Or.inl ⟨_, w.bytes, rfl, whole, rfl⟩)
            (fun r _ => Or.inl ⟨_, w.bytes, rfl, whole, rfl⟩) fun fs' replaced => ?_
          obtain ⟨final, target, rfl⟩ := draft.replace tree ending replaced
          exact ⟨Or.inr ⟨hf, final, target, rfl⟩, Or.inr ⟨rfl, hf, final, target, rfl⟩⟩

/-- The whole of drafting a document and putting it in its place. -/
theorem meets_draft (may : Step → Prop) (w : Json.Written) (tree : fs.IsTree)
    (ending : Ending path) :
    (do let temporary ← createTemporary (draftDirectory fs path) path.name maxAttempts
        tryCatch (fill temporary path w) (giveUp temporary) : Attempt Unit).run.Meets may
      (fun s => s = fs ∨ Drafted fs path w s ∨ Stored fs path w s)
      (fun r s =>
        (∃ problem, r = .error problem ∧
          (s = fs ∨ (∃ t, may (.removeFile t)) ∧ Drafted fs path w s)) ∨
        (r = .ok () ∧ Stored fs path w s)) fs := by
  rw [meets_run_bind]
  refine (meets_createTemporary ending.slash _).mono ?_ fun r s h => ?_
  · rintro s ⟨temporary, place, draft, rfl⟩
    exact Or.inr (Or.inl ⟨temporary, place, [], draft, List.nil_prefix, rfl⟩)
  · rcases h with ⟨problem, rfl, rfl⟩ | ⟨temporary, place, rfl, draft, rfl⟩
    · exact Or.inl ⟨problem, rfl, Or.inl rfl⟩
    · change (tryCatch _ _ : Attempt Unit).run.Meets may _ _ _
      rw [meets_run_tryCatch]
      refine (meets_fill tree ending draft).mono (fun s => Or.inr) fun r s h => ?_
      rcases h with ⟨problem, part, rfl, h, rfl⟩ | ⟨rfl, stored⟩
      · refine (meets_giveUp draft problem).mono (fun s => Or.inl) fun r s given => ?_
        obtain ⟨problem, rfl, rfl | ⟨may, rfl⟩⟩ := given
        · exact Or.inl ⟨problem, rfl, Or.inl rfl⟩
        · exact Or.inl ⟨problem, rfl, Or.inr ⟨⟨_, may⟩, temporary, place, part, draft, h, rfl⟩⟩
      · exact Or.inr ⟨rfl, stored⟩

end Writing

end SourceLedger
