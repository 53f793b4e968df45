import SourceLedger.Command.Basic
import SourceLedger.Proofs.Command.Markup
import SourceLedger.Proofs.Run.Counters

/-!
# What the exit code reports

The exit code is 0 exactly if a configuration was found, the run went through, and the console can
print the line with the path of the document; otherwise it is 1. The report never fails for another
reason: after a run that went through there is a summary of the document, and its other lines can
always be printed. The path comes into its line as it is, so that brackets in it are taken for
markup.
-/

namespace SourceLedger.Command

open Run Store

variable {console : Console} {line : Text} {lines patterns : List Text} {stats : Stats}
  {w w' : Workspace}

namespace Console

/-- The console can print a line. -/
def Prints (console : Console) (line : Text) : Prop := ∃ text, console.render line = .ok text

/-- A console that takes brackets for markup. It prints what has none, and styles that are opened
and closed again, but no line in which more tags close than open. -/
structure ReadsMarkup (console : Console) : Prop where
  plain (t : Text) : Markup.IsPlain t → console.Prints t
  styled (before style t name : Text) : Markup.IsPlain before → Markup.IsPlain t →
    style = ("green" : Text) ∨ style = ("dim" : Text) → name = style ∨ name = [] →
      console.Prints (before ++ "[" ++ style ++ "]" ++ t ++ "[/" ++ name ++ "]")
  overclosed (line : Text) : Markup.Overclosed line → ¬console.Prints line

theorem prints_plain_iff : plain.Prints line ↔ (Markup.render line).isSome = true := by
  cases rendered : Markup.render line with
  | none =>
      have fails : plain.render line = .error markupFailure := by simp only [plain, rendered]
      refine iff_of_false ?_ Bool.false_ne_true
      rintro ⟨_, prints⟩
      cases fails.symm.trans prints
  | some text => exact iff_of_true ⟨text, by simp only [plain, rendered]⟩ rfl

theorem readsMarkup_plain : plain.ReadsMarkup where
  plain _ isPlain := prints_plain_iff.mpr (Markup.render_plain isPlain)
  styled _ _ _ _ before t isStyle same :=
    prints_plain_iff.mpr (Markup.render_styled before t isStyle same)
  overclosed line overclosed prints := by
    have rendered := prints_plain_iff.mp prints
    rw [Markup.render_of_overclosed overclosed] at rendered
    cases rendered

/-- Lines are printed without failure if each of them can be. -/
theorem print_eq_none_iff :
    (console.print lines).2 = none ↔ ∀ line ∈ lines, console.Prints line := by
  induction lines with
  | nil => exact ⟨fun _ => nofun, fun _ => rfl⟩
  | cons line lines ih =>
      rw [List.forall_mem_cons, ← ih, print, Prints]
      cases console.render line with
      | error failure => exact ⟨nofun, nofun⟩
      | ok text => exact ⟨fun h => ⟨⟨text, rfl⟩, h⟩, fun h => h.2⟩

end Console

/-- An exit code reports whether something is so: it is 0 if it is so, and 1 otherwise. -/
structure Reports (code : ℕ) (success : Prop) : Prop where
  zero_iff : code = 0 ↔ success
  one_iff : code = 1 ↔ ¬success

theorem Reports.zero {success : Prop} (h : success) : Reports 0 success :=
  ⟨iff_of_true rfl h, iff_of_false Nat.zero_ne_one (not_not_intro h)⟩

theorem Reports.one {success : Prop} (h : ¬success) : Reports 1 success :=
  ⟨iff_of_false Nat.one_ne_zero h, iff_of_true rfl h⟩

theorem Reports.congr {code : ℕ} {success success' : Prop} (reports : Reports code success)
    (same : success ↔ success') : Reports code success' :=
  ⟨reports.zero_iff.trans same, reports.one_iff.trans (not_congr same)⟩

@[simp] theorem say_files (level : Level) (text : Text) (w : Workspace) :
    (say level text w).files = w.files :=
  rfl

@[simp] theorem say_store (level : Level) (text : Text) (w : Workspace) :
    (say level text w).store = w.store :=
  rfl

section Lines

theorem isPlain_ofNat (n : ℕ) : Markup.IsPlain (Text.ofNat n) := by
  have digit : ∀ d < 10, Markup.IsPlain [.scalar (Numeral.digitChar d)] := by decide
  intro c mem
  obtain ⟨_, written, rfl⟩ := List.mem_map.mp mem
  obtain ⟨d, among, rfl⟩ := List.mem_map.mp written
  exact digit d (Numeral.lt_of_mem_digits (by norm_num) among) _ (List.mem_singleton_self _)

variable (reads : console.ReadsMarkup)
include reads

theorem prints_dimmed {t : Text} (isPlain : Markup.IsPlain t) : console.Prints (dimmed t) := by
  have shape : dimmed t = "  " ++ "[" ++ "dim" ++ "]" ++ t ++ "[/" ++ ([] : Text) ++ "]" := by
    simp only [dimmed, List.append_assoc]
    rfl
  rw [shape]
  exact reads.styled "  " "dim" t [] (by decide) isPlain (.inr rfl) (.inr rfl)

theorem prints_counted {what : Text} (isPlain : Markup.IsPlain what) (n : ℕ) :
    console.Prints (counted what n) := by
  have blanks : Markup.IsPlain "  " := by decide
  have colon : Markup.IsPlain ": " := by decide
  exact reads.plain _ (((blanks.append isPlain).append colon).append (isPlain_ofNat n))

/-- What a run has counted can always be printed. -/
theorem prints_statsLines (stats : Stats) : ∀ line ∈ statsLines stats, console.Prints line := by
  have done : console.Prints "[green]Done![/green]" :=
    reads.styled [] "green" "Done!" "green" (by decide) (by decide) (.inl rfl) (.inl rfl)
  have tracked : Markup.IsPlain "Files tracked" := by decide
  have loaded : Markup.IsPlain "Contents loaded" := by decide
  have trees : Markup.IsPlain "Syntax trees" := by decide
  have skipped : Markup.IsPlain "Skipped: " := by decide
  have always : ∀ line ∈ (["[green]Done![/green]", counted "Files tracked" stats.tracked,
      counted "Contents loaded" stats.loaded, counted "Syntax trees" stats.parsed] : List Text),
      console.Prints line := by
    rw [List.forall_mem_cons, List.forall_mem_cons, List.forall_mem_cons,
      List.forall_mem_singleton]
    exact ⟨done, prints_counted reads tracked _, prints_counted reads loaded _,
      prints_counted reads trees _⟩
  unfold statsLines
  split_ifs
  · exact always
  · exact List.forall_mem_append.mpr ⟨always, List.forall_mem_singleton.mpr
      (prints_dimmed reads (skipped.append (isPlain_ofNat _)))⟩

/-- Of the two lines on the document, the one with its path decides. -/
theorem print_documentLines_iff (files : ℕ) (path : Path) :
    (console.print (documentLines files path)).2 = none ↔
      console.Prints (documentLine path) := by
  have entries : Markup.IsPlain "Document entries: " := by decide
  have prints := prints_dimmed reads (entries.append (isPlain_ofNat files))
  rw [Console.print_eq_none_iff, documentLines, List.forall_mem_cons, List.forall_mem_singleton]
  exact and_iff_right prints

/-- Where there is a summary of the document, the line with its path decides. -/
theorem reports_report (stats : Stats) {summary : Summary}
    (summarized : Store.summary w = (.ok summary, w')) :
    Reports (report console stats w).1.exitCode
      (console.Prints (documentLine w'.store.path)) := by
  obtain ⟨printed, isPrinted⟩ : ∃ printed, console.print (statsLines stats) = (printed, none) :=
    ⟨_, Prod.ext rfl (Console.print_eq_none_iff.mpr (prints_statsLines reads stats))⟩
  have code : (report console stats w).1.exitCode =
      if (console.print (documentLines summary.files w'.store.path)).2.isSome then 1 else 0 := by
    rw [report, isPrinted]
    simp only [summarized]
  rw [code, ← print_documentLines_iff reads summary.files]
  cases (console.print (documentLines summary.files w'.store.path)).2 with
  | none => exact .zero rfl
  | some failure => exact .one nofun

/-- What a failed run gives is 1. After one that went through, where there is a summary of the
document, the line with its path decides. -/
theorem reports_conclude {outcome : Pipeline.Outcome Handle} {s : State} {path : Path}
    (summarized : outcome.failure = none → ∃ summary w',
      Store.summary (say .info "status end" s.workspace) = (.ok summary, w') ∧
        w'.store.path = path) :
    Reports (conclude console outcome s).1.exitCode
      (outcome.failure = none ∧ console.Prints (documentLine path)) := by
  rw [conclude]
  cases failed : outcome.failure with
  | some failure => exact .one fun h => nomatch h.1
  | none =>
      obtain ⟨_, _, isSummary, rfl⟩ := summarized failed
      exact (reports_report reads _ isSummary).congr (and_iff_right rfl).symm

/-- A run that goes through leaves a document of which there is a summary. -/
theorem reports_refresh {fs : FileSystem} {start : Path} {r : DefaultRun}
    (loaded : Configuration.load fs start = .ok r.configuration)
    (tree : r.workspace.files.IsTree) :
    Reports (refresh console r.configuration r.directory r.patterns r.workspace).1.exitCode
      (r.outcome.failure = none ∧ console.Prints (documentLine r.path)) := by
  change Reports (conclude console r.outcome r.ended.2).1.exitCode _
  refine reports_conclude reads fun failed => ?_
  change ∃ summary w', Store.summary (say .info "status end" r.final) = _ ∧ _
  have store : (say .info "status end" r.final).store = Store.new r.path :=
    (say_store ..).trans (DefaultRun.final_store failed)
  obtain ⟨summary, d, summarized⟩ :=
    DefaultRun.exists_summary loaded tree failed (say_files ..) store
  exact ⟨summary, _, summarized, congrArg Store.path store⟩

end Lines

/-- The run that the command makes: in the current directory, with the configuration that is found
for it. -/
def started (patterns : List Text) (w : Workspace) : Except Failure DefaultRun :=
  (located w.files).map fun (directory, configuration) =>
    { configuration, directory, patterns, workspace := greeted w }

theorem started_eq_ok {r : DefaultRun} (h : started patterns w = .ok r) :
    located w.files = .ok (r.directory, r.configuration) ∧ r.patterns = patterns ∧
      r.workspace = greeted w ∧
      Configuration.load w.files (Path.ofText r.directory) = .ok r.configuration := by
  obtain ⟨⟨directory, configuration⟩, found, rfl⟩ := map_eq_ok h
  obtain ⟨_, _, loads⟩ := bind_eq_ok found
  obtain ⟨_, loaded, same⟩ := bind_eq_ok loads
  cases same
  exact ⟨found, rfl, rfl, loaded⟩

theorem runPatterns_of_started {r : DefaultRun} (h : started patterns w = .ok r) :
    runPatterns console patterns w =
      refresh console r.configuration r.directory r.patterns r.workspace := by
  obtain ⟨found, rfl, same, _⟩ := started_eq_ok h
  rw [runPatterns, show located (greeted w).files = _ from found, same]

/-- Without a configuration the command fails at once. -/
theorem exitCode_of_not_started {failure : Failure} (h : started patterns w = .error failure) :
    (runPatterns console patterns w).1.exitCode = 1 := by
  cases found : located w.files with
  | ok =>
      rw [started, found] at h
      cases h
  | error failure =>
      rw [runPatterns, show located (greeted w).files = _ from found]
      cases failure <;> rfl

theorem ofArguments_patterns (nonempty : patterns ≠ [])
    (noDash : ∀ pattern ∈ patterns, pattern.head? ≠ some (.scalar '-')) :
    Call.ofArguments patterns = .run patterns := by
  have all : split patterns = (patterns, []) := by
    clear nonempty
    induction patterns with
    | nil => rfl
    | cons word words ih =>
        obtain ⟨first, others⟩ := List.forall_mem_cons.mp noDash
        have noEnd : word ≠ endOfOptions := fun same => first (same ▸ rfl)
        have noOption : isOption word = false := by simp [isOption, first]
        rw [split, if_neg noEnd, ih others, noOption]
        rfl
  rw [Call.ofArguments, all]
  simp [nonempty]

/-- The exit code is 0 if a configuration was found, the run went through and the line with the path
of the document can be printed; otherwise it is 1. With a path that has no meaning in markup it
reports the run alone. With one that makes more tags close than open it is 1 after any run. -/
theorem exitCode_reports (reads : console.ReadsMarkup) (tree : w.files.IsTree)
    (nonempty : patterns ≠ [])
    (noDash : ∀ pattern ∈ patterns, pattern.head? ≠ some (.scalar '-')) :
    let code := (runOn console patterns w).1.exitCode
    Reports code (∃ r, started patterns w = .ok r ∧ r.outcome.failure = none ∧
        console.Prints (documentLine r.path)) ∧
      ∀ r, started patterns w = .ok r →
        (Markup.IsPlain r.path.toText → Reports code (r.outcome.failure = none)) ∧
        (Markup.Overclosed (documentLine r.path) → code = 1) := by
  intro code
  have run : code = (runPatterns console patterns w).1.exitCode := by
    change (runOn console patterns w).1.exitCode = _
    rw [runOn, ofArguments_patterns nonempty noDash]
  cases start : started patterns w with
  | error failure =>
      rw [run, exitCode_of_not_started start]
      refine ⟨.one ?_, nofun⟩
      rintro ⟨r, ⟨⟩, _⟩
  | ok r =>
      obtain ⟨_, _, workspace, loaded⟩ := started_eq_ok start
      have reports := reports_refresh reads loaded (workspace ▸ tree)
      rw [← runPatterns_of_started start, ← run] at reports
      refine ⟨reports.congr ⟨fun h => ⟨r, rfl, h⟩, ?_⟩, ?_⟩
      · rintro ⟨_, ⟨⟩, h⟩
        exact h
      · rintro _ ⟨⟩
        refine ⟨fun isPlain => ?_, fun overclosed => reports.one_iff.mpr fun h => ?_⟩
        · have document : Markup.IsPlain "Document: " := by decide
          exact reports.congr (and_iff_left (prints_dimmed reads (document.append isPlain)))
        · exact reads.overclosed _ overclosed h.2

section Examples

/-- A workspace in the root directory with these files. -/
private def rooted (nodes : List (Location × Node)) : Workspace :=
  (DefaultRun.plain nodes []).workspace

private theorem exists_started {P : DefaultRun → Prop} [DecidablePred P]
    (h : ((started patterns w).toOption.any fun r => decide (P r)) = true) :
    ∃ r, started patterns w = .ok r ∧ P r := by
  cases start : started patterns w with
  | error failure =>
      rw [start] at h
      cases h
  | ok r =>
      rw [start] at h
      exact ⟨r, rfl, of_decide_eq_true h⟩

/-- A file that can be parsed, one that cannot, and a path with a closing tag. -/
theorem exitCode_reports_outcomes :
    let good : List Text := ["a.py"]
    let bad : List Text := ["a.py", "b.py"]
    let files : List (Location × Node) :=
      [(["a.py"], DefaultRun.textFile "x\n"), (["b.py"], DefaultRun.textFile "(")]
    let w := rooted files
    let tagged := rooted ((["syndox.toml"], DefaultRun.textFile "out = \"[/x]\"") :: files)
    (Console.plain.ReadsMarkup ∧ (w.files.IsTree ∧ tagged.files.IsTree) ∧
      (good ≠ [] ∧ bad ≠ []) ∧
      (∀ pattern ∈ good, pattern.head? ≠ some (.scalar '-')) ∧
      ∀ pattern ∈ bad, pattern.head? ≠ some (.scalar '-')) ∧
    ((∃ r, started good w = .ok r ∧ r.outcome.failure = none) ∧
      (runOn .plain good w).1.exitCode = 0) ∧
    ((∃ r, started bad w = .ok r ∧ r.outcome.failure ≠ none) ∧
      (runOn .plain bad w).1.exitCode = 1) ∧
    (∃ r, started good tagged = .ok r ∧ Markup.Overclosed (documentLine r.path)) ∧
      (runOn .plain good tagged).1.exitCode = 1 := by
  intro good bad files w tagged
  have tree : w.files.IsTree := FileSystem.isTree_of_nodes (by decide +kernel)
  have tree' : tagged.files.IsTree := FileSystem.isTree_of_nodes (by decide +kernel)
  have noDash : ∀ pattern ∈ good, pattern.head? ≠ some (.scalar '-') := by decide
  have noDash' : ∀ pattern ∈ bad, pattern.head? ≠ some (.scalar '-') := by decide
  have nonempty : good ≠ [] ∧ bad ≠ [] := ⟨List.cons_ne_nil _ _, List.cons_ne_nil _ _⟩
  obtain ⟨r, start, ok, isPlain⟩ : ∃ r, started good w = .ok r ∧
      r.outcome.failure.isNone = true ∧ Markup.IsPlain r.path.toText :=
    exists_started (by decide +kernel)
  obtain ⟨r', start', failed, isPlain'⟩ : ∃ r, started bad w = .ok r ∧
      r.outcome.failure.isSome = true ∧ Markup.IsPlain r.path.toText :=
    exists_started (by decide +kernel)
  obtain ⟨r'', start'', overclosed⟩ : ∃ r, started good tagged = .ok r ∧
      Markup.Overclosed (documentLine r.path) :=
    exists_started (by decide +kernel)
  have ok := Option.isNone_iff_eq_none.mp ok
  have failed := Option.isSome_iff_ne_none.mp failed
  obtain ⟨_, reports⟩ := exitCode_reports Console.readsMarkup_plain tree nonempty.1 noDash
  obtain ⟨_, reports'⟩ := exitCode_reports Console.readsMarkup_plain tree nonempty.2 noDash'
  obtain ⟨_, reports''⟩ := exitCode_reports Console.readsMarkup_plain tree' nonempty.1 noDash
  have succeeds := (reports r start).1 isPlain
  have fails := (reports' r' start').1 isPlain'
  have unprinted := (reports'' r'' start'').2 overclosed
  exact ⟨⟨Console.readsMarkup_plain, ⟨tree, tree'⟩, nonempty, noDash, noDash'⟩,
    ⟨⟨r, start, ok⟩, succeeds.zero_iff.mpr ok⟩,
    ⟨⟨r', start', failed⟩, fails.one_iff.mpr failed⟩,
    ⟨r'', start'', overclosed⟩, unprinted⟩

/-- The output directory of a configuration is taken for a closing tag in the line with the path:
the run goes through, and the exit code is 1. -/
theorem closing_tag_in_path :
    let w := rooted [(["syndox.toml"], DefaultRun.textFile "out = \"[/x]\""),
      (["a.py"], DefaultRun.textFile "x\n")]
    ((started ["a.py"] w).toOption.map fun r => (r.outcome.failure.isNone, r.path.toText)) =
        some (true, ("/[/x]/db.json" : Text)) ∧
      (run ["a.py"] w).1.exitCode = 1 := by
  decide +kernel

end Examples

end SourceLedger.Command
