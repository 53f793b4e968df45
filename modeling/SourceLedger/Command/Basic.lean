import SourceLedger.Command.Markup
import SourceLedger.Run.Basic

/-!
# The command

The command refreshes the document of the current directory for the patterns that it is given.
Its exit code is 0 after a run without failure, 1 after a failure, and 2 if it was called in a
wrong way.
-/

namespace SourceLedger.Command

def version : Text := "0.1.0"

/-- How the command was called. -/
inductive Call
  | help
  | misuse
  | run (patterns : List Text)
  deriving DecidableEq

def helpOption : Text := "--help"

def endOfOptions : Text := "--"

/-- A word that asks for an option. A single dash is a pattern. -/
def isOption (word : Text) : Bool :=
  word.head? = some (.scalar '-') && 1 < word.length

/-- The words that are patterns, and those that are options. -/
def split : List Text → List Text × List Text
  | [] => ([], [])
  | word :: rest =>
    if word = endOfOptions then (rest, [])
    else
      let (patterns, options) := split rest
      if isOption word then (patterns, word :: options) else (word :: patterns, options)

def Call.ofArguments (arguments : List Text) : Call :=
  let (patterns, options) := split arguments
  if options.any (· ≠ helpOption) then .misuse
  else if !options.isEmpty then .help
  else if patterns.isEmpty then .misuse
  else .run patterns

/-- What the command leaves behind besides its files and its log. -/
structure Output where
  exitCode : Nat
  /-- The lines on standard output. -/
  lines : List Text
  /-- A failure that was not reported but ended the program. -/
  raised : Option Failure

def say (level : Level) (text : Text) (w : Workspace) : Workspace :=
  { w with log := w.log ++ [⟨level, text⟩] }

/-- What lines in markup are printed on. It makes a text of a line, or cannot print it. -/
structure Console where
  render : Text → Except Failure Text

namespace Console

/-- A line in markup with a tag that closes nothing. -/
def markupFailure : Failure := .unexpected (.raised "MarkupError" [])

/-- The console of the program, without colours. -/
def plain : Console where
  render line :=
    match Markup.render line with
    | none => .error markupFailure
    | some text => .ok text

/-- Prints lines in markup until one of them cannot be printed. -/
def print (console : Console) : List Text → List Text × Option Failure
  | [] => ([], none)
  | line :: rest =>
    match console.render line with
    | .error f => ([], some f)
    | .ok text =>
      let (printed, failure) := print console rest
      (Text.splitOn (.scalar '\n') text ++ printed, failure)

end Console

def counted (what : Text) (n : Nat) : Text := "  " ++ what ++ ": " ++ Text.ofNat n

def dimmed (t : Text) : Text := "  [dim]" ++ t ++ "[/]"

def statsLines (s : Stats) : List Text :=
  let always : List Text :=
    ["[green]Done![/green]", counted "Files tracked" s.tracked,
      counted "Contents loaded" s.loaded, counted "Syntax trees" s.parsed]
  if s.skipped = 0 then always else always ++ [dimmed ("Skipped: " ++ Text.ofNat s.skipped)]

def documentLine (path : Path) : Text := dimmed ("Document: " ++ path.toText)

def documentLines (files : Nat) (path : Path) : List Text :=
  [dimmed ("Document entries: " ++ Text.ofNat files), documentLine path]

/-- Reports a run that ended without failure. The document is read once more for the report. -/
def report (console : Console) (stats : Stats) (w : Workspace) : Output × Workspace :=
  let (printed, failure) := console.print (statsLines stats)
  match failure with
  | some f => (⟨1, printed, some f⟩, w)
  | none =>
    let (summary, w) := Store.summary w
    match summary with
    | .error f => (⟨1, printed, some f⟩, w)
    | .ok summary =>
      let (more, failure) := console.print (documentLines summary.files w.store.path)
      (⟨if failure.isSome then 1 else 0, printed ++ more, failure⟩, w)

/-- What follows a run: the report, or the reason why the run failed. -/
def conclude (console : Console) (outcome : Pipeline.Outcome Run.Handle) (s : Run.State) :
    Output × Workspace :=
  match outcome.failure with
  | some f =>
    (⟨1, [], none⟩,
      say .error (f.kind.name ++ " in stage " ++ f.stage ++ ": " ++ f.message) s.workspace)
  | none =>
    report console (Run.contextAt s Run.firstHandle).stats (say .info "status end" s.workspace)

def refresh (console : Console) (configuration : Configuration) (directory : Text)
    (patterns : List Text) (w : Workspace) : Output × Workspace :=
  let ended := Run.run configuration directory patterns Run.defaultStages w
  conclude console ended.1 ended.2

/-- The workspace once the command has said what it is. -/
def greeted (w : Workspace) : Workspace :=
  say .info ("using " ++ Configuration.toolName ++ "@" ++ version) w

/-- The current directory, and the configuration that is found for it. -/
def located (fs : FileSystem) : Except Failure (Text × Configuration) := do
  let directory ← fs.currentPath.mapError fun r => .unexpected r.unexpected
  return (directory, ← Configuration.load fs (Path.ofText directory))

def runPatterns (console : Console) (patterns : List Text) (w : Workspace) : Output × Workspace :=
  let w := greeted w
  match located w.files with
  | .ok (directory, configuration) => refresh console configuration directory patterns w
  | .error (.reported kind message) =>
    (⟨1, [], none⟩, say .error (kind.name ++ ": " ++ message) w)
  | .error f => (⟨1, [], some f⟩, w)

/-- Runs the command with a console to print on. -/
def runOn (console : Console) (arguments : List Text) (w : Workspace) : Output × Workspace :=
  match Call.ofArguments arguments with
  | .help => (⟨0, [], none⟩, w)
  | .misuse => (⟨2, [], none⟩, w)
  | .run patterns => runPatterns console patterns w

def run (arguments : List Text) (w : Workspace) : Output × Workspace :=
  runOn .plain arguments w

end SourceLedger.Command
