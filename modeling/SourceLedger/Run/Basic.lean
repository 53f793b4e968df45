import SourceLedger.Configuration
import SourceLedger.Loading
import SourceLedger.Pipeline
import SourceLedger.Resolution.Basic

/-!
# Runs

A run refreshes a document: it caches the configuration, resolves the patterns, gives every
match a new item, and loads contents and trees of everything that the document tracks. The
contexts of a run are kept in a list, and a stage is given the place of its context in it, so
that a context can be changed and told from another one.
-/

namespace SourceLedger

/-- The counters of a run, and the stages that were finished. -/
structure Stats where
  patterns : Nat
  tracked : Nat
  loaded : Nat
  skipped : Nat
  parsed : Nat
  finished : List Text

namespace Stats

def zero : Stats := ⟨0, 0, 0, 0, 0, []⟩

def text (s : Stats) : Text :=
  "RunStats(patterns=" ++ Text.ofNat s.patterns ++ ", tracked=" ++ Text.ofNat s.tracked ++
    ", loaded=" ++ Text.ofNat s.loaded ++ ", skipped=" ++ Text.ofNat s.skipped ++ ", parsed=" ++
    Text.ofNat s.parsed ++ ")"

/-- Notes that a stage was finished; each name is kept once. -/
def finish (s : Stats) (stage : Text) : Stats :=
  if s.finished.contains stage then s else { s with finished := s.finished ++ [stage] }

end Stats

structure Context where
  patterns : List Text
  /-- The directory that relative patterns and paths start from. -/
  directory : Text
  paths : List Text
  items : Items
  stats : Stats

namespace Run

structure State where
  workspace : Workspace
  configuration : Configuration
  contexts : List Context

/-- The place of a context. -/
abbrev Handle := Nat

abbrev Action (α : Type) := ExceptT Failure (StateM State) α

abbrev Stage := Pipeline.Stage State Handle

/-- Works in the workspace of the run. -/
def work {α : Type} (job : Job α) : Action α := fun s =>
  let (r, workspace) := job s.workspace
  (r, { s with workspace })

def say (level : Level) (text : Text) : StateM State Unit :=
  modify fun s =>
    { s with workspace := { s.workspace with log := s.workspace.log ++ [⟨level, text⟩] } }

def blank : Context := ⟨[], [], [], [], .zero⟩

def contextAt (s : State) (h : Handle) : Context := s.contexts.getD h blank

def changeContext (h : Handle) (f : Context → Context) : StateM State Unit :=
  modify fun s => { s with contexts := s.contexts.modify h f }

/-- Adds a context that differs from another one in its patterns alone and is otherwise new. -/
def newContext (h : Handle) (patterns : List Text) : StateM State Handle := do
  let s ← get
  set { s with contexts := s.contexts ++ [{ blank with
    patterns, directory := (contextAt s h).directory }] }
  return s.contexts.length

/-- A stage that changes its context and passes it on. -/
def stage (name : Text) (run : Handle → Action Unit) : Stage where
  name := name
  run h := do
    run h
    return some h

/-- Loads the document and caches the configuration in it. -/
def initializeStore : Stage := stage "initialize_store" fun _ => do
  let _ ← work Store.load
  work (Store.merge Document.configName (.table (← get).configuration.values))

/-- Expands the patterns to a list of paths. -/
def resolvePatterns : Stage := stage "resolve_patterns" fun h => do
  let context := contextAt (← get) h
  let paths ← work (Resolution.resolve context.directory context.patterns)
  changeContext h fun c =>
    { c with
      paths
      stats := { c.stats with patterns := c.patterns.length, tracked := paths.length } }

/-- Makes new items for the paths. -/
def assignIdentities : Stage := stage "assign_identities" fun h => do
  let s ← get
  let context := contextAt s h
  let (items, ids) := Items.create context.directory context.paths s.workspace.ids
  set { s with workspace := { s.workspace with ids } }
  changeContext h fun c => { c with items }

/-- Writes the new items into the document. -/
def commitFiles : Stage := stage "commit_files" fun h => do
  work (Store.mergeItems (contextAt (← get) h).items)

/-- Reads the content of everything that is tracked. -/
def loadFileContents : Stage := stage "load_file_contents" fun h => do
  let loaded ← work Loading.loadContents
  changeContext h fun c => { c with stats := { c.stats with loaded } }
  let files ← work (Store.getNamespace Document.filesName)
  let tracked := (files.asTable?.getD []).length
  changeContext h fun c => { c with stats := { c.stats with skipped := tracked - loaded } }

/-- Parses everything that has content. The run ends here. -/
def loadFileTrees : Stage where
  name := "load_file_asts"
  run h := do
    let parsed ← work (Loading.loadTrees none)
    changeContext h fun c => { c with stats := { c.stats with parsed } }
    return none

def defaultStages : List Stage :=
  [initializeStore, resolvePatterns, assignIdentities, commitFiles, loadFileContents,
    loadFileTrees]

/-- What the log says of a run. Durations are left open. -/
def notes : Pipeline.Notes State Handle where
  started name := say .debug ("stage " ++ name ++ " started")
  finished name h := do
    say .info ("stage " ++ name ++ " finished in N ms")
    changeContext h fun c => { c with stats := c.stats.finish name }
  ended name := say .debug ("context voided after " ++ name)
  failed f := say .error ("stage " ++ f.stage ++ " failed: " ++ f.message)

/-- The first context of every run. -/
def firstHandle : Handle := 0

def start (configuration : Configuration) (directory : Text) (patterns : List Text)
    (w : Workspace) : State where
  workspace := { w with store := .new (Document.pathIn configuration.outDirectory) }
  configuration := configuration
  contexts := [{ blank with patterns, directory }]

/-- Runs stages on a workspace, and forgets the document in memory at the end. -/
def run (configuration : Configuration) (directory : Text) (patterns : List Text)
    (stages : List Stage) (w : Workspace) : Pipeline.Outcome Handle × State :=
  let (outcome, s) :=
    (Pipeline.run notes stages firstHandle).run (start configuration directory patterns w)
  let store := { s.workspace.store with cached := none }
  (outcome, { s with workspace := { s.workspace with store } })

end Run

end SourceLedger
