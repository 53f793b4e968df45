import SourceLedger.FileSystem.RealPath
import SourceLedger.Toml.Reading
import SourceLedger.Value.Lookup
import SourceLedger.Value.Merge

/-!
# Configurations

A configuration is found by looking upward from a directory: the first directory with a
configuration file settles it. In each directory two files of the program's own come before
the project file shared by many tools, which counts only if it has a table for this one. What a
file leaves out is taken from the defaults.
-/

namespace SourceLedger

structure Configuration where
  values : Value.Table
  /-- The directory that relative paths in the configuration start from. -/
  root : Path
  /-- The file that the configuration was found in. -/
  source : Option Path

namespace Configuration

/-- The name of the program, under which its table stands in a shared file. -/
def toolName : Text := "syndox"

/-- The names of the configuration files of the program's own, in order of precedence. -/
def fileNames : List Text := ["syndox.toml", ".syndox.toml"]

def sharedFileName : Text := "pyproject.toml"

def outKey : Text := "out"

def parseKey : Text := "parse"

def optionsKey : Text := "parse.options"

def defaultOut : Text := ".syndox"

def defaults : Value.Table :=
  [(outKey, .text defaultOut), (parseKey, .table [("options", .table [])])]

/-- The table that the bytes of a file denote, or why they do not. -/
inductive ReadFault
  | undecodable
  | malformed (message : Text)
  | longInteger (digits : Nat)
  | tooDeep

def ReadFault.failure (path : Text) : ReadFault → Failure
  | undecodable => .unexpected .undecodable
  | malformed message => .reported .config ("Invalid TOML in " ++ path ++ ": " ++ message)
  | longInteger digits => .unexpected (.badValue (Numeral.tooLongToRead digits))
  | tooDeep => .unexpected .tooDeep

def ofBytes (bytes : Bytes) : Except ReadFault Value.Table := do
  let s := Toml.joinBreaks (← (Utf8.decode bytes).mapError fun _ => .undecodable)
  (Toml.read s).mapError fun f =>
    match f with
    | .longInteger digits => .longInteger digits
    | .tooDeep => .tooDeep
    | _ => .malformed ((f.message? s).getD [])

def readTable (path : Text) (bytes : Bytes) : Except Failure Value.Table :=
  (ofBytes bytes).mapError (·.failure path)

/-- Why a configuration file could not be opened. -/
def cannotRead (path : Text) : Refusal → Failure
  | .system e =>
    .reported .config ("Cannot read " ++ path ++ ": " ++ (Refusal.system e).message path)
  | r => .unexpected r.unexpected

/-- The content of a regular file, if there is one at a path. -/
def content? (fs : FileSystem) (path : Path) : Except Failure (Option Bytes) := do
  if ← (fs.isFile path.toText).mapError .unexpected then
    return some (← (fs.read path.toText).mapError (cannotRead path.toText))
  else return none

/-- The table of this program in the table of a shared file. -/
def section? (path : Path) (shared : Value.Table) : Except Failure (Option Value.Table) :=
  match Entries.get? shared "tool" with
  | some (.table tools) =>
    match Entries.get? tools toolName with
    | none => .ok none
    | some (.table own) => .ok (some own)
    | some _ =>
      .error <| .reported .config <|
        "[tool." ++ toolName ++ "] in " ++ path.toText ++ " must be a table."
  | _ => .ok none

/-- The first of some files that is there, with its table. -/
def firstOf (fs : FileSystem) :
    List Path → Except Failure (Option (Path × Value.Table))
  | [] => .ok none
  | path :: rest => do
    match ← content? fs path with
    | some bytes => return some (path, ← readTable path.toText bytes)
    | none => firstOf fs rest

/-- The configuration file of one directory, with its table. -/
def inDirectory (fs : FileSystem) (directory : Path) :
    Except Failure (Option (Path × Value.Table)) := do
  match ← firstOf fs (fileNames.map directory.child) with
  | some found => return some found
  | none =>
    let shared := directory.child sharedFileName
    match ← content? fs shared with
    | none => return none
    | some bytes =>
      return (← section? shared (← readTable shared.toText bytes)).map fun own => (shared, own)

/-- The configuration file of the first of some directories that has one. -/
def findIn (fs : FileSystem) : List Path → Except Failure (Option (Path × Value.Table))
  | [] => .ok none
  | directory :: above => do
    match ← inDirectory fs directory with
    | some found => return some found
    | none => findIn fs above

/-- The configuration file for a directory: its own, or that of the nearest one above. -/
def find (fs : FileSystem) (start : Path) : Except Failure (Option (Path × Value.Table)) :=
  findIn fs start.selfAndParents

/-- Checks the entries that the program relies on. -/
def validate (values : Value.Table) (source : Path) : Except Failure Unit :=
  let wrong (what name must : Text) : Except Failure Unit :=
    .error <| .reported .config <|
      "Config " ++ what ++ " '" ++ name ++ "' in " ++ source.toText ++ " must be " ++ must ++ "."
  match Entries.get? values outKey with
  | some (.text (_ :: _)) =>
    match Entries.get? values parseKey with
    | some (.table _) =>
      match (Value.table values).lookup? optionsKey with
      | some (.table _) => .ok ()
      | _ => wrong "section" optionsKey "a table"
    | _ => wrong "section" parseKey "a table"
  | _ => wrong "field" outKey "a non-empty string"

/-- The greatest nesting of values that are copied. -/
def maxNesting : Nat := 485

/-- The table of a file over the defaults, for which it is copied. -/
def overDefaults (own : Value.Table) : Except Failure Value.Table :=
  if (Value.table own).nesting ≤ maxNesting then .ok (Value.merge defaults own)
  else .error (.unexpected .tooDeep)

/-- The configuration for a directory. -/
def load (fs : FileSystem) (start : Path) : Except Failure Configuration := do
  let start ← (fs.realPath start).mapError .unexpected
  match ← find fs start with
  | none => return { values := defaults, root := start, source := none }
  | some (source, own) =>
    let values ← overDefaults own
    validate values source
    return { values, root := source.parent, source := some source }

/-- The value at a dotted key, `null` where there is none. -/
def get (c : Configuration) (key : Text) : Value := (Value.table c.values).lookup key .null

/-- The output directory. -/
def outDirectory (c : Configuration) : Path :=
  c.root.join (Path.ofText ((Value.table c.values).lookup outKey (.text defaultOut)).display)

end Configuration

end SourceLedger
