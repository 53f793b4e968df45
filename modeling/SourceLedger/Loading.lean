import SourceLedger.Parsing
import SourceLedger.Store.Basic
import SourceLedger.Value.Equality

/-!
# Loading contents and trees

Refreshing the items of a document: their contents from the files, and their trees from the
contents. Files are read, and sources parsed, all at once; if one of them fails, nothing is
written.
-/

namespace SourceLedger.Loading

/-- What a full path leads to. Numbers from zero up name what the process has open, none of
which is a regular file. -/
inductive Place
  | regular (path : Text)
  | other
  deriving DecidableEq

/-- The number of descriptors that are open while files are read. -/
def openDescriptors : Nat := 7

def cannotStat (path why : Text) : Failure :=
  .reported .fileSystem ("Cannot stat " ++ path ++ ": " ++ why)

def ofDescriptor (n : Int) : Except Failure Place :=
  if 0 ≤ n ∧ n < openDescriptors then .ok .other
  else
    let path := Text.ofInt n
    let e := SystemError.badDescriptor
    .error <| cannotStat path <|
      "[Errno " ++ Text.ofNat e.number ++ "] " ++ e.text ++ ": " ++ path

/-- What the system answers about a path: what is there, and the bytes of a file. A file that is
there need not let itself be opened. -/
structure Answers where
  node : Text → Except Refusal Node
  bytes : Text → Except Refusal Bytes

/-- The answers of a file system. -/
def answersOf (fs : FileSystem) : Answers := ⟨fs.find true, fs.read⟩

def ofPath (system : Answers) (path : Text) : Except Failure Place :=
  match system.node path with
  | .ok node => .ok (if node.isRegular then .regular path else .other)
  | .error (.system e) => .error (cannotStat path ((Refusal.system e).message path))
  | .error r => .error (.unexpected r.unexpected)

def Place.ofValue (system : Answers) (fullPath : Value) : Except Failure Place :=
  match fullPath with
  | .text path => ofPath system path
  | .int n => ofDescriptor n
  | .bool b => ofDescriptor (if b then 1 else 0)
  | _ => .error (.unexpected .wrongType)

def cannotRead (path why : Text) : Failure :=
  .reported .fileSystem ("Cannot read " ++ path ++ ": " ++ why)

/-- The text of a regular file, with its path. -/
def readRegular (system : Answers) (path : Text) : Except Failure (Text × Text) := do
  let bytes ← (system.bytes path).mapError fun r => cannotRead path (r.message path)
  let s ← (Utf8.decode bytes).mapError fun f => cannotRead path f.message
  return (path, Text.ofChars s)

/-- The text of the file that a full path leads to, if it is a regular one. -/
def readContentFrom (system : Answers) (fullPath : Value) :
    Except Failure (Option (Text × Text)) := do
  match ← Place.ofValue system fullPath with
  | .regular path => return some (← readRegular system path)
  | .other => return none

def readContent (fs : FileSystem) : Value → Except Failure (Option (Text × Text)) :=
  readContentFrom (answersOf fs)

/-- What is said while a file is read. -/
def remark (system : Answers) (fullPath : Value) : Job Unit :=
  match Place.ofValue system fullPath with
  | .ok (.regular path) => Job.say .debug ("read " ++ path)
  | .ok .other => Job.say .warning ("skip " ++ fullPath.display)
  | .error _ => pure ()

/-- The texts of the regular files among some full paths, each path once. -/
def readContentsFrom (answering : FileSystem → Answers) (fullPaths : List Value) :
    Job (Entries Text) := do
  let system := answering (← get).files
  fullPaths.forM (remark system)
  let entries ← Job.gather (fullPaths.map (readContentFrom system))
  return Entries.ofList (entries.filterMap id)

def readContents : List Value → Job (Entries Text) := readContentsFrom answersOf

/-- Sets the content of an item to the text that was read for its full path. -/
def withContent (contents : Entries Text) (item : Item) : Item :=
  { item with content := (item.fullPath.asText?.bind contents.get?).map .text }

/-- Reads the content of every item and stores it. Answers how many files were read. -/
def loadContentsFrom (answering : FileSystem → Answers) : Job Nat := do
  let items ← Store.items
  let contents ← readContentsFrom answering (← Store.fullPaths)
  Store.mergeItems (items.mapValues (withContent contents))
  return contents.length

def loadContents : Job Nat := loadContentsFrom answersOf

/-- The parse options that the stored configuration asks for. -/
def storedOptions : Job ParseOptions := do
  let config ← Store.getNamespace Document.configName
  Job.ofExcept <|
    (ParseOptions.ofValue (config.lookup "parse.options" .null)).mapError (·.failure)

/-- Lists and tables cannot be looked up by. -/
def canBeKey : Value → Bool
  | .list _ | .table _ => false
  | _ => true

def requireKeys (keys : List Value) : Job Unit :=
  if keys.all canBeKey then pure () else Job.fail (.unexpected .wrongType)

/-- The contents of the items by their full paths. -/
def sources (items : Items) : List (Value × Value) :=
  items.foldl (fun found (_, item) =>
    match item.content with
    | none => found
    | some content =>
      if found.any fun (p, _) => p.equals item.fullPath then
        found.map fun (p, c) => if p.equals item.fullPath then (p, content) else (p, c)
      else found ++ [(item.fullPath, content)]) []

/-- What makes trees: the tree of a source that has a file name. -/
abbrev SourceParser := Text → Text → Except Failure Value

/-- The tree that a parser makes of a source under its full path. -/
def parseSourceWith (parser : SourceParser) (fullPath content : Value) :
    Except Failure (Text × Value) :=
  match content, fullPath with
  | .text source, .text path => (parser source path).map fun tree => (path, tree)
  | _, _ => .error (.unexpected .wrongType)

/-- The tree of a source under its full path. -/
def parseSource (options : ParseOptions) : Value → Value → Except Failure (Text × Value) :=
  parseSourceWith (Parsing.attempt options)

/-- Sets the tree of an item to the one that was made for its full path. -/
def withTree (trees : Entries Value) (item : Item) : Item :=
  { item with tree := item.fullPath.asText?.bind trees.get? }

/-- Has the content of every item that has one parsed and stores the trees. Answers how many trees
were made. -/
def loadTreesWith (parser : SourceParser) : Job Nat := do
  let items ← Store.items
  let sources := sources items
  requireKeys (sources.map Prod.fst)
  sources.forM fun (path, _) => Job.say .debug ("parse " ++ path.display)
  let trees ← Job.gather (sources.map fun (path, content) => parseSourceWith parser path content)
  requireKeys (items.map (·.2.fullPath))
  Store.mergeItems (items.mapValues (withTree (Entries.ofList trees)))
  return trees.length

/-- Loads trees with the parser of the given options, or else of those that are stored. -/
def loadTrees (options? : Option ParseOptions) : Job Nat := do
  let options ←
    match options? with
    | some options => pure options
    | none => storedOptions
  loadTreesWith (Parsing.attempt options)

end SourceLedger.Loading
