import SourceLedger.FileSystem.Walk

/-!
# Changing a file system

The single steps by which a file system changes. Each either happens as a whole or not at all.
-/

namespace SourceLedger.FileSystem

/-- Makes a directory where nothing is. -/
def makeDirectory (fs : FileSystem) (path : Text) : Except Refusal FileSystem := do
  let place ← fs.walk false path
  match fs.node? place with
  | none => return fs.put place .directory
  | some _ => throw (.system .alreadyExists)

/-- Makes an empty file where nothing is. -/
def createFile (fs : FileSystem) (path : Text) : Except Refusal FileSystem := do
  let place ← fs.walk false path
  match fs.node? place with
  | none => return fs.put place (.file [])
  | some _ => throw (.system .alreadyExists)

/-- Adds bytes at the end of a file. -/
def append (fs : FileSystem) (path : Text) (bytes : Bytes) : Except Refusal FileSystem := do
  let place ← fs.walk true path
  match fs.node? place with
  | some (.file content) => return fs.put place (.file (content ++ bytes))
  | some .locked => throw (.system .permission)
  | some .directory => throw (.system .isDirectory)
  | _ => throw (.system .notFound)

/-- Why a file cannot take the place of the directory that a path leads to: where the path ends with
dots or is the root, it is not even looked at. -/
def refusedDirectory (path : Text) : SystemError :=
  match (Route.ofText path).names.getLast? with
  | none => .busy
  | some name => if name = Path.dot ∨ name = Path.dotDot then .busy else .isDirectory

/-- Gives a file another name, in place of what has that name. -/
def replace (fs : FileSystem) (path newPath : Text) : Except Refusal FileSystem := do
  let place ← fs.walk false path
  match fs.node? place with
  | none => throw (.system .notFound)
  | some .directory => throw (.system .isDirectory)
  | some node =>
    let newPlace ← fs.walk false newPath
    match fs.node? newPlace with
    | some .directory => throw (.system (refusedDirectory newPath))
    | _ => return (fs.erase place).put newPlace node

/-- Removes a file or link. -/
def removeFile (fs : FileSystem) (path : Text) : Except Refusal FileSystem := do
  let place ← fs.walk false path
  match fs.node? place with
  | none => throw (.system .notFound)
  | some .directory => throw (.system .isDirectory)
  | some _ => return fs.erase place

/-- Writes a whole file, instead of the one that the path leads to. -/
def overwrite (fs : FileSystem) (path : Text) (bytes : Bytes) : Except Refusal FileSystem := do
  let place ← fs.walk true path
  match fs.node? place with
  | some .directory => throw (.system .isDirectory)
  | some .locked => throw (.system .permission)
  | _ => return fs.put place (.file bytes)

/-- Makes a symbolic link where nothing is. -/
def makeLink (fs : FileSystem) (path target : Text) : Except Refusal FileSystem := do
  let place ← fs.walk false path
  match fs.node? place with
  | none => return fs.put place (.link target)
  | some _ => throw (.system .alreadyExists)

/-- Removes what is at a path, and everything below it. -/
def removeTree (fs : FileSystem) (path : Text) : Except Refusal FileSystem := do
  let place ← fs.walk false path
  match fs.node? place with
  | none => throw (.system .notFound)
  | some _ => return fs.eraseTree place

/-- Makes another directory the current one. -/
def enter (fs : FileSystem) (path : Text) : Except Refusal FileSystem := do
  let place ← fs.walk true path
  match fs.node? place with
  | some .directory => return { fs with current := place }
  | some _ => throw (.system .notDirectory)
  | none => throw (.system .notFound)

end SourceLedger.FileSystem
