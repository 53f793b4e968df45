import SourceLedger.FileSystem.Walk
import SourceLedger.Glob.Pattern

/-!
# Expanding path patterns

A path pattern is matched name by name against the directories. Names that start with a dot
are hidden from patterns that do not. The name `**` stands for any number of directories, links
to directories included, and at the end of a pattern for everything below.
-/

namespace SourceLedger.Glob

def slash : CodePoint := Path.slash

/-- A path followed by another, by their texts. -/
def joinPaths (p q : Text) : Text :=
  if q.head? = some slash then q
  else if p.isEmpty || p.getLast? = some slash then p ++ q
  else p ++ slash :: q

/-- Like `joinPaths`, but an empty second path adds no slash. -/
def joinNames (p q : Text) : Text :=
  if p.isEmpty then q else if q.isEmpty then p else joinPaths p q

/-- What stands before and behind the last slash. The slashes before the last name are dropped
unless there is nothing else. -/
def splitLast (path : Text) : Text × Text :=
  let name := (path.reverse.takeWhile (· ≠ slash)).reverse
  let before := path.take (path.length - name.length)
  let trimmed := (before.reverse.dropWhile (· = slash)).reverse
  (if trimmed.isEmpty then before else trimmed, name)

def isHidden (name : Text) : Bool := name.head? = some (.scalar '.')

/-- The name that stands for any number of directories. -/
def anyDepth : Text := "**"

/-- The names in a directory, or only those of directories. Where there is no directory there
are no names. -/
def names (fs : FileSystem) (directory : Text) (onlyDirectories : Bool) :
    Except Refusal (List Text) :=
  match fs.list (if directory.isEmpty then Path.dot else directory) with
  | .ok found =>
    .ok (found.filter fun name =>
      !onlyDirectories || fs.isDirectory (joinNames directory name))
  | .error (.system _) => .ok []
  | .error r => .error r

/-- The paths below a directory, hidden ones and those below them left out. Since no path is
longer than the system allows, `depth` levels reach everything. -/
def deepNames (fs : FileSystem) (onlyDirectories : Bool) :
    Nat → Text → Except Refusal (List Text)
  | 0, _ => .ok []
  | depth + 1, directory => do
    let found ← names fs directory onlyDirectories
    let parts ← (found.filter fun name => !isHidden name).mapM fun name => do
      let below ← deepNames fs onlyDirectories depth (joinNames directory name)
      return name :: below.map (joinNames name)
    return parts.flatten

/-- The matches of a single name in a directory. -/
def inDirectory (fs : FileSystem) (onlyDirectories : Bool) (directory name : Text) :
    Except Refusal (List Text) :=
  if name = anyDepth then do
    return [] :: (← deepNames fs onlyDirectories Route.maxLength directory)
  else if isMagic name then do
    let found ← names fs directory onlyDirectories
    let pattern := Pattern.ofText name
    return found.filter fun n => (isHidden name || !isHidden n) && pattern.isMatch n
  else if name.isEmpty then
    .ok (if fs.isDirectory directory then [name] else [])
  else .ok (if fs.holds (joinNames directory name) then [name] else [])

/-- The matches of a path pattern below a directory. -/
def matchesOf (fs : FileSystem) (root : Text) (onlyDirectories : Bool)
    (pattern : Text) : Except Refusal (List Text) :=
  let (directory, name) := splitLast pattern
  if !isMagic pattern then
    if name.isEmpty then
      .ok (if fs.isDirectory (joinNames root directory) then [pattern] else [])
    else .ok (if fs.holds (joinNames root pattern) then [pattern] else [])
  else if directory.isEmpty then inDirectory fs onlyDirectories root name
  else do
    let directories ←
      if _h : directory.length < pattern.length then
        if isMagic directory then matchesOf fs root true directory else pure [directory]
      else pure [directory]
    let parts ← directories.mapM fun d => do
      return (← inDirectory fs onlyDirectories (joinNames root d) name).map (joinPaths d)
    return parts.flatten
  termination_by pattern.length

/-- The matches of a path pattern below a directory, in no particular order. Below the current
directory the root is empty. -/
def expand (fs : FileSystem) (root pattern : Text) : Except Refusal (List Text) := do
  let found ← matchesOf fs root false pattern
  match found with
  | [] :: rest => return if anyDepth.isPrefixOf pattern then rest else found
  | _ => return found

end SourceLedger.Glob
