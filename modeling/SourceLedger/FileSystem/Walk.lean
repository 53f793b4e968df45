import SourceLedger.FileSystem.Basic

/-!
# Following paths

A path is followed name by name from the root or the current directory. A symbolic link on the
way is replaced by its target, at most forty times; a link at the end of the way is followed
only where that is asked for. The last name may name nothing.
-/

namespace SourceLedger

namespace FileName

/-- The number of bytes that a name takes. A surrogate stands for one byte that is not UTF-8. -/
def byteLength : Text → Nat
  | [] => 0
  | .scalar c :: rest => Utf8.width c + byteLength rest
  | .surrogate _ :: rest => 1 + byteLength rest

def maxLength : Nat := 255

/-- The surrogates that stand for the bytes from 0x80 up. -/
def standsForByte : CodePoint → Bool
  | .scalar _ => true
  | .surrogate i => 0x480 ≤ i.val && i.val < 0x500

end FileName

/-- A path as it is followed: names, dots among them. -/
structure Route where
  isAbsolute : Bool
  names : List Text
  /-- A slash at the end asks for a directory. -/
  endsInSlash : Bool
  deriving DecidableEq

namespace Route

def maxLength : Nat := 4095

def ofText (t : Text) : Route where
  isAbsolute := t.head? = some Path.slash
  names := (Text.splitOn Path.slash t).filter fun s => !s.isEmpty
  endsInSlash := t.getLast? = some Path.slash

def surrogatesBefore : Text → Text
  | c@(.surrogate _) :: rest => c :: surrogatesBefore rest
  | _ => []

/-- The first run of surrogates that do not all stand for bytes. `position` is where the text
starts in the whole one. -/
def strayRun? (position : Nat) (afterSurrogate : Bool) :
    Text → Option Utf8.EncodeFailure
  | [] => none
  | .scalar _ :: rest => strayRun? (position + 1) false rest
  | c@(.surrogate _) :: rest =>
    let run := c :: surrogatesBefore rest
    if !afterSurrogate && run.any fun c => !FileName.standsForByte c then
      some { first := position, last := position + run.length - 1, surrogate := c }
    else strayRun? (position + 1) true rest

/-- The route that a path describes, if it can be handed to the system at all. -/
def check (path : Text) : Except Refusal Route :=
  match strayRun? 0 false path with
  | some f => .error (.unencodable path f)
  | none =>
    if path.contains (.scalar '\x00') then .error .nullInPath
    else if path.isEmpty then .error (.system .notFound)
    else if maxLength < FileName.byteLength path then .error (.system .nameTooLong)
    else .ok (ofText path)

end Route

namespace FileSystem

/-- The greatest number of links that are followed on one way. -/
def maxLinks : Nat := 40

/-- The place that names lead to from the directory `here`. With `toDirectory` the last one
must be a directory; otherwise, unless `followLast`, it may be a link. What a link and the names
behind it lead to is left to `follow`. -/
def walkNames (fs : FileSystem) (followLast : Bool)
    (follow : Location → Bool → Text → List Text → Except SystemError Location)
    (here : Location) (toDirectory : Bool) : List Text → Except SystemError Location
  | [] => .ok here
  | name :: rest =>
    if name = Path.dot then walkNames fs followLast follow here toDirectory rest
    else if name = Path.dotDot then walkNames fs followLast follow here.dropLast toDirectory rest
    else if FileName.maxLength < FileName.byteLength name then .error .nameTooLong
    else
      let place := here ++ [name]
      match fs.node? place with
      | none => if rest.isEmpty then .ok place else .error .notFound
      | some .directory => walkNames fs followLast follow place toDirectory rest
      | some (.file _) | some .locked =>
        if rest.isEmpty && !toDirectory then .ok place else .error .notDirectory
      | some (.link target) =>
        if rest.isEmpty && !toDirectory && !followLast then .ok place
        else follow here toDirectory target rest

/-- The place that names lead to, with so many links that may be followed. -/
def walkFrom (fs : FileSystem) (followLast : Bool) :
    Nat → Location → Bool → List Text → Except SystemError Location
  | 0 => fs.walkNames followLast fun _ _ _ _ => .error .tooManyLinks
  | links + 1 =>
    fs.walkNames followLast fun here toDirectory target rest =>
      let route := Route.ofText target
      if target.isEmpty then .error .notFound
      else
        walkFrom fs followLast links (if route.isAbsolute then [] else here)
          (toDirectory || (rest.isEmpty && route.endsInSlash)) (route.names ++ rest)

/-- The place that a path leads to. -/
def walk (fs : FileSystem) (followLast : Bool) (path : Text) : Except Refusal Location := do
  let route ← Route.check path
  let start := if route.isAbsolute then [] else fs.current
  match fs.node? start with
  | some .directory =>
    (fs.walkFrom followLast maxLinks start route.endsInSlash route.names).mapError .system
  | _ => .error (.system .notFound)

/-- What a path leads to. -/
def find (fs : FileSystem) (followLast : Bool) (path : Text) : Except Refusal Node := do
  match fs.node? (← fs.walk followLast path) with
  | some node => return node
  | none => throw (.system .notFound)

/-- Whether there is anything at a path, a link that leads nowhere included. -/
def holds (fs : FileSystem) (path : Text) : Bool := (fs.find false path).isOk

/-- Whether a path leads to a directory. -/
def isDirectory (fs : FileSystem) (path : Text) : Bool :=
  match fs.find true path with
  | .ok .directory => true
  | _ => false

/-- The refusals that mean no more than that nothing is there. -/
def meansAbsent : Refusal → Bool
  | .system .notFound | .system .notDirectory | .system .tooManyLinks => true
  | .system _ => false
  | .nullInPath | .unencodable .. => true

/-- What a path leads to, or `none` if nothing is there. -/
def find? (fs : FileSystem) (path : Text) : Except Unexpected (Option Node) :=
  match fs.find true path with
  | .ok node => .ok (some node)
  | .error r => if meansAbsent r then .ok none else .error r.unexpected

def isFile (fs : FileSystem) (path : Text) : Except Unexpected Bool := do
  return (← fs.find? path).any Node.isRegular

def present (fs : FileSystem) (path : Text) : Except Unexpected Bool := do
  return (← fs.find? path).isSome

/-- The content of the file that a path leads to. -/
def read (fs : FileSystem) (path : Text) : Except Refusal Bytes := do
  match ← fs.find true path with
  | .file content => return content
  | .locked => throw (.system .permission)
  | _ => throw (.system .isDirectory)

/-- The names in the directory that a path leads to. -/
def list (fs : FileSystem) (path : Text) : Except Refusal (List Text) := do
  let place ← fs.walk true path
  match fs.node? place with
  | some .directory => return fs.namesIn place
  | some _ => throw (.system .notDirectory)
  | none => throw (.system .notFound)

/-- The path of the current directory. -/
def currentPath (fs : FileSystem) : Except Refusal Text :=
  match fs.node? fs.current with
  | some .directory => .ok (.scalar '/' :: Text.join "/" fs.current)
  | _ => .error (.system .notFound)

end FileSystem

end SourceLedger
