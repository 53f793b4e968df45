import SourceLedger.Failure
import SourceLedger.Path
import SourceLedger.Text.Codec

/-!
# File systems

A tree of directories, regular files and symbolic links, kept as a list of the places where
something is. A place is named by the names on the way to it from the root, without links or
dots. The root is always a directory.
-/

namespace SourceLedger

/-- Why the system refuses an operation. -/
inductive SystemError
  | notFound
  | inputOutput
  | badDescriptor
  | permission
  | busy
  | alreadyExists
  | notDirectory
  | isDirectory
  | noSpace
  | nameTooLong
  | notEmpty
  | tooManyLinks
  deriving DecidableEq, Repr

namespace SystemError

def number : SystemError → Nat
  | notFound => 2
  | inputOutput => 5
  | badDescriptor => 9
  | permission => 13
  | busy => 16
  | alreadyExists => 17
  | notDirectory => 20
  | isDirectory => 21
  | noSpace => 28
  | nameTooLong => 36
  | notEmpty => 39
  | tooManyLinks => 40

def text : SystemError → Text
  | notFound => "No such file or directory"
  | inputOutput => "Input/output error"
  | badDescriptor => "Bad file descriptor"
  | permission => "Permission denied"
  | busy => "Device or resource busy"
  | alreadyExists => "File exists"
  | notDirectory => "Not a directory"
  | isDirectory => "Is a directory"
  | noSpace => "No space left on device"
  | nameTooLong => "File name too long"
  | notEmpty => "Directory not empty"
  | tooManyLinks => "Too many levels of symbolic links"

/-- The name of the kind of error that goes with an error number. -/
def kindOfNumber (n : Int) : Text :=
  if n = 2 then "FileNotFoundError"
  else if n = 1 ∨ n = 13 then "PermissionError"
  else if n = 17 then "FileExistsError"
  else if n = 20 then "NotADirectoryError"
  else if n = 21 then "IsADirectoryError"
  else if n = 4 then "InterruptedError"
  else if n = 3 then "ProcessLookupError"
  else if n = 10 then "ChildProcessError"
  else if n = 11 ∨ n = 114 ∨ n = 115 then "BlockingIOError"
  else if n = 32 ∨ n = 108 then "BrokenPipeError"
  else if n = 103 then "ConnectionAbortedError"
  else if n = 104 then "ConnectionResetError"
  else if n = 111 then "ConnectionRefusedError"
  else if n = 110 then "TimeoutError"
  else "OSError"

def unexpected (e : SystemError) : Unexpected :=
  .raised (kindOfNumber e.number) [.int e.number, .text e.text]

end SystemError

/-- Why an operation on a path does not succeed. -/
inductive Refusal
  | system (error : SystemError)
  /-- The path holds a NUL, which no name can. -/
  | nullInPath
  /-- The path holds a surrogate that stands for no byte. -/
  | unencodable (path : Text) (f : Utf8.EncodeFailure)
  deriving DecidableEq

namespace Refusal

def unexpected : Refusal → Unexpected
  | system e => e.unexpected
  | nullInPath => .badValue "embedded null byte"
  | unencodable path f => .unencodable path f.first (f.last + 1)

/-- Why an operation on a path failed, as part of a message. -/
def message (path : Text) : Refusal → Text
  | system e =>
    "[Errno " ++ Text.ofNat e.number ++ "] " ++ e.text ++ ": " ++ Quoted.text path
  | nullInPath => "embedded null byte"
  | unencodable _ f => f.message

end Refusal

/-- The names on the way from the root to a place. -/
abbrev Location := List Text

inductive Node
  | directory
  | file (content : Bytes)
  /-- A regular file that does not let itself be opened. -/
  | locked
  | link (target : Text)
  deriving DecidableEq

def Node.isRegular : Node → Bool
  | file _ | locked => true
  | directory | link _ => false

theorem Node.isRegular_iff {node : Node} :
    node.isRegular = true ↔ (∃ content, node = .file content) ∨ node = .locked := by
  cases node <;> simp [isRegular]

structure FileSystem where
  nodes : List (Location × Node)
  /-- Where relative paths start. -/
  current : Location
  deriving DecidableEq

namespace FileSystem

/-- The file system that is empty but for its root. -/
def empty : FileSystem := ⟨[], []⟩

/-- What is at a place. -/
def node? (fs : FileSystem) (place : Location) : Option Node :=
  match place with
  | [] => some .directory
  | _ => (fs.nodes.find? fun (p, _) => p == place).map Prod.snd

/-- Puts a node at a place, instead of what is there. -/
def put (fs : FileSystem) (place : Location) (node : Node) : FileSystem :=
  { fs with nodes := (place, node) :: fs.nodes.filter fun (p, _) => p != place }

/-- Takes away the node at a place, if there is one. -/
def erase (fs : FileSystem) (place : Location) : FileSystem :=
  { fs with nodes := fs.nodes.filter fun (p, _) => p != place }

/-- Takes away a node with everything below it. -/
def eraseTree (fs : FileSystem) (place : Location) : FileSystem :=
  { fs with nodes := fs.nodes.filter fun (p, _) => !place.isPrefixOf p }

/-- The names in a directory. -/
def namesIn (fs : FileSystem) (place : Location) : List Text :=
  fs.nodes.filterMap fun (p, _) => if p ≠ [] ∧ p.dropLast = place then p.getLast? else none

private theorem find?_filter_ne {nodes : List (Location × Node)} {place other : Location}
    (h : place ≠ other) :
    (nodes.filter fun (p, _) => p != place).find? (fun (p, _) => p == other) =
      nodes.find? fun (p, _) => p == other := by
  rw [List.find?_filter]
  congr 1
  funext ⟨p, n⟩
  by_cases hp : p = other
  · simp [hp, Ne.symm h]
  · simp [hp]

theorem node?_put (fs : FileSystem) {place : Location} (other : Location) (node : Node)
    (h : place ≠ []) :
    (fs.put place node).node? other = if place = other then some node else fs.node? other := by
  cases other with
  | nil => simp [node?, h]
  | cons a rest =>
    by_cases hp : place = a :: rest
    · simp [node?, put, hp]
    · simp [node?, put, hp, find?_filter_ne hp]

theorem node?_erase (fs : FileSystem) {place : Location} (other : Location)
    (h : place ≠ []) :
    (fs.erase place).node? other = if place = other then none else fs.node? other := by
  cases other with
  | nil => simp [node?, h]
  | cons a rest =>
    by_cases hp : place = a :: rest
    · simp [node?, erase, hp, List.find?_filter]
    · simp [node?, erase, hp, find?_filter_ne hp]

end FileSystem

end SourceLedger
