import SourceLedger.Json.Writing
import SourceLedger.Store.Document

/-!
# Writing documents

A document is written to a temporary file beside its own, which takes the place of the old one
only when it is complete. Whatever goes wrong before that, the old file stays as it was, and the
temporary one is removed.
-/

namespace SourceLedger

/-- Why a document was not written. -/
inductive WriteProblem
  | refused (path : Text) (r : Refusal)
  | notReplaced (path newPath : Text) (r : Refusal)
  /-- The disk did not take the bytes. -/
  | notTaken (r : Refusal)
  | noTemporaryName
  | unwritable (f : Json.WriteFault)

namespace WriteProblem

def numbered (number : Nat) (text : Text) : Text :=
  "[Errno " ++ Text.ofNat number ++ "] " ++ text

def message : WriteProblem → Text
  | refused path r => r.message path
  | notReplaced path newPath r =>
    match r with
    | .system _ => r.message path ++ " -> " ++ Quoted.text newPath
    | _ => r.message path
  | notTaken (.system e) => numbered e.number e.text
  | notTaken r => r.message []
  | noTemporaryName =>
    numbered SystemError.alreadyExists.number "No usable temporary file name found"
  | unwritable (.noForm kind) => "Object of type " ++ kind ++ " is not JSON serializable"
  | unwritable .longInteger => Numeral.tooLongToWrite
  | unwritable (.unencodable f) => f.message
  | unwritable .tooDeep => []

/-- The failure of writing the document at a path. Only depth is met without being looked out
for. -/
def failure (path : Path) : WriteProblem → Failure
  | unwritable .tooDeep => .unexpected .tooDeep
  | problem =>
    .reported .persistence ("Cannot write " ++ path.toText ++ ": " ++ problem.message)

end WriteProblem

namespace Writing

abbrev Attempt (α : Type) := ExceptT WriteProblem Script α

def perform (s : Step) : Script (Except Refusal Unit) := .step s .done

/-- Whether a path leads to a directory. -/
def isDirectory (path : Text) : Script Bool := .look fun fs => .done (fs.isDirectory path)

/-- Makes a directory unless it is there already. -/
def makeDirectory (path : Text) : Attempt Unit := do
  match ← perform (.makeDirectory path) with
  | .ok () => return
  | .error (.system e) =>
    if e = .notFound then throw (.refused path (.system e))
    else if ← isDirectory path then return
    else throw (.refused path (.system e))
  | .error r => throw (.refused path r)

/-- Makes a directory with all directories above it, as far as they are not there already. -/
def makeDirectories (path : Path) : Attempt Unit := do
  match ← perform (.makeDirectory path.toText) with
  | .ok () => return
  | .error (.system .notFound) =>
    if _h : path.segments = [] then throw (.refused path.toText (.system .notFound))
    else
      makeDirectories path.parent
      makeDirectory path.toText
  | .error (.system e) =>
    if ← isDirectory path.toText then return
    else throw (.refused path.toText (.system e))
  | .error r => throw (.refused path.toText r)
  termination_by path.segments.length
  decreasing_by
    have := List.length_pos_iff.mpr _h
    simp only [Path.parent, List.length_dropLast]
    omega

/-- The name of a temporary file beside the one of a name. -/
def temporaryName (name : Text) (n : Nat) : Text :=
  "." ++ name ++ "." ++ Text.ofChars (Numeral.hex 8 n)

/-- How many temporary names are tried. -/
def maxAttempts : Nat := 10000

/-- Makes an empty file under the first temporary name that is free. -/
def createTemporary (directory : Path) (name : Text) : Nat → Attempt Text
  | 0 => throw .noTemporaryName
  | attempts + 1 => do
    let path := (directory.child (temporaryName name (maxAttempts - attempts - 1))).toText
    match ← perform (.createFile path) with
    | .ok () => return path
    | .error (.system .alreadyExists) => createTemporary directory name attempts
    | .error r => throw (.refused path r)

/-- The number of bytes that are handed to the system at a time. -/
def blockSize : Nat := 8192

def blocks (bytes : Bytes) : List Bytes :=
  if _h : bytes = [] then [] else bytes.take blockSize :: blocks (bytes.drop blockSize)
  termination_by bytes.length
  decreasing_by
    have := List.length_pos_iff.mpr _h
    simp only [List.length_drop, blockSize]
    omega

def appendBlocks (path : Text) : List Bytes → Attempt Unit
  | [] => return
  | block :: rest => do
    match ← perform (.append path block) with
    | .ok () => appendBlocks path rest
    | .error r => throw (.notTaken r)

/-- Fills the temporary file and puts it in the place of the old one. -/
def fill (temporary : Text) (path : Path) (w : Json.Written) : Attempt Unit := do
  appendBlocks temporary (blocks w.bytes)
  match w.fault with
  | some f => throw (.unwritable f)
  | none =>
    match ← perform (.replace temporary path.toText) with
    | .ok () => return
    | .error r => throw (.notReplaced temporary path.toText r)

/-- The directory for temporary files: the one that the path names by its text. -/
def temporaryDirectory (path : Path) : Script Path :=
  .look fun fs => .done ((Path.join ⟨.single, fs.current⟩ path.parent).collapse)

/-- Removes the temporary file after a problem, which is then the outcome unless the removal
is refused as well. -/
def giveUp (temporary : Text) (problem : WriteProblem) : Attempt Unit := do
  match ← perform (.removeFile temporary) with
  | .ok () | .error (.system .notFound) => throw problem
  | .error r => throw (.refused temporary r)

/-- Writes what a document is written as to the file at a path. -/
def store (path : Path) (w : Json.Written) : Attempt Unit := do
  makeDirectories path.parent
  let directory ← temporaryDirectory path
  let temporary ← createTemporary directory path.name maxAttempts
  tryCatch (fill temporary path w) (giveUp temporary)

/-- Writes a document to the file at a path. -/
def write (path : Path) (d : Document) : Attempt Unit := store path (Json.write (.table d))

end Writing

end SourceLedger
