import SourceLedger.Json.Reading
import SourceLedger.Workspace

/-!
# Documents on disk

A document is a JSON object in a file. A file that is absent stands for the empty document,
and a document that is read always has the two namespaces of the program.
-/

namespace SourceLedger

namespace Document

def configName : Text := "config"

def filesName : Text := "files"

/-- Adds the namespaces that are missing. -/
def withDefaults (d : Document) : Document :=
  (Entries.putDefault d configName (.table [])).putDefault filesName (.table [])

/-- Why a file does not hold a document. -/
inductive ReadFault
  | refused (r : Refusal)
  | undecodable (f : Utf8.DecodeFailure)
  | malformed (message : Text)
  | notObject
  | longInteger (digits : Nat)
  | tooDeep

def ReadFault.failure (path : Text) : ReadFault → Failure
  | refused r => cannotRead (r.message path)
  | undecodable f => cannotRead f.message
  | malformed message => cannotRead message
  | notObject => .reported .persistence (path ++ " must contain a JSON object")
  | longInteger digits => .unexpected (.badValue (Numeral.tooLongToRead digits))
  | tooDeep => .unexpected .tooDeep
where
  cannotRead (why : Text) : Failure :=
    .reported .persistence ("Cannot read " ++ path ++ ": " ++ why)

/-- The document that a text denotes, before missing namespaces are added. -/
def ofChars (s : List Char) : Except ReadFault Document :=
  match Json.read s with
  | .ok (.table d) => .ok d
  | .ok _ => .error .notObject
  | .error f =>
    match f with
    | .longInteger digits => .error (.longInteger digits)
    | .tooDeep => .error .tooDeep
    | _ => .error (.malformed ((f.message? s).getD []))

/-- The document that the bytes of a file denote. -/
def ofBytes (bytes : Bytes) : Except ReadFault Document := do
  let s ← (Utf8.decode bytes).mapError .undecodable
  ofChars (Line.unify s)

/-- The document of a file. -/
def read (fs : FileSystem) (path : Path) : Except Failure Document := do
  let text := path.toText
  if ← (fs.present text).mapError .unexpected then
    let bytes ← (fs.read text).mapError fun r => (ReadFault.refused r).failure text
    return withDefaults (← (ofBytes bytes).mapError (·.failure text))
  else return withDefaults []

end Document

end SourceLedger
