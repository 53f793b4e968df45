import SourceLedger.Failure
import SourceLedger.Text.Integer
import SourceLedger.Value.Lookup

/-!
# Parse options

The options of the source parser, as they are read from a configuration: the version of the
language, and whether type comments are read and locations are kept. The version is written
`"3.8"` or `[3, 8]`; its parts are read as generously as numbers in a text are.
-/

namespace SourceLedger

structure ParseOptions where
  /-- The minor version of the language, if one is asked for; the major one is always 3. -/
  minorVersion : Option Int
  typeComments : Bool
  locations : Bool
  deriving DecidableEq, Repr

namespace ParseOptions

def default : ParseOptions := ⟨none, false, false⟩

/-- Why a value does not give parse options. -/
inductive Fault
  | notTable
  | unknown (names : List Text)
  | versionShape
  | versionMajor
  | versionInfinite
  | notBoolean (name : Text)
  deriving DecidableEq

namespace Fault

private def quotedVersion : Text := "\"3.8\""

def failure : Fault → Failure
  | notTable => .reported .config "Config value 'parse.options' must be a table."
  | unknown names => .reported .config ("Unknown parse options: " ++ Text.join ", " names)
  | versionShape =>
    .reported .config <|
      "Config field 'parse.options.feature_version' must look like " ++ quotedVersion ++ "."
  | versionMajor =>
    .reported .config
      "Config field 'parse.options.feature_version' must be a 3.x version."
  | versionInfinite => .unexpected (.outOfRange "cannot convert float infinity to integer")
  | notBoolean name =>
    .reported .config ("Config field 'parse.options." ++ name ++ "' must be a boolean.")

end Fault

def versionKey : Text := "feature_version"

def typeCommentsKey : Text := "type_comments"

def locationsKey : Text := "locations"

def knownKeys : List Text := [versionKey, typeCommentsKey, locationsKey]

/-- A part of a version. A real number is cut to an integer. -/
def versionPart (v : Value) : Except Fault Int :=
  match v with
  | .int n => .ok n
  | .text t =>
    match Numeral.ofText? t with
    | some n => .ok n
    | none => .error .versionShape
  | .real x =>
    match x with
    | .infinite _ => .error .versionInfinite
    | _ =>
      match x.truncate? with
      | some n => .ok n
      | none => .error .versionShape
  | _ => .error .versionShape

private def isBool : Value → Bool
  | .bool _ => true
  | _ => false

/-- The two parts of a version. -/
def versionParts (v : Value) : Except Fault (Value × Value) :=
  let parts : List Value :=
    match v with
    | .text t => (Text.splitOn (.scalar '.') t).map .text
    | .list items => items
    | _ => []
  match parts with
  | [a, b] => if isBool a || isBool b then .error .versionShape else .ok (a, b)
  | _ => .error .versionShape

/-- The minor version that a value asks for. -/
def version (v : Value) : Except Fault (Option Int) :=
  match v with
  | .null => .ok none
  | v => do
    let (a, b) ← versionParts v
    let major ← versionPart a
    let minor ← versionPart b
    if major = 3 then .ok (some minor) else .error .versionMajor

def flag (entries : Value.Table) (key : Text) : Except Fault Bool :=
  match (Entries.get? entries key).getD (.bool false) with
  | .bool b => .ok b
  | _ => .error (.notBoolean key)

/-- The options that a value gives; `null` gives the default ones. -/
def ofValue (v : Value) : Except Fault ParseOptions :=
  match v with
  | .null => .ok default
  | .table entries =>
    let unknown := (Entries.keys entries).filter fun k => !knownKeys.contains k
    if !unknown.isEmpty then .error (.unknown (Text.sort unknown))
    else do
      let minorVersion ← version ((Entries.get? entries versionKey).getD .null)
      let typeComments ← flag entries typeCommentsKey
      let locations ← flag entries locationsKey
      return { minorVersion, typeComments, locations }
  | _ => .error .notTable

end ParseOptions

end SourceLedger
