import SourceLedger.Text.Basic

/-!
# Levels of messages

Messages have a level, and those below the level that is set are dropped. The name of a level
may be given in letters of either case.
-/

namespace SourceLedger

inductive Level
  | debug
  | info
  | warning
  | error
  deriving DecidableEq, Repr

namespace Level

def name : Level → Text
  | debug => "DEBUG"
  | info => "INFO"
  | warning => "WARNING"
  | error => "ERROR"

def rank : Level → Nat
  | debug => 10
  | info => 20
  | warning => 30
  | error => 40

/-- The thresholds that can be set by name. -/
def thresholds : List (Text × Nat) :=
  [("CRITICAL", 50), ("FATAL", 50), ("ERROR", 40), ("WARNING", 30), ("WARN", 30), ("INFO", 20),
    ("DEBUG", 10), ("NOTSET", 0)]

/-- Why a text does not name a threshold. -/
inductive ThresholdFault
  | unknown
  /-- The name belongs to something else than a threshold. -/
  | notThreshold
  deriving DecidableEq, Repr

/-- The letters that a name of a threshold may be spelled with; besides the ASCII ones, the
dotless i and the long s are small forms of `I` and `S`. -/
private def upper (t : Text) : Text :=
  t.map fun
    | .scalar 'ı' => .scalar 'I'
    | .scalar 'ſ' => .scalar 'S'
    | .scalar c => .scalar c.toUpper
    | c => c

/-- The threshold of a name. -/
def threshold (name : Text) : Except ThresholdFault Nat :=
  let name := upper name
  match thresholds.find? fun (n, _) => n == name with
  | some (_, rank) => .ok rank
  | none => if name = "BASIC_FORMAT" then .error .notThreshold else .error .unknown

end Level

/-- A message of the program, as it goes to the log. -/
structure Message where
  level : Level
  text : Text
  deriving DecidableEq

end SourceLedger
