import SourceLedger.Value.Literal

/-!
# Failures

A failure is either reported, with one of the kinds of error that the program has for its own
work, or unexpected, when something was met that nobody had looked out for. Reported failures
carry a message; of unexpected ones a stage of a run later reports what kind they were.
-/

namespace SourceLedger

/-- The kinds of error that the program reports. `general` is the kind above all others. -/
inductive ErrorKind
  | general
  | patternResolution
  | fileSystem
  | parse
  | persistence
  | config
  | pipeline
  deriving DecidableEq, Repr

namespace ErrorKind

def name : ErrorKind → Text
  | general => "SyndoxError"
  | patternResolution => "PatternResolutionError"
  | fileSystem => "FileSystemError"
  | parse => "ParseError"
  | persistence => "PersistenceError"
  | config => "ConfigError"
  | pipeline => "PipelineError"

def all : List ErrorKind :=
  [general, patternResolution, fileSystem, parse, persistence, config, pipeline]

end ErrorKind

/-- What was met unexpectedly. -/
inductive Unexpected
  /-- A value of a kind that the operation does not apply to. -/
  | wrongType
  /-- A member was asked of a value that has none of that name. -/
  | noMember
  /-- Values nested more deeply than they can be followed. -/
  | tooDeep
  | missingKey (key : Text)
  | outOfRange (detail : Text)
  | badValue (detail : Text)
  /-- Bytes that are not UTF-8. -/
  | undecodable
  /-- A text with a surrogate where it had to be encoded: the text, the place after the run of
  surrogates included. -/
  | unencodable (text : Text) (first stop : Nat)
  /-- An error that a stage raised of its own accord, with its arguments. -/
  | raised (kind : Text) (arguments : List Value)
  deriving Inhabited

namespace Unexpected

/-- The name of the kind of error. -/
def kindName : Unexpected → Text
  | wrongType => "TypeError"
  | noMember => "AttributeError"
  | tooDeep => "RecursionError"
  | missingKey _ => "KeyError"
  | outOfRange _ => "OverflowError"
  | badValue _ => "ValueError"
  | undecodable => "UnicodeDecodeError"
  | unencodable .. => "UnicodeEncodeError"
  | raised kind _ => kind

/-- The errors that are described by their kind alone. -/
def isBare (u : Unexpected) : Bool :=
  [("TypeError" : Text), "AttributeError", "RecursionError", "MemoryError"].contains u.kindName

/-- The error in the notation of a call with its arguments. -/
def describe (u : Unexpected) : Text :=
  if u.isBare then u.kindName
  else
    u.kindName ++
      match u with
      | missingKey key => Value.argumentList [.text key]
      | outOfRange detail => Value.argumentList [.text detail]
      | badValue detail => Value.argumentList [.text detail]
      | unencodable text first stop =>
        Value.argumentList
          [.text "utf-8", .text text, .int first, .int stop, .text "surrogates not allowed"]
      | raised _ arguments => Value.argumentList arguments
      | _ => "()"

end Unexpected

inductive Failure
  | reported (kind : ErrorKind) (message : Text)
  | unexpected (what : Unexpected)
  deriving Inhabited

namespace Failure

def kindName : Failure → Text
  | reported kind _ => kind.name
  | unexpected what => what.kindName

end Failure

end SourceLedger
