import SourceLedger.Run.Basic

/-!
# Stages of other kinds

Stages beside the default ones: stages that pass their context on, end the run, fail, or set a
part of their context or of the document.
-/

namespace SourceLedger

namespace Failure

/-- The names under which errors of the system can be raised. -/
private def systemNames : List Text := ["OSError", "IOError", "EnvironmentError"]

/-- An error of the system is of the kind that its number stands for, and a file name is not
shown with it. -/
private def raisedBySystem (arguments : List Value) : Unexpected :=
  match arguments with
  | number :: text :: _ =>
    if arguments.length ≤ 5 then
      let kind :=
        match number with
        | .int n => SystemError.kindOfNumber n
        | _ => "OSError"
      .raised kind [number, text]
    else .raised "OSError" arguments
  | _ => .raised "OSError" arguments

/-- What an error says of itself: its only argument, or all of them. -/
private def messageOf (arguments : List Value) : Text :=
  match arguments with
  | [] => []
  | [v] => v.display
  | _ => Value.tupleLiteral arguments

/-- The failure that raising an error of a given kind is. -/
def ofRaised (kindName : Text) (arguments : List Value) : Failure :=
  match ErrorKind.all.find? fun kind => kind.name == kindName with
  | some kind => .reported kind (messageOf arguments)
  | none =>
    if systemNames.contains kindName then .unexpected (raisedBySystem arguments)
    else .unexpected (.raised kindName arguments)

end Failure

namespace Run.Stage

def keeping (name : Text) : Stage where
  name := name
  run h := return some h

def ending (name : Text) : Stage where
  name := name
  run _ := return none

def failing (name : Text) (f : Failure) : Stage where
  name := name
  run _ := throw f

def settingPatterns (name : Text) (patterns : List Text) : Stage where
  name := name
  run h := do
    changeContext h fun c => { c with patterns }
    return some h

def settingPaths (name : Text) (paths : List Text) : Stage where
  name := name
  run h := do
    changeContext h fun c => { c with paths }
    return some h

/-- Replaces the configuration in the document in memory. -/
def settingConfiguration (name : Text) (v : Value) : Stage where
  name := name
  run h := do
    work (Store.putNamespace Document.configName v)
    return some h

/-- Goes on with a new context for other patterns. -/
def replacing (name : Text) (patterns : List Text) : Stage where
  name := name
  run h := do
    return some (← newContext h patterns)

end Run.Stage

end SourceLedger
