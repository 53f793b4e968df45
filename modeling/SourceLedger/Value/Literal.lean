import SourceLedger.Text.Quoted
import SourceLedger.Value.Basic

/-!
# Literal notation of values

The notation in which messages quote a value: texts between quotes, lists in brackets, tables
in braces, and the constants `None`, `True` and `False`.
-/

namespace SourceLedger.Value

private def commaSeparated (pieces : List Text) : Text := Text.join ", " pieces

private def momentLiteral (m : Moment) : Text :=
  "datetime." ++ m.kindName ++ "(" ++ Quoted.text m.toText ++ ")"

mutual

def literal : Value → Text
  | .null => "None"
  | .bool true => "True"
  | .bool false => "False"
  | .int n => Text.ofInt n
  | .real x => x.toText
  | .text t => Quoted.text t
  | .moment m => momentLiteral m
  | .list items => "[" ++ commaSeparated (literals items) ++ "]"
  | .table entries => "\x7b" ++ commaSeparated (entryLiterals entries) ++ "\x7d"

def literals : List Value → List Text
  | [] => []
  | x :: xs => literal x :: literals xs

def entryLiterals : List (Text × Value) → List Text
  | [] => []
  | (k, x) :: xs => (Quoted.text k ++ ": " ++ literal x) :: entryLiterals xs

end

/-- The value as part of a message: a text stands for itself. -/
def display : Value → Text
  | .text t => t
  | x => literal x

/-- The arguments of a call in literal notation: `('a', 1)`, and `('a',)` for a single one. -/
def tupleLiteral (items : List Value) : Text :=
  match items with
  | [x] => "(" ++ literal x ++ ",)"
  | _ => "(" ++ commaSeparated (literals items) ++ ")"

/-- The arguments of a call without the comma that marks a tuple of one. -/
def argumentList (items : List Value) : Text :=
  "(" ++ commaSeparated (literals items) ++ ")"

end SourceLedger.Value
