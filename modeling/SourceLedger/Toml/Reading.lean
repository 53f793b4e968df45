import SourceLedger.Toml.Nest
import SourceLedger.Toml.Quotation
import SourceLedger.Toml.Scalar

/-!
# TOML documents

A document is a sequence of statements, one a line: entries and the headers of tables and of
lists of tables.
-/

namespace SourceLedger.Toml

def isBareKeyChar (c : Char) : Bool := c.isAlphanum || c = '-' || c = '_'

def startsKey (c : Char) : Bool := isBareKeyChar c || c = '"' || c = '\''

def keyPart : Reader Text := fun s =>
  match s with
  | '\'' :: _ => literalText s
  | '"' :: _ => basicText s
  | _ =>
    let part := s.takeWhile isBareKeyChar
    if part.isEmpty then failAt .keyStart s else .ok (Text.ofChars part, s.drop part.length)

/-- A dotted key, with the blanks behind it. -/
def key (s : List Char) : Except Fault (Key × List Char) :=
  match keyPart s with
  | .error f => .error f
  | .ok (part, rest) =>
    match skipBlanks rest with
    | '.' :: after =>
      let next := skipBlanks after
      if _h : next.length < s.length then
        (key next).map fun (parts, rest) => (part :: parts, rest)
      else failAt .keyStart next
    | rest => .ok ([part], rest)
  termination_by s.length

/-- A key, an equals sign and a value. -/
def pair (value : Reader Value) : Reader (Key × Value) := fun s => do
  let (k, rest) ← key s
  match rest with
  | '=' :: rest =>
    let (v, rest) ← value (skipBlanks rest)
    return ((k, v), rest)
  | _ => failAt .equalsSign rest

/-- The items of an array up to and with its closing bracket; a comma may stand behind the
last one. -/
def arrayItems (value : Reader Value) (s : List Char) :
    Except Fault (List Value × List Char) :=
  match value s with
  | .error f => .error f
  | .ok (v, rest) =>
    match skipLines rest with
    | .error f => .error f
    | .ok (']' :: after) => .ok ([v], after)
    | .ok (',' :: after) =>
      match skipLines after with
      | .error f => .error f
      | .ok (']' :: after) => .ok ([v], after)
      | .ok next =>
        if _h : next.length < s.length then
          (arrayItems value next).map fun (vs, rest) => (v :: vs, rest)
        else failAt .value next
    | .ok rest => failAt .unclosedArray rest
  termination_by s.length

/-- An array behind its opening bracket. -/
def array (value : Reader Value) : Reader Value := fun s => do
  match ← skipLines s with
  | ']' :: rest => return (.list [], rest)
  | s =>
    let (vs, rest) ← arrayItems value s
    return (.list vs, rest)

def isContainer : Value → Bool
  | .list _ | .table _ => true
  | _ => false

/-- Puts an entry of an inline table under its dotted key. -/
def addInline (declared : Declarations) (t : Value.Table) (k : Key) (v : Value) :
    Except Complaint Value.Table :=
  if declared.isFrozen k then .error (.immutable k)
  else
    let part := k.getLastD []
    changeNest false (addEntry part v (.duplicate part)) k.dropLast t

/-- The entries of an inline table up to and with its closing brace. -/
def inlineEntries (value : Reader Value) (declared : Declarations) (t : Value.Table)
    (s : List Char) : Except Fault (Value.Table × List Char) :=
  match pair value s with
  | .error f => .error f
  | .ok ((k, v), rest) =>
    match addInline declared t k v with
    | .error complaint => failAt complaint rest
    | .ok t =>
      match skipBlanks rest with
      | '\x7d' :: after => .ok (t, after)
      | ',' :: after =>
        let next := skipBlanks after
        let declared := if isContainer v then declared.freeze k else declared
        if _h : next.length < s.length then inlineEntries value declared t next
        else failAt .keyStart next
      | rest => failAt .unclosedTable rest
  termination_by s.length

/-- An inline table behind its opening brace. -/
def inlineTable (value : Reader Value) : Reader Value := fun s =>
  match skipBlanks s with
  | '\x7d' :: rest => .ok (.table [], rest)
  | s => (inlineEntries value .none [] s).map fun (t, rest) => (.table t, rest)

def constants : List (List Char × Value) :=
  [(['t', 'r', 'u', 'e'], .bool true), (['f', 'a', 'l', 's', 'e'], .bool false)]

def quotation? (s : List Char) : Option (Except Fault (Text × List Char)) :=
  match s with
  | '"' :: '"' :: '"' :: _ => some (longBasicText s)
  | '"' :: _ => some (basicText s)
  | '\'' :: '\'' :: '\'' :: _ => some (longLiteralText s)
  | '\'' :: _ => some (literalText s)
  | _ => none

def constant? (s : List Char) : Option (Except Fault Value × List Char) :=
  (constants.find? fun (name, _) => name.isPrefixOf s).map fun (name, v) =>
    (.ok v, s.drop name.length)

/-- A value that has no parts. -/
def atom : Reader Value := fun s =>
  match quotation? s with
  | some found => found.map fun (t, rest) => (.text t, rest)
  | none =>
    match (constant? s <|> moment? s) <|> number? s with
    | some (v, rest) => v.map fun v => (v, rest)
    | none => failAt .value s

/-- A value, for which so much of the depth of nesting is left. An array takes two steps of it
and an inline table three. -/
def value (depth : Nat) : Reader Value := fun s =>
  match depth, s with
  | n + 2, '[' :: rest => array (value n) rest
  | _, '[' :: _ => .error .tooDeep
  | n + 3, '\x7b' :: rest => inlineTable (value n) rest
  | _, '\x7b' :: _ => .error .tooDeep
  | _, s => atom s

/-- The steps of nesting that are followed. -/
def maxDepth : Nat := 970

/-- A document as far as it has been read. -/
structure Draft where
  data : Value.Table
  declared : Declarations
  /-- The table that entries go to. -/
  header : Key

namespace Draft

def start : Draft := ⟨[], .none, []⟩

def change (d : Draft) (throughLists : Bool) (k : Key)
    (f : Value.Table → Except Complaint Value.Table) : Except Complaint Draft :=
  (changeNest throughLists f k d.data).map fun data => { d with data }

/-- The tables that a dotted key passes through must be open to dotted keys; they cannot be
declared by later headers. -/
def passThrough (d : Draft) : List Key → Except Complaint Draft
  | [] => .ok d
  | k :: ks =>
    if d.declared.isExplicit k then .error (.redefined k)
    else passThrough { d with declared := d.declared.awaitHeader k } ks

/-- Adds an entry below the current header. -/
def addPair (d : Draft) (k : Key) (v : Value) : Except Complaint Draft := do
  let whole := d.header ++ k
  let nest := whole.dropLast
  let passed := (List.range (k.length - 1)).map fun i => d.header ++ k.take (i + 1)
  let d ← d.passThrough passed
  if d.declared.isFrozen nest then throw (.immutable nest)
  let d ← d.change true nest (addEntry (k.getLastD []) v .overwritten)
  return if isContainer v then { d with declared := d.declared.freeze whole } else d

/-- Opens a table by its header. -/
def openTable (d : Draft) (k : Key) : Except Complaint Draft := do
  if d.declared.isExplicit k || d.declared.isFrozen k then throw (.declaredTwice k)
  ({ d with declared := d.declared.declare k, header := k }).change true k .ok

/-- Opens a new table at the end of a list of tables. -/
def openListTable (d : Draft) (k : Key) : Except Complaint Draft := do
  if d.declared.isFrozen k then throw (.immutable k)
  ({ d with declared := (d.declared.forget k).declare k, header := k }).change true k.dropLast
    (addToList (k.getLastD []))

end Draft

def complainAt {α : Type} (r : Except Complaint α) (rest : List Char) : Except Fault α :=
  match r with
  | .ok a => .ok a
  | .error complaint => failAt complaint rest

def headerStatement (d : Draft) (s : List Char) (isList : Bool) :
    Except Fault (Draft × List Char) := do
  let (k, rest) ← key (skipBlanks s)
  let d := { d with declared := d.declared.settlePending }
  if isList then
    let d ← complainAt (d.openListTable k) rest
    match rest with
    | ']' :: ']' :: rest => return (d, rest)
    | _ => failAt .arrayTableEnd rest
  else
    let d ← complainAt (d.openTable k) rest
    match rest with
    | ']' :: rest => return (d, rest)
    | _ => failAt .tableEnd rest

/-- One statement, which starts at once. -/
def statement (d : Draft) (s : List Char) : Except Fault (Draft × List Char) :=
  match s with
  | '[' :: '[' :: rest => headerStatement d rest true
  | '[' :: rest => headerStatement d rest false
  | '#' :: _ => .ok (d, s)
  | c :: _ =>
    if startsKey c then do
      let ((k, v), rest) ← pair (value maxDepth) s
      return (← complainAt (d.addPair k v) rest, rest)
    else failAt .statement s
  | [] => .ok (d, [])

def statements (d : Draft) (s : List Char) : Except Fault Value.Table :=
  match skipBlanks s with
  | [] => .ok d.data
  | '\n' :: rest => if _h : rest.length < s.length then statements d rest else .ok d.data
  | start =>
    match statement d start with
    | .error f => .error f
    | .ok (d, rest) =>
      match skipComment (skipBlanks rest) with
      | .error f => .error f
      | .ok [] => .ok d.data
      | .ok ('\n' :: rest) =>
        if _h : rest.length < s.length then statements d rest else .ok d.data
      | .ok rest => failAt .lineEnd rest
  termination_by s.length

/-- A carriage return before a line break belongs to it. -/
def joinBreaks : List Char → List Char
  | '\r' :: '\n' :: rest => '\n' :: joinBreaks rest
  | c :: rest => c :: joinBreaks rest
  | [] => []

/-- The table that a whole text denotes; the text has its line breaks joined. -/
def read (s : List Char) : Except Fault Value.Table := statements .start s

end SourceLedger.Toml
