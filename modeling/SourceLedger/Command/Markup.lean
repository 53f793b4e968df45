import SourceLedger.Text.Basic

/-!
# Markup

Lines on the console are written in a markup: `[style]` opens a style, `[/style]` closes the
latest one of that name, and `[/]` closes the latest one of all. A backslash before a tag takes
its meaning away. Since output has no colours, only the text between the tags is left; but a tag
that closes nothing is an error.
-/

namespace SourceLedger.Markup

inductive Piece
  | plain (t : Text)
  /-- What stands between the brackets, up to an equals sign. -/
  | tag (name : Text)
  deriving DecidableEq

def openBracket : CodePoint := .scalar '['

def closeBracket : CodePoint := .scalar ']'

def backslash : CodePoint := .scalar '\\'

/-- The characters that a tag can start with. -/
def startsTag (c : CodePoint) : Bool :=
  match c with
  | .scalar c => c.isLower || c = '#' || c = '/' || c = '@'
  | _ => false

/-- What stands in a tag, read from behind its opening bracket, and what follows it. -/
def tagBody? (s : Text) : Option (Text × Text) :=
  match s with
  | [] => none
  | c :: rest =>
    if startsTag c then
      let tail := rest.takeWhile fun d => d ≠ closeBracket && d ≠ openBracket
      match rest.drop tail.length with
      | d :: after => if d = closeBracket then some (c :: tail, after) else none
      | [] => none
    else none

/-- A tag with the backslashes before it: their number, its body, and what follows. -/
def tag? (s : Text) : Option (Nat × Text × Text) := do
  let escapes := (s.takeWhile (· = backslash)).length
  match s.drop escapes with
  | c :: rest =>
    if c = openBracket then
      let (body, after) ← tagBody? rest
      some (escapes, body, after)
    else none
  | [] => none

def addPlain (c : CodePoint) : List Piece → List Piece
  | .plain t :: rest => .plain (c :: t) :: rest
  | pieces => .plain [c] :: pieces

/-- The pieces of a tag. Two backslashes before it stand for one, and an odd one makes the tag
plain. -/
def tagPieces (escapes : Nat) (body : Text) : List Piece :=
  (if escapes < 2 then [] else [.plain (List.replicate (escapes / 2) backslash)]) ++
    [if escapes % 2 = 1 then .plain (openBracket :: body ++ [closeBracket])
      else .tag (body.takeWhile (· ≠ .scalar '='))]

def pieces (s : Text) : List Piece :=
  match s with
  | [] => []
  | c :: rest =>
    match tag? (c :: rest) with
    | some (escapes, body, after) =>
      if _h : after.length < (c :: rest).length then tagPieces escapes body ++ pieces after
      else addPlain c (pieces rest)
    | none => addPlain c (pieces rest)
  termination_by s.length
  decreasing_by
  · assumption
  · simp
  · simp

/-- The attributes of a style, in the order in which a style names them, with short names. -/
def attributes : List (Text × Text) :=
  [("bold", "b"), ("dim", "d"), ("italic", "i"), ("underline", "u"), ("blink", "blink"),
    ("blink2", "blink2"), ("reverse", "r"), ("conceal", "c"), ("strike", "s"),
    ("underline2", "uu"), ("frame", "frame"), ("encircle", "encircle"), ("overline", "o")]

def isBlank (c : CodePoint) : Bool := c = .scalar ' ' || (9 ≤ c.toNat && c.toNat ≤ 13)

def trim (t : Text) : Text :=
  ((t.dropWhile isBlank).reverse.dropWhile isBlank).reverse

def lower (t : Text) : Text :=
  t.map fun
    | .scalar c => .scalar c.toLower
    | c => c

/-- The name by which a style is matched: its attributes in order, if it has nothing else. -/
def styleName (t : Text) : Text :=
  let name := lower (trim t)
  let words := (Text.splitOn (.scalar ' ') name).filter (!·.isEmpty)
  let isAttribute (w : Text) := attributes.any fun (long, short) => w == long || w == short
  if words.all isAttribute then
    Text.join " " <|
      (attributes.filter fun (long, short) => words.contains long || words.contains short).map
        Prod.fst
  else name

/-- Closes the latest style of a name; the latest one of all if the name is empty. -/
def close (name : Text) (opened : List Text) : Option (List Text) :=
  match trim name, opened with
  | [], [] => none
  | [], _ :: rest => some rest
  | name, opened =>
    let style := styleName name
    if opened.contains style then some (opened.erase style) else none

/-- Control characters that are not written. -/
def isDropped (c : CodePoint) : Bool :=
  let n := c.toNat
  n = 7 || n = 8 || n = 11 || n = 12 || n = 13

/-- A backslash before a bracket that is no part of a tag is not written. -/
def plainText : Text → Text
  | c :: d :: rest =>
    if c = backslash ∧ d = openBracket then d :: plainText rest
    else c :: plainText (d :: rest)
  | t => t

def renderFrom (opened : List Text) : List Piece → Option Text
  | [] => some []
  | .plain t :: rest =>
    (renderFrom opened rest).map (((plainText t).filter (!isDropped ·)) ++ ·)
  | .tag (.scalar '/' :: name) :: rest =>
    (close name opened).bind fun opened => renderFrom opened rest
  | .tag name :: rest => renderFrom (styleName name :: opened) rest

/-- The text that is left of a marked-up one, unless a tag closes nothing. -/
def render (s : Text) : Option Text := renderFrom [] (pieces s)

end SourceLedger.Markup
