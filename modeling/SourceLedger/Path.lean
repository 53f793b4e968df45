import SourceLedger.Text.Basic

/-!
# Paths

A path is its root and the segments below it. Empty segments and `.` mean nothing and are not
kept; `..` is kept, since with symbolic links around it is not the inverse of a step down.
`collapse` takes `..` for that inverse all the same, which settles a path by its text alone.
-/

namespace SourceLedger

/-- What a path starts from. Exactly two leading slashes are a root of their own. -/
inductive Root
  | relative
  | single
  | double
  deriving DecidableEq, Repr

structure Path where
  root : Root
  segments : List Text
  deriving DecidableEq

namespace Path

def slash : CodePoint := .scalar '/'

def dot : Text := [.scalar '.']

def dotDot : Text := [.scalar '.', .scalar '.']

def rootOf : Text → Root
  | .scalar '/' :: .scalar '/' :: .scalar '/' :: _ => .single
  | .scalar '/' :: .scalar '/' :: _ => .double
  | .scalar '/' :: _ => .single
  | _ => .relative

def ofText (t : Text) : Path where
  root := rootOf t
  segments := (Text.splitOn slash t).filter fun s => !s.isEmpty && s != dot

def rootText : Root → Text
  | .relative => []
  | .single => "/"
  | .double => "//"

/-- The path that leads nowhere is written `.`. -/
def toText (p : Path) : Text :=
  match rootText p.root ++ Text.join "/" p.segments with
  | [] => dot
  | t => t

def isAbsolute (p : Path) : Bool := p.root != .relative

/-- The place that `q` names when it is followed from `p`. -/
def join (p q : Path) : Path :=
  if q.isAbsolute then q else { p with segments := p.segments ++ q.segments }

/-- One step down. -/
def child (p : Path) (segment : Text) : Path := { p with segments := p.segments ++ [segment] }

/-- The path without its last segment. -/
def parent (p : Path) : Path := { p with segments := p.segments.dropLast }

/-- The last segment, empty if there is none. -/
def name (p : Path) : Text := p.segments.getLastD []

/-- The path and all paths above it, from the nearest to the root. -/
def selfAndParents (p : Path) : List Path :=
  (List.range (p.segments.length + 1)).map fun steps =>
    { p with segments := p.segments.take (p.segments.length - steps) }

/-- Adds a segment to reversed segments. A `..` takes away the segment before it; at a root it
means nothing, and where there is nothing to take away it stays. -/
def pushSegment (root : Root) (before : List Text) (segment : Text) : List Text :=
  if segment = dotDot then
    match before with
    | [] => if root = .relative then [dotDot] else []
    | last :: rest => if last = dotDot then dotDot :: before else rest
  else segment :: before

/-- The path with each `..` and the segment before it taken away. -/
def collapse (p : Path) : Path :=
  { p with segments := (p.segments.foldl (pushSegment p.root) []).reverse }

/-- The path that a text names from a working directory, by their texts alone. -/
def resolve (workingDirectory path : Text) : Text :=
  ((ofText workingDirectory).join (ofText path)).collapse.toText

end Path

end SourceLedger
