import SourceLedger.FileSystem.Walk

/-!
# Real paths

The real path of a path has every symbolic link on it replaced by its target. Names that lead
nowhere are kept. A link that leads back to itself cannot be replaced.
-/

namespace SourceLedger.FileSystem

/-- What is known of the links that have been met: the places they stand for, or `none` while
that is being found out. -/
abbrev Links := List (Location × Option Location)

/-- The end of the way, and whether it was reached without a loop. In a loop the names that are
left are kept as they are. -/
structure Arrival where
  place : Location
  isReached : Bool
  links : Links

def stepFrom (place : Location) (name : Text) : Location :=
  if name = Path.dotDot then place.dropLast else place ++ [name]

/-- Replaces links on the way along names from a place. Where the target of a link that was not
met before leads is left to `follow`. -/
def replaceLinks (fs : FileSystem) (follow : Links → Location → List Text → Arrival)
    (links : Links) (place : Location) : List Text → Arrival
  | [] => ⟨place, true, links⟩
  | name :: rest =>
    if name = Path.dot then replaceLinks fs follow links place rest
    else if name = Path.dotDot then replaceLinks fs follow links place.dropLast rest
    else
      let next := place ++ [name]
      match fs.node? next with
      | some (.link target) =>
        match links.find? fun (p, _) => p == next with
        | some (_, some known) => replaceLinks fs follow links known rest
        | some (_, none) => ⟨rest.foldl stepFrom next, false, links⟩
        | none =>
          let route := Route.ofText target
          let start := if route.isAbsolute then [] else place
          let a := follow ((next, none) :: links) start route.names
          if a.isReached then
            replaceLinks fs follow ((next, some a.place) :: a.links) a.place rest
          else ⟨rest.foldl stepFrom a.place, false, a.links⟩
      | _ => replaceLinks fs follow links next rest

/-- The end of the way along names from a place. A link within the target of a link takes one of
the `nesting` levels. -/
def arrive (fs : FileSystem) : Nat → Links → Location → List Text → Arrival
  | 0 => fun links place names => ⟨names.foldl stepFrom place, false, links⟩
  | nesting + 1 => fs.replaceLinks (fs.arrive nesting)

/-- The real path of a path. -/
def realPath (fs : FileSystem) (path : Path) : Except Unexpected Path := do
  match Route.check path.toText with
  | .error .nullInPath => throw (Refusal.nullInPath).unexpected
  | .error r@(.unencodable ..) => throw r.unexpected
  | _ => pure ()
  let start := if path.isAbsolute then [] else fs.current
  let arrival := fs.arrive (fs.nodes.length + 1) [] start path.segments
  let real : Path := ⟨.single, arrival.place.filter fun s => s ≠ Path.dot⟩
  match fs.find true real.toText with
  | .error (.system .tooManyLinks) =>
    throw (.raised "RuntimeError" [.text ("Symlink loop from " ++ Quoted.text real.toText)])
  | _ => return real

end SourceLedger.FileSystem
