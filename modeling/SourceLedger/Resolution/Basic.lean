import SourceLedger.Glob.Expansion
import SourceLedger.Store.Document

/-!
# Resolving patterns

Each pattern is expanded to its matches in code-point order. The matches of all patterns are
put one after another, and of equal ones the first is kept.
-/

namespace SourceLedger.Resolution

variable {α : Type u}

/-- The items in order, each without the later ones that are equal to it. -/
def dedupe (equal : α → α → Bool) (items : List α) : List α :=
  items.foldl (fun kept a => if kept.any (equal · a) then kept else kept ++ [a]) []

/-- The matches of one pattern, in order. -/
def expand (fs : FileSystem) (root pattern : Text) : Except Failure (List Text) :=
  if pattern.isEmpty then .error (.reported .patternResolution "Empty glob pattern")
  else
    match Glob.expand fs root pattern with
    | .ok found => .ok (Text.sort found)
    | .error r =>
      .error <| .reported .patternResolution <|
        "Cannot expand '" ++ pattern ++ "': " ++ r.message pattern

/-- The paths that some patterns match. All patterns are expanded at once; one that matches
nothing is worth a warning. -/
def resolve (root : Text) (patterns : List Text) : Job (List Text) := do
  let fs := (← get).files
  let groups ← Job.gather (patterns.map (expand fs root))
  (patterns.zip groups).forM fun (pattern, found) =>
    if found.isEmpty then Job.say .warning ("no matches for " ++ pattern) else pure ()
  return dedupe (· == ·) groups.flatten

end SourceLedger.Resolution
