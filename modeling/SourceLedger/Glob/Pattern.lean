import SourceLedger.Text.Basic

/-!
# Name patterns

A pattern for a single name: `*` stands for any run of characters, `?` for any one, and a set
in brackets for one of its members, or with `!` for one of the others. A bracket that is not
closed stands for itself.
-/

namespace SourceLedger.Glob

inductive Item
  | literal (c : CodePoint)
  | anyRun
  | anyOne
  /-- A character within one of the ranges, or with `negated` outside all of them. -/
  | oneOf (negated : Bool) (ranges : List (Nat × Nat))
  deriving DecidableEq

abbrev Pattern := List Item

namespace CharSet

/-- A part of a set: a member, or a dash that makes its neighbours a range. -/
private inductive Part
  | member (c : CodePoint)
  | dash

/-- Splits a set at the dashes that make ranges. A dash among the first `skip` characters is a
member, and so is one that comes less than two characters behind the last one that counted. -/
private def chunks (skip : Nat) (s : Text) : List Text :=
  match (s.drop skip).findIdx? (· = .scalar '-') with
  | none => [s]
  | some i =>
    let before := s.take (skip + i)
    let after := s.drop (skip + i + 1)
    if _h : after.length < s.length then
      match after with
      | [] => [before ++ [.scalar '-']]
      | _ => before :: chunks 2 after
    else [before]
  termination_by s.length
  decreasing_by assumption

private def isAbove (c d : Option CodePoint) : Bool :=
  match c, d with
  | some c, some d => d.toNat < c.toNat
  | _, _ => false

/-- Drops the ranges that go downward. -/
private def dropEmptyRanges : List Text → List Text
  | [] => []
  | c :: cs =>
    match dropEmptyRanges cs with
    | [] => [c]
    | d :: ds =>
      if isAbove c.getLast? d.head? then (c.dropLast ++ d.drop 1) :: ds else c :: d :: ds

private def parts : List Text → List Part
  | [] => []
  | [c] => c.map .member
  | c :: cs => c.map .member ++ .dash :: parts cs

private def single (c : CodePoint) : Nat × Nat := (c.toNat, c.toNat)

private def rangesOf : List Part → List (Nat × Nat)
  | [] => []
  | .member low :: .dash :: .member high :: rest => (low.toNat, high.toNat) :: rangesOf rest
  | .member c :: rest => single c :: rangesOf rest
  | .dash :: rest => single (.scalar '-') :: rangesOf rest

/-- The item for what stands between brackets. -/
def item (content : Text) : Item :=
  let negated := content.head? = some (.scalar '!')
  match parts (dropEmptyRanges (chunks (if negated then 2 else 1) content)) with
  | [] => .oneOf false []
  | [.member (.scalar '!')] => .anyOne
  | .member (.scalar '!') :: rest => .oneOf true (rangesOf rest)
  | all => .oneOf false (rangesOf all)

/-- The length of a set behind its opening bracket, up to its closing one. A closing bracket
that comes first is a member. -/
def length? (s : Text) : Option Nat :=
  let mark := if s.head? = some (.scalar '!') then 1 else 0
  let first := if s[mark]? = some (.scalar ']') then 1 else 0
  ((s.drop (mark + first)).findIdx? (· = .scalar ']')).map (mark + first + ·)

end CharSet

namespace Pattern

def ofText (s : Text) : Pattern :=
  match s with
  | [] => []
  | c :: rest =>
    if c = .scalar '*' then .anyRun :: ofText rest
    else if c = .scalar '?' then .anyOne :: ofText rest
    else if c = .scalar '[' then
      match CharSet.length? rest with
      | some n => CharSet.item (rest.take n) :: ofText (rest.drop (n + 1))
      | none => .literal c :: ofText rest
    else .literal c :: ofText rest
  termination_by s.length
  decreasing_by all_goals simp only [List.length_cons, List.length_drop]; omega

/-- Whether an item that stands for one character stands for the given one. -/
def fits (i : Item) (c : CodePoint) : Bool :=
  match i with
  | .literal d => c == d
  | .anyRun => false
  | .anyOne => true
  | .oneOf negated ranges =>
    negated != ranges.any fun (low, high) => low ≤ c.toNat && c.toNat ≤ high

/-- The text and every end of it, the longest first. -/
private def ends : Text → List Text
  | [] => [[]]
  | c :: rest => (c :: rest) :: ends rest

/-- What can be left of a name behind an item, for each of the things that can be left before
it, the longest first. -/
private def advance (i : Item) (rests : List Text) : List Text :=
  match i with
  | .anyRun =>
    match rests with
    | [] => []
    | longest :: _ => ends longest
  | i =>
    rests.filterMap fun
      | [] => none
      | c :: rest => if fits i c then some rest else none

/-- Whether a name fits a pattern. -/
def isMatch (p : Pattern) (name : Text) : Bool :=
  (p.foldl (fun rests i => advance i rests) [name]).contains []

end Pattern

/-- Whether a text says more than its own characters. -/
def isMagic (s : Text) : Bool :=
  s.any fun c => c = .scalar '*' || c = .scalar '?' || c = .scalar '['

end SourceLedger.Glob
