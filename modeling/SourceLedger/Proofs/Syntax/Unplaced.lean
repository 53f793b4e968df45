import SourceLedger.Syntax.Outline

/-!
# Trees without places

A tree without its places has one and the same span at all of its nodes, and an outline without its
places has none. Two trees are the same up to places if they are the same without them.
-/

namespace SourceLedger.Syntax

mutual

/-- An expression with the same span at every depth. -/
def Expr.unplaced : Expr → Expr
  | .boolOp _ op values => .boolOp default op (unplacedExprs values)
  | .named _ target value => .named default target.unplaced value.unplaced
  | .binary _ left op right => .binary default left.unplaced op right.unplaced
  | .unary _ op operand => .unary default op operand.unplaced
  | .lambda _ parameters body => .lambda default parameters.unplaced body.unplaced
  | .conditional _ test body orElse =>
    .conditional default test.unplaced body.unplaced orElse.unplaced
  | .dict _ keys values => .dict default (unplacedOptionals keys) (unplacedExprs values)
  | .set _ items => .set default (unplacedExprs items)
  | .listComp _ item generators =>
    .listComp default item.unplaced (unplacedComprehensions generators)
  | .setComp _ item generators => .setComp default item.unplaced (unplacedComprehensions generators)
  | .dictComp _ key value generators =>
    .dictComp default key.unplaced value.unplaced (unplacedComprehensions generators)
  | .generator _ item generators =>
    .generator default item.unplaced (unplacedComprehensions generators)
  | .await _ value => .await default value.unplaced
  | .yield _ value => .yield default (unplacedOptional value)
  | .yieldFrom _ value => .yieldFrom default value.unplaced
  | .compare _ left ops rights => .compare default left.unplaced ops (unplacedExprs rights)
  | .call _ function arguments keywords =>
    .call default function.unplaced (unplacedExprs arguments) (unplacedKeywords keywords)
  | .formatted _ value conversion spec =>
    .formatted default value.unplaced conversion (unplacedOptional spec)
  | .joined _ parts => .joined default (unplacedExprs parts)
  | .constant _ value marked => .constant default value marked
  | .member _ value name use => .member default value.unplaced name use
  | .subscript _ value index use => .subscript default value.unplaced index.unplaced use
  | .starred _ value use => .starred default value.unplaced use
  | .name _ id use => .name default id use
  | .list _ items use => .list default (unplacedExprs items) use
  | .tuple _ items use => .tuple default (unplacedExprs items) use
  | .slice _ lower upper step =>
    .slice default (unplacedOptional lower) (unplacedOptional upper) (unplacedOptional step)

def unplacedExprs : List Expr → List Expr
  | [] => []
  | e :: rest => e.unplaced :: unplacedExprs rest

def unplacedOptional : Option Expr → Option Expr
  | none => none
  | some e => some e.unplaced

def unplacedOptionals : List (Option Expr) → List (Option Expr)
  | [] => []
  | e :: rest => unplacedOptional e :: unplacedOptionals rest

def Comprehension.unplaced : Comprehension → Comprehension
  | .mk target iterable conditions isAsync =>
    .mk target.unplaced iterable.unplaced (unplacedExprs conditions) isAsync

def unplacedComprehensions : List Comprehension → List Comprehension
  | [] => []
  | c :: rest => c.unplaced :: unplacedComprehensions rest

def Keyword.unplaced : Keyword → Keyword
  | .mk _ name value => .mk default name value.unplaced

def unplacedKeywords : List Keyword → List Keyword
  | [] => []
  | k :: rest => k.unplaced :: unplacedKeywords rest

def Parameter.unplaced : Parameter → Parameter
  | .mk _ name typeHint typeComment => .mk default name (unplacedOptional typeHint) typeComment

def unplacedParameters : List Parameter → List Parameter
  | [] => []
  | p :: rest => p.unplaced :: unplacedParameters rest

def unplacedOptionalParameter : Option Parameter → Option Parameter
  | none => none
  | some p => some p.unplaced

def Parameters.unplaced : Parameters → Parameters
  | .mk positionalOnly positional rest keywordOnly keywordDefaults keywordRest defaults =>
    .mk (unplacedParameters positionalOnly) (unplacedParameters positional)
      (unplacedOptionalParameter rest) (unplacedParameters keywordOnly)
      (unplacedOptionals keywordDefaults) (unplacedOptionalParameter keywordRest)
      (unplacedExprs defaults)

end

mutual

def Pattern.unplaced : Pattern → Pattern
  | .value _ value => .value default value.unplaced
  | .singleton _ value => .singleton default value
  | .sequence _ patterns => .sequence default (unplacedPatterns patterns)
  | .mapping _ keys patterns rest =>
    .mapping default (unplacedExprs keys) (unplacedPatterns patterns) rest
  | .ofClass _ cls patterns names namedPatterns =>
    .ofClass default cls.unplaced (unplacedPatterns patterns) names (unplacedPatterns namedPatterns)
  | .star _ name => .star default name
  | .capture _ pattern name => .capture default (unplacedOptionalPattern pattern) name
  | .or _ patterns => .or default (unplacedPatterns patterns)

def unplacedPatterns : List Pattern → List Pattern
  | [] => []
  | p :: rest => p.unplaced :: unplacedPatterns rest

def unplacedOptionalPattern : Option Pattern → Option Pattern
  | none => none
  | some p => some p.unplaced

end

def Alias.unplaced (a : Alias) : Alias := { a with span := default }

def WithItem.unplaced (w : WithItem) : WithItem :=
  ⟨w.context.unplaced, unplacedOptional w.target⟩

mutual

def Stmt.unplaced : Stmt → Stmt
  | .functionDef _ isAsync name parameters body decorators returns typeComment =>
    .functionDef default isAsync name parameters.unplaced (unplacedStmts body)
      (unplacedExprs decorators) (unplacedOptional returns) typeComment
  | .classDef _ name bases keywords body decorators =>
    .classDef default name (unplacedExprs bases) (unplacedKeywords keywords) (unplacedStmts body)
      (unplacedExprs decorators)
  | .returning _ value => .returning default (unplacedOptional value)
  | .delete _ targets => .delete default (unplacedExprs targets)
  | .assign _ targets value typeComment =>
    .assign default (unplacedExprs targets) value.unplaced typeComment
  | .augAssign _ target op value => .augAssign default target.unplaced op value.unplaced
  | .annAssign _ target typeHint value isSimple =>
    .annAssign default target.unplaced typeHint.unplaced (unplacedOptional value) isSimple
  | .forLoop _ isAsync target iterable body orElse typeComment =>
    .forLoop default isAsync target.unplaced iterable.unplaced (unplacedStmts body)
      (unplacedStmts orElse) typeComment
  | .whileLoop _ test body orElse =>
    .whileLoop default test.unplaced (unplacedStmts body) (unplacedStmts orElse)
  | .conditional _ test body orElse =>
    .conditional default test.unplaced (unplacedStmts body) (unplacedStmts orElse)
  | .within _ isAsync items body typeComment =>
    .within default isAsync (items.map WithItem.unplaced) (unplacedStmts body) typeComment
  | .matching _ subject cases => .matching default subject.unplaced (unplacedCases cases)
  | .raise _ exception cause => .raise default (unplacedOptional exception) (unplacedOptional cause)
  | .trying _ isStar body handlers orElse finalBody =>
    .trying default isStar (unplacedStmts body) (unplacedHandlers handlers) (unplacedStmts orElse)
      (unplacedStmts finalBody)
  | .assert _ test message => .assert default test.unplaced (unplacedOptional message)
  | .importing _ names => .importing default (names.map Alias.unplaced)
  | .importFrom _ origin names level => .importFrom default origin (names.map Alias.unplaced) level
  | .global _ names => .global default names
  | .nonlocal _ names => .nonlocal default names
  | .expr _ value => .expr default value.unplaced
  | .pass _ => .pass default
  | .breaking _ => .breaking default
  | .continuing _ => .continuing default

def unplacedStmts : List Stmt → List Stmt
  | [] => []
  | s :: rest => s.unplaced :: unplacedStmts rest

def Handler.unplaced : Handler → Handler
  | .mk _ exception name body => .mk default (unplacedOptional exception) name (unplacedStmts body)

def unplacedHandlers : List Handler → List Handler
  | [] => []
  | h :: rest => h.unplaced :: unplacedHandlers rest

def MatchCase.unplaced : MatchCase → MatchCase
  | .mk pattern guard body => .mk pattern.unplaced (unplacedOptional guard) (unplacedStmts body)

def unplacedCases : List MatchCase → List MatchCase
  | [] => []
  | c :: rest => c.unplaced :: unplacedCases rest

end

/-- A module with the same span at every node. The line of a comment that silences a type checker is
not a place but what the comment is about. -/
def Module.unplaced (m : Module) : Module := { m with body := unplacedStmts m.body }

namespace Outline

mutual

/-- An outline without the places of its nodes. -/
def unplaced : Outline → Outline
  | .constant c => .constant c
  | .many items => .many (unplacedItems items)
  | .node className _ parts => .node className none (unplacedParts parts)

def unplacedItems : List Outline → List Outline
  | [] => []
  | item :: rest => unplaced item :: unplacedItems rest

def unplacedParts : List (String × Outline) → List (String × Outline)
  | [] => []
  | (name, part) :: rest => (name, unplaced part) :: unplacedParts rest

end

/-- Of groups of classes, the number of the one that the class of a node is in. -/
def rank (classes : List (List String)) : Outline → Nat
  | node className _ _ => classes.findIdx (·.contains className)
  | _ => classes.length

theorem rank_unplaced (classes : List (List String)) (o : Outline) :
    o.unplaced.rank classes = o.rank classes := by
  cases o <;> rw [unplaced] <;> rfl

theorem rank_eq {o o' : Outline} (h : o.unplaced = o'.unplaced) (classes : List (List String)) :
    o.rank classes = o'.rank classes := by
  rw [← rank_unplaced, h, rank_unplaced]

variable {c yes no name : String} {p q : Option Span} {ps qs : List (String × Outline)}
  {xs ys : List Outline}

theorem node_unplaced_iff :
    (node c p ps).unplaced = (node c q qs).unplaced ↔ unplacedParts ps = unplacedParts qs := by
  rw [unplaced, unplaced, node.injEq, eq_self, eq_self, true_and, true_and]

theorem flagged_unplaced_iff {a b : Bool} (differ : yes ≠ no) :
    (node (if a then yes else no) p ps).unplaced = (node (if b then yes else no) q qs).unplaced ↔
      a = b ∧ unplacedParts ps = unplacedParts qs := by
  rw [unplaced, unplaced, node.injEq]
  cases a <;> cases b <;> simp [differ, differ.symm]

theorem part_unplaced_iff {x y : Outline} :
    unplacedParts ((name, x) :: ps) = unplacedParts ((name, y) :: qs) ↔
      x.unplaced = y.unplaced ∧ unplacedParts ps = unplacedParts qs := by
  rw [unplacedParts, unplacedParts, List.cons.injEq, Prod.mk.injEq, eq_self, true_and]

theorem many_unplaced_iff :
    (many xs).unplaced = (many ys).unplaced ↔ unplacedItems xs = unplacedItems ys := by
  rw [unplaced, unplaced, many.injEq]

theorem constant_unplaced_iff {c d : Constant} :
    (constant c).unplaced = (constant d).unplaced ↔ c = d := by
  rw [unplaced, unplaced, constant.injEq]

theorem integer_unplaced_iff {m n : Int} :
    (constant (.int m)).unplaced = (constant (.int n)).unplaced ↔ m = n := by
  rw [constant_unplaced_iff, Constant.int.injEq]

theorem natural_unplaced_iff {m n : Nat} :
    (constant (.int m)).unplaced = (constant (.int n)).unplaced ↔ m = n := by
  rw [integer_unplaced_iff, Int.natCast_inj]

theorem text_unplaced_iff {s t : Text} : (text s).unplaced = (text t).unplaced ↔ s = t := by
  rw [text, text, constant_unplaced_iff, Constant.text.injEq]

theorem optionalText_unplaced_iff {s t : Option Text} :
    (optionalText s).unplaced = (optionalText t).unplaced ↔ s = t := by
  cases s <;> cases t <;> simp [optionalText, absent, text, constant_unplaced_iff]

theorem flag_unplaced_iff {b c : Bool} : (flag b).unplaced = (flag c).unplaced ↔ b = c := by
  cases b <;> cases c <;> simp [flag, integer_unplaced_iff]

theorem mark_unplaced_iff {b c : Bool} :
    (if b then text "u" else absent).unplaced = (if c then text "u" else absent).unplaced ↔
      b = c := by
  cases b <;> cases c <;> simp [absent, text, constant_unplaced_iff]

/-- Items that are each kept up to places are kept up to places as a list. -/
theorem items_map_eq {α β : Type} {f : α → Outline} {g : α → β}
    (each : ∀ {a b : α}, (f a).unplaced = (f b).unplaced → g a = g b) {as bs : List α}
    (h : unplacedItems (as.map f) = unplacedItems (bs.map f)) : as.map g = bs.map g := by
  induction as generalizing bs with
  | nil =>
      cases bs with
      | nil => rfl
      | cons b bs => cases h
  | cons a as ih =>
      cases bs with
      | nil => cases h
      | cons b bs =>
          obtain ⟨first, rest⟩ := List.cons.inj h
          rw [List.map_cons, List.map_cons, each first, ih rest]

theorem texts_unplaced_iff {ss ts : List Text} :
    (texts ss).unplaced = (texts ts).unplaced ↔ ss = ts := by
  refine ⟨fun h => ?_, fun same => by rw [same]⟩
  have same := items_map_eq text_unplaced_iff.mp (many_unplaced_iff.mp h) (g := id)
  rwa [List.map_id, List.map_id] at same

end Outline

end SourceLedger.Syntax
