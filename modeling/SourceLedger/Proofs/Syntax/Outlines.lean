import SourceLedger.Proofs.Syntax.Members
import SourceLedger.Proofs.Syntax.Unplaced

/-!
# Outlines tell trees apart

The outline of a tree keeps all that is in the tree: trees of one kind whose outlines are the same
up to places are the same up to places. By its class each constructor is told from the others, and
a part that is absent is told from one that is there, since a part that is there is a node.

The induction follows the constructors of the first tree. The class leaves the second one no other
constructor, and then the parts are compared one by one.
-/

namespace SourceLedger.Syntax

open Outline

/-- Signs are told apart by their class. -/
theorem sign_unplaced_iff {Sign : Type} {outline : Sign → Outline} {index : Sign → Nat}
    (injective : Function.Injective index) (offset : Nat)
    (rank : ∀ x, (outline x).rank (Shape.signs.map ([·.className])) = index x + offset)
    {a b : Sign} : (outline a).unplaced = (outline b).unplaced ↔ a = b := by
  refine ⟨fun h => injective ?_, fun same => by rw [same]⟩
  have kind := rank_eq h (Shape.signs.map ([·.className]))
  rw [rank, rank] at kind
  exact Nat.add_right_cancel kind

theorem Use.unplaced_iff {a b : Use} : a.outline.unplaced = b.outline.unplaced ↔ a = b :=
  sign_unplaced_iff (Function.LeftInverse.injective ofNat_ctorIdx) 0 fun u => by cases u <;> rfl

theorem BoolOp.unplaced_iff {a b : BoolOp} : a.outline.unplaced = b.outline.unplaced ↔ a = b :=
  sign_unplaced_iff (Function.LeftInverse.injective ofNat_ctorIdx) 3 fun o => by cases o <;> rfl

theorem BinaryOp.unplaced_iff {a b : BinaryOp} : a.outline.unplaced = b.outline.unplaced ↔ a = b :=
  sign_unplaced_iff (Function.LeftInverse.injective ofNat_ctorIdx) 5 fun o => by cases o <;> rfl

theorem UnaryOp.unplaced_iff {a b : UnaryOp} : a.outline.unplaced = b.outline.unplaced ↔ a = b :=
  sign_unplaced_iff (Function.LeftInverse.injective ofNat_ctorIdx) 18 fun o => by cases o <;> rfl

theorem Comparison.unplaced_iff {a b : Comparison} :
    a.outline.unplaced = b.outline.unplaced ↔ a = b :=
  sign_unplaced_iff (Function.LeftInverse.injective ofNat_ctorIdx) 22 fun o => by cases o <;> rfl

theorem comparisons_unplaced_iff {as bs : List Comparison} :
    unplacedItems (as.map Comparison.outline) = unplacedItems (bs.map Comparison.outline) ↔
      as = bs := by
  refine ⟨fun h => ?_, fun same => by rw [same]⟩
  have same := items_map_eq Comparison.unplaced_iff.mp h (g := id)
  rwa [List.map_id, List.map_id] at same

/-- The class of an expression says which constructor it was made by. -/
theorem Expr.rank_outline (e : Expr) :
    e.outline.rank (Shape.expressions.map ([·.className])) = e.ctorIdx := by
  cases e <;> rfl

mutual

theorem Expr.unplaced_eq {a : Expr} :
    ∀ {b : Expr}, a.outline.unplaced = b.outline.unplaced → a.unplaced = b.unplaced := by
  intro b h
  have kind := rank_eq h (Shape.expressions.map ([·.className]))
  rw [Expr.rank_outline, Expr.rank_outline] at kind
  match a with
  | .boolOp .. =>
      cases b <;> cases kind
      simp only [Expr.outline, node_unplaced_iff, part_unplaced_iff, BoolOp.unplaced_iff,
        many_unplaced_iff, and_true] at h
      obtain ⟨rfl, values⟩ := h
      rw [Expr.unplaced, Expr.unplaced, exprs_unplaced_eq values]
  | .named .. =>
      cases b <;> cases kind
      simp only [Expr.outline, node_unplaced_iff, part_unplaced_iff, and_true] at h
      obtain ⟨target, value⟩ := h
      rw [Expr.unplaced, Expr.unplaced, Expr.unplaced_eq target, Expr.unplaced_eq value]
  | .binary .. =>
      cases b <;> cases kind
      simp only [Expr.outline, node_unplaced_iff, part_unplaced_iff, BinaryOp.unplaced_iff,
        and_true] at h
      obtain ⟨left, rfl, right⟩ := h
      rw [Expr.unplaced, Expr.unplaced, Expr.unplaced_eq left, Expr.unplaced_eq right]
  | .unary .. =>
      cases b <;> cases kind
      simp only [Expr.outline, node_unplaced_iff, part_unplaced_iff, UnaryOp.unplaced_iff,
        and_true] at h
      obtain ⟨rfl, operand⟩ := h
      rw [Expr.unplaced, Expr.unplaced, Expr.unplaced_eq operand]
  | .lambda .. =>
      cases b <;> cases kind
      simp only [Expr.outline, node_unplaced_iff, part_unplaced_iff, and_true] at h
      obtain ⟨parameters, body⟩ := h
      rw [Expr.unplaced, Expr.unplaced, Parameters.unplaced_eq parameters, Expr.unplaced_eq body]
  | .conditional .. =>
      cases b <;> cases kind
      simp only [Expr.outline, node_unplaced_iff, part_unplaced_iff, and_true] at h
      obtain ⟨test, body, orElse⟩ := h
      rw [Expr.unplaced, Expr.unplaced, Expr.unplaced_eq test, Expr.unplaced_eq body,
        Expr.unplaced_eq orElse]
  | .dict .. =>
      cases b <;> cases kind
      simp only [Expr.outline, node_unplaced_iff, part_unplaced_iff, many_unplaced_iff,
        and_true] at h
      obtain ⟨keys, values⟩ := h
      rw [Expr.unplaced, Expr.unplaced, optionals_unplaced_eq keys, exprs_unplaced_eq values]
  | .set .. =>
      cases b <;> cases kind
      simp only [Expr.outline, node_unplaced_iff, part_unplaced_iff, many_unplaced_iff,
        and_true] at h
      rw [Expr.unplaced, Expr.unplaced, exprs_unplaced_eq h]
  | .listComp .. =>
      cases b <;> cases kind
      simp only [Expr.outline, node_unplaced_iff, part_unplaced_iff, many_unplaced_iff,
        and_true] at h
      obtain ⟨item, generators⟩ := h
      rw [Expr.unplaced, Expr.unplaced, Expr.unplaced_eq item,
        comprehensions_unplaced_eq generators]
  | .setComp .. =>
      cases b <;> cases kind
      simp only [Expr.outline, node_unplaced_iff, part_unplaced_iff, many_unplaced_iff,
        and_true] at h
      obtain ⟨item, generators⟩ := h
      rw [Expr.unplaced, Expr.unplaced, Expr.unplaced_eq item,
        comprehensions_unplaced_eq generators]
  | .dictComp .. =>
      cases b <;> cases kind
      simp only [Expr.outline, node_unplaced_iff, part_unplaced_iff, many_unplaced_iff,
        and_true] at h
      obtain ⟨key, value, generators⟩ := h
      rw [Expr.unplaced, Expr.unplaced, Expr.unplaced_eq key, Expr.unplaced_eq value,
        comprehensions_unplaced_eq generators]
  | .generator .. =>
      cases b <;> cases kind
      simp only [Expr.outline, node_unplaced_iff, part_unplaced_iff, many_unplaced_iff,
        and_true] at h
      obtain ⟨item, generators⟩ := h
      rw [Expr.unplaced, Expr.unplaced, Expr.unplaced_eq item,
        comprehensions_unplaced_eq generators]
  | .await .. =>
      cases b <;> cases kind
      simp only [Expr.outline, node_unplaced_iff, part_unplaced_iff, and_true] at h
      rw [Expr.unplaced, Expr.unplaced, Expr.unplaced_eq h]
  | .yield .. =>
      cases b <;> cases kind
      simp only [Expr.outline, node_unplaced_iff, part_unplaced_iff, and_true] at h
      rw [Expr.unplaced, Expr.unplaced, optional_unplaced_eq h]
  | .yieldFrom .. =>
      cases b <;> cases kind
      simp only [Expr.outline, node_unplaced_iff, part_unplaced_iff, and_true] at h
      rw [Expr.unplaced, Expr.unplaced, Expr.unplaced_eq h]
  | .compare .. =>
      cases b <;> cases kind
      simp only [Expr.outline, node_unplaced_iff, part_unplaced_iff, many_unplaced_iff,
        comparisons_unplaced_iff, and_true] at h
      obtain ⟨left, rfl, rights⟩ := h
      rw [Expr.unplaced, Expr.unplaced, Expr.unplaced_eq left, exprs_unplaced_eq rights]
  | .call .. =>
      cases b <;> cases kind
      simp only [Expr.outline, node_unplaced_iff, part_unplaced_iff, many_unplaced_iff,
        and_true] at h
      obtain ⟨function, arguments, keywords⟩ := h
      rw [Expr.unplaced, Expr.unplaced, Expr.unplaced_eq function, exprs_unplaced_eq arguments,
        keywords_unplaced_eq keywords]
  | .formatted .. =>
      cases b <;> cases kind
      simp only [Expr.outline, node_unplaced_iff, part_unplaced_iff, integer_unplaced_iff,
        and_true] at h
      obtain ⟨value, rfl, spec⟩ := h
      rw [Expr.unplaced, Expr.unplaced, Expr.unplaced_eq value, optional_unplaced_eq spec]
  | .joined .. =>
      cases b <;> cases kind
      simp only [Expr.outline, node_unplaced_iff, part_unplaced_iff, many_unplaced_iff,
        and_true] at h
      rw [Expr.unplaced, Expr.unplaced, exprs_unplaced_eq h]
  | .constant .. =>
      cases b <;> cases kind
      simp only [Expr.outline, node_unplaced_iff, part_unplaced_iff, constant_unplaced_iff,
        mark_unplaced_iff, and_true] at h
      obtain ⟨rfl, rfl⟩ := h
      rw [Expr.unplaced, Expr.unplaced]
  | .member .. =>
      cases b <;> cases kind
      simp only [Expr.outline, node_unplaced_iff, part_unplaced_iff, text_unplaced_iff,
        Use.unplaced_iff, and_true] at h
      obtain ⟨value, rfl, rfl⟩ := h
      rw [Expr.unplaced, Expr.unplaced, Expr.unplaced_eq value]
  | .subscript .. =>
      cases b <;> cases kind
      simp only [Expr.outline, node_unplaced_iff, part_unplaced_iff, Use.unplaced_iff,
        and_true] at h
      obtain ⟨value, index, rfl⟩ := h
      rw [Expr.unplaced, Expr.unplaced, Expr.unplaced_eq value, Expr.unplaced_eq index]
  | .starred .. =>
      cases b <;> cases kind
      simp only [Expr.outline, node_unplaced_iff, part_unplaced_iff, Use.unplaced_iff,
        and_true] at h
      obtain ⟨value, rfl⟩ := h
      rw [Expr.unplaced, Expr.unplaced, Expr.unplaced_eq value]
  | .name .. =>
      cases b <;> cases kind
      simp only [Expr.outline, node_unplaced_iff, part_unplaced_iff, text_unplaced_iff,
        Use.unplaced_iff, and_true] at h
      obtain ⟨rfl, rfl⟩ := h
      rw [Expr.unplaced, Expr.unplaced]
  | .list .. =>
      cases b <;> cases kind
      simp only [Expr.outline, node_unplaced_iff, part_unplaced_iff, many_unplaced_iff,
        Use.unplaced_iff, and_true] at h
      obtain ⟨items, rfl⟩ := h
      rw [Expr.unplaced, Expr.unplaced, exprs_unplaced_eq items]
  | .tuple .. =>
      cases b <;> cases kind
      simp only [Expr.outline, node_unplaced_iff, part_unplaced_iff, many_unplaced_iff,
        Use.unplaced_iff, and_true] at h
      obtain ⟨items, rfl⟩ := h
      rw [Expr.unplaced, Expr.unplaced, exprs_unplaced_eq items]
  | .slice .. =>
      cases b <;> cases kind
      simp only [Expr.outline, node_unplaced_iff, part_unplaced_iff, and_true] at h
      obtain ⟨lower, upper, step⟩ := h
      rw [Expr.unplaced, Expr.unplaced, optional_unplaced_eq lower, optional_unplaced_eq upper,
        optional_unplaced_eq step]
termination_by structural a

theorem exprs_unplaced_eq {as : List Expr} :
    ∀ {bs : List Expr}, unplacedItems (exprs as) = unplacedItems (exprs bs) →
      unplacedExprs as = unplacedExprs bs := by
  intro bs h
  match as, bs with
  | [], [] => rfl
  | a :: as, b :: bs =>
      obtain ⟨first, rest⟩ := List.cons.inj h
      rw [unplacedExprs, unplacedExprs, Expr.unplaced_eq first, exprs_unplaced_eq rest]
termination_by structural as

theorem optional_unplaced_eq {a : Option Expr} :
    ∀ {b : Option Expr}, (optional a).unplaced = (optional b).unplaced →
      unplacedOptional a = unplacedOptional b := by
  intro b h
  match a, b with
  | none, none => rfl
  | some a, some b => rw [unplacedOptional, unplacedOptional, Expr.unplaced_eq h]
  | none, some b =>
      obtain ⟨_, _, _, node⟩ := b.exists_node
      exact nomatch h.trans (congrArg unplaced node)
  | some a, none =>
      obtain ⟨_, _, _, node⟩ := a.exists_node
      exact nomatch h.symm.trans (congrArg unplaced node)
termination_by structural a

theorem optionals_unplaced_eq {as : List (Option Expr)} :
    ∀ {bs : List (Option Expr)}, unplacedItems (optionals as) = unplacedItems (optionals bs) →
      unplacedOptionals as = unplacedOptionals bs := by
  intro bs h
  match as, bs with
  | [], [] => rfl
  | a :: as, b :: bs =>
      obtain ⟨first, rest⟩ := List.cons.inj h
      rw [unplacedOptionals, unplacedOptionals, optional_unplaced_eq first,
        optionals_unplaced_eq rest]
termination_by structural as

theorem Comprehension.unplaced_eq {a : Comprehension} :
    ∀ {b : Comprehension}, a.outline.unplaced = b.outline.unplaced → a.unplaced = b.unplaced := by
  intro b h
  match a, b with
  | .mk .., .mk .. =>
      simp only [Comprehension.outline, node_unplaced_iff, part_unplaced_iff, many_unplaced_iff,
        flag_unplaced_iff, and_true] at h
      obtain ⟨target, iterable, conditions, rfl⟩ := h
      rw [Comprehension.unplaced, Comprehension.unplaced, Expr.unplaced_eq target,
        Expr.unplaced_eq iterable, exprs_unplaced_eq conditions]
termination_by structural a

theorem comprehensions_unplaced_eq {as : List Comprehension} :
    ∀ {bs : List Comprehension},
      unplacedItems (comprehensions as) = unplacedItems (comprehensions bs) →
      unplacedComprehensions as = unplacedComprehensions bs := by
  intro bs h
  match as, bs with
  | [], [] => rfl
  | a :: as, b :: bs =>
      obtain ⟨first, rest⟩ := List.cons.inj h
      rw [unplacedComprehensions, unplacedComprehensions, Comprehension.unplaced_eq first,
        comprehensions_unplaced_eq rest]
termination_by structural as

theorem Keyword.unplaced_eq {a : Keyword} :
    ∀ {b : Keyword}, a.outline.unplaced = b.outline.unplaced → a.unplaced = b.unplaced := by
  intro b h
  match a, b with
  | .mk .., .mk .. =>
      simp only [Keyword.outline, node_unplaced_iff, part_unplaced_iff, optionalText_unplaced_iff,
        and_true] at h
      obtain ⟨rfl, value⟩ := h
      rw [Keyword.unplaced, Keyword.unplaced, Expr.unplaced_eq value]
termination_by structural a

theorem keywords_unplaced_eq {as : List Keyword} :
    ∀ {bs : List Keyword}, unplacedItems (keywordOutlines as) = unplacedItems (keywordOutlines bs) →
      unplacedKeywords as = unplacedKeywords bs := by
  intro bs h
  match as, bs with
  | [], [] => rfl
  | a :: as, b :: bs =>
      obtain ⟨first, rest⟩ := List.cons.inj h
      rw [unplacedKeywords, unplacedKeywords, Keyword.unplaced_eq first, keywords_unplaced_eq rest]
termination_by structural as

theorem Parameter.unplaced_eq {a : Parameter} :
    ∀ {b : Parameter}, a.outline.unplaced = b.outline.unplaced → a.unplaced = b.unplaced := by
  intro b h
  match a, b with
  | .mk .., .mk .. =>
      simp only [Parameter.outline, node_unplaced_iff, part_unplaced_iff, text_unplaced_iff,
        optionalText_unplaced_iff, and_true] at h
      obtain ⟨rfl, typeHint, rfl⟩ := h
      rw [Parameter.unplaced, Parameter.unplaced, optional_unplaced_eq typeHint]
termination_by structural a

theorem parameters_unplaced_eq {as : List Parameter} :
    ∀ {bs : List Parameter},
      unplacedItems (parameterOutlines as) = unplacedItems (parameterOutlines bs) →
      unplacedParameters as = unplacedParameters bs := by
  intro bs h
  match as, bs with
  | [], [] => rfl
  | a :: as, b :: bs =>
      obtain ⟨first, rest⟩ := List.cons.inj h
      rw [unplacedParameters, unplacedParameters, Parameter.unplaced_eq first,
        parameters_unplaced_eq rest]
termination_by structural as

theorem optionalParameter_unplaced_eq {a : Option Parameter} :
    ∀ {b : Option Parameter}, (optionalParameter a).unplaced = (optionalParameter b).unplaced →
      unplacedOptionalParameter a = unplacedOptionalParameter b := by
  intro b h
  match a, b with
  | none, none => rfl
  | some a, some b =>
      rw [unplacedOptionalParameter, unplacedOptionalParameter, Parameter.unplaced_eq h]
  | none, some (.mk ..) => exact nomatch h
  | some (.mk ..), none => exact nomatch h
termination_by structural a

theorem Parameters.unplaced_eq {a : Parameters} :
    ∀ {b : Parameters}, a.outline.unplaced = b.outline.unplaced → a.unplaced = b.unplaced := by
  intro b h
  match a, b with
  | .mk .., .mk .. =>
      simp only [Parameters.outline, node_unplaced_iff, part_unplaced_iff, many_unplaced_iff,
        and_true] at h
      obtain ⟨positionalOnly, positional, rest, keywordOnly, keywordDefaults, keywordRest,
        defaults⟩ := h
      rw [Parameters.unplaced, Parameters.unplaced, parameters_unplaced_eq positionalOnly,
        parameters_unplaced_eq positional, optionalParameter_unplaced_eq rest,
        parameters_unplaced_eq keywordOnly, optionals_unplaced_eq keywordDefaults,
        optionalParameter_unplaced_eq keywordRest, exprs_unplaced_eq defaults]
termination_by structural a

end

/-- Every pattern is a node. -/
theorem Pattern.exists_node (p : Pattern) :
    ∃ className place parts, p.outline = .node className place parts := by
  cases p <;> exact ⟨_, _, _, rfl⟩

theorem Pattern.rank_outline (p : Pattern) :
    p.outline.rank (Shape.patterns.map ([·.className])) = p.ctorIdx := by
  cases p <;> rfl

mutual

theorem Pattern.unplaced_eq {a : Pattern} :
    ∀ {b : Pattern}, a.outline.unplaced = b.outline.unplaced → a.unplaced = b.unplaced := by
  intro b h
  have kind := rank_eq h (Shape.patterns.map ([·.className]))
  rw [Pattern.rank_outline, Pattern.rank_outline] at kind
  match a with
  | .value .. =>
      cases b <;> cases kind
      simp only [Pattern.outline, node_unplaced_iff, part_unplaced_iff, and_true] at h
      rw [Pattern.unplaced, Pattern.unplaced, Expr.unplaced_eq h]
  | .singleton .. =>
      cases b <;> cases kind
      simp only [Pattern.outline, node_unplaced_iff, part_unplaced_iff, constant_unplaced_iff,
        and_true] at h
      subst h
      rw [Pattern.unplaced, Pattern.unplaced]
  | .sequence .. =>
      cases b <;> cases kind
      simp only [Pattern.outline, node_unplaced_iff, part_unplaced_iff, many_unplaced_iff,
        and_true] at h
      rw [Pattern.unplaced, Pattern.unplaced, patterns_unplaced_eq h]
  | .mapping .. =>
      cases b <;> cases kind
      simp only [Pattern.outline, node_unplaced_iff, part_unplaced_iff, many_unplaced_iff,
        optionalText_unplaced_iff, and_true] at h
      obtain ⟨keys, patterns, rfl⟩ := h
      rw [Pattern.unplaced, Pattern.unplaced, exprs_unplaced_eq keys, patterns_unplaced_eq patterns]
  | .ofClass .. =>
      cases b <;> cases kind
      simp only [Pattern.outline, node_unplaced_iff, part_unplaced_iff, many_unplaced_iff,
        texts_unplaced_iff, and_true] at h
      obtain ⟨cls, patterns, rfl, namedPatterns⟩ := h
      rw [Pattern.unplaced, Pattern.unplaced, Expr.unplaced_eq cls, patterns_unplaced_eq patterns,
        patterns_unplaced_eq namedPatterns]
  | .star .. =>
      cases b <;> cases kind
      simp only [Pattern.outline, node_unplaced_iff, part_unplaced_iff, optionalText_unplaced_iff,
        and_true] at h
      subst h
      rw [Pattern.unplaced, Pattern.unplaced]
  | .capture .. =>
      cases b <;> cases kind
      simp only [Pattern.outline, node_unplaced_iff, part_unplaced_iff, optionalText_unplaced_iff,
        and_true] at h
      obtain ⟨pattern, rfl⟩ := h
      rw [Pattern.unplaced, Pattern.unplaced, optionalPattern_unplaced_eq pattern]
  | .or .. =>
      cases b <;> cases kind
      simp only [Pattern.outline, node_unplaced_iff, part_unplaced_iff, many_unplaced_iff,
        and_true] at h
      rw [Pattern.unplaced, Pattern.unplaced, patterns_unplaced_eq h]
termination_by structural a

theorem patterns_unplaced_eq {as : List Pattern} :
    ∀ {bs : List Pattern}, unplacedItems (patternOutlines as) = unplacedItems (patternOutlines bs) →
      unplacedPatterns as = unplacedPatterns bs := by
  intro bs h
  match as, bs with
  | [], [] => rfl
  | a :: as, b :: bs =>
      obtain ⟨first, rest⟩ := List.cons.inj h
      rw [unplacedPatterns, unplacedPatterns, Pattern.unplaced_eq first, patterns_unplaced_eq rest]
termination_by structural as

theorem optionalPattern_unplaced_eq {a : Option Pattern} :
    ∀ {b : Option Pattern}, (optionalPattern a).unplaced = (optionalPattern b).unplaced →
      unplacedOptionalPattern a = unplacedOptionalPattern b := by
  intro b h
  match a, b with
  | none, none => rfl
  | some a, some b => rw [unplacedOptionalPattern, unplacedOptionalPattern, Pattern.unplaced_eq h]
  | none, some b =>
      obtain ⟨_, _, _, node⟩ := b.exists_node
      exact nomatch h.trans (congrArg unplaced node)
  | some a, none =>
      obtain ⟨_, _, _, node⟩ := a.exists_node
      exact nomatch h.symm.trans (congrArg unplaced node)
termination_by structural a

end

theorem Alias.unplaced_eq {a b : Alias} (h : a.outline.unplaced = b.outline.unplaced) :
    a.unplaced = b.unplaced := by
  simp only [Alias.outline, node_unplaced_iff, part_unplaced_iff, text_unplaced_iff,
    optionalText_unplaced_iff, and_true] at h
  rw [Alias.unplaced, Alias.unplaced, h.1, h.2]

theorem WithItem.unplaced_eq {a b : WithItem} (h : a.outline.unplaced = b.outline.unplaced) :
    a.unplaced = b.unplaced := by
  simp only [WithItem.outline, node_unplaced_iff, part_unplaced_iff, and_true] at h
  rw [WithItem.unplaced, WithItem.unplaced, Expr.unplaced_eq h.1, optional_unplaced_eq h.2]

/-- The classes of statements, in groups that differ by a flag only. -/
def Stmt.classes : List (List String) :=
  [["FunctionDef", "AsyncFunctionDef"], ["ClassDef"], ["Return"], ["Delete"], ["Assign"],
    ["AugAssign"], ["AnnAssign"], ["For", "AsyncFor"], ["While"], ["If"], ["With", "AsyncWith"],
    ["Match"], ["Raise"], ["Try", "TryStar"], ["Assert"], ["Import"], ["ImportFrom"], ["Global"],
    ["Nonlocal"], ["Expr"], ["Pass"], ["Break"], ["Continue"]]

theorem Stmt.rank_outline (s : Stmt) : s.outline.rank classes = s.ctorIdx := by
  cases s with
  | functionDef _ flag | forLoop _ flag | within _ flag | trying _ flag => cases flag <;> rfl
  | _ => rfl

mutual

theorem Stmt.unplaced_eq {a : Stmt} :
    ∀ {b : Stmt}, a.outline.unplaced = b.outline.unplaced → a.unplaced = b.unplaced := by
  intro b h
  have kind := rank_eq h Stmt.classes
  rw [Stmt.rank_outline, Stmt.rank_outline] at kind
  match a with
  | .functionDef .. =>
      cases b <;> cases kind
      have differ : "AsyncFunctionDef" ≠ "FunctionDef" := by decide
      simp only [Stmt.outline, flagged_unplaced_iff differ, part_unplaced_iff, text_unplaced_iff,
        many_unplaced_iff, optionalText_unplaced_iff, and_true] at h
      obtain ⟨rfl, rfl, parameters, body, decorators, returns, rfl⟩ := h
      rw [Stmt.unplaced, Stmt.unplaced, Parameters.unplaced_eq parameters, stmts_unplaced_eq body,
        exprs_unplaced_eq decorators, optional_unplaced_eq returns]
  | .classDef .. =>
      cases b <;> cases kind
      simp only [Stmt.outline, node_unplaced_iff, part_unplaced_iff, text_unplaced_iff,
        many_unplaced_iff, and_true] at h
      obtain ⟨rfl, bases, keywords, body, decorators⟩ := h
      rw [Stmt.unplaced, Stmt.unplaced, exprs_unplaced_eq bases, keywords_unplaced_eq keywords,
        stmts_unplaced_eq body, exprs_unplaced_eq decorators]
  | .returning .. =>
      cases b <;> cases kind
      simp only [Stmt.outline, node_unplaced_iff, part_unplaced_iff, and_true] at h
      rw [Stmt.unplaced, Stmt.unplaced, optional_unplaced_eq h]
  | .delete .. =>
      cases b <;> cases kind
      simp only [Stmt.outline, node_unplaced_iff, part_unplaced_iff, many_unplaced_iff,
        and_true] at h
      rw [Stmt.unplaced, Stmt.unplaced, exprs_unplaced_eq h]
  | .assign .. =>
      cases b <;> cases kind
      simp only [Stmt.outline, node_unplaced_iff, part_unplaced_iff, many_unplaced_iff,
        optionalText_unplaced_iff, and_true] at h
      obtain ⟨targets, value, rfl⟩ := h
      rw [Stmt.unplaced, Stmt.unplaced, exprs_unplaced_eq targets, Expr.unplaced_eq value]
  | .augAssign .. =>
      cases b <;> cases kind
      simp only [Stmt.outline, node_unplaced_iff, part_unplaced_iff, BinaryOp.unplaced_iff,
        and_true] at h
      obtain ⟨target, rfl, value⟩ := h
      rw [Stmt.unplaced, Stmt.unplaced, Expr.unplaced_eq target, Expr.unplaced_eq value]
  | .annAssign .. =>
      cases b <;> cases kind
      simp only [Stmt.outline, node_unplaced_iff, part_unplaced_iff, flag_unplaced_iff,
        and_true] at h
      obtain ⟨target, typeHint, value, rfl⟩ := h
      rw [Stmt.unplaced, Stmt.unplaced, Expr.unplaced_eq target, Expr.unplaced_eq typeHint,
        optional_unplaced_eq value]
  | .forLoop .. =>
      cases b <;> cases kind
      have differ : "AsyncFor" ≠ "For" := by decide
      simp only [Stmt.outline, flagged_unplaced_iff differ, part_unplaced_iff, many_unplaced_iff,
        optionalText_unplaced_iff, and_true] at h
      obtain ⟨rfl, target, iterable, body, orElse, rfl⟩ := h
      rw [Stmt.unplaced, Stmt.unplaced, Expr.unplaced_eq target, Expr.unplaced_eq iterable,
        stmts_unplaced_eq body, stmts_unplaced_eq orElse]
  | .whileLoop .. =>
      cases b <;> cases kind
      simp only [Stmt.outline, node_unplaced_iff, part_unplaced_iff, many_unplaced_iff,
        and_true] at h
      obtain ⟨test, body, orElse⟩ := h
      rw [Stmt.unplaced, Stmt.unplaced, Expr.unplaced_eq test, stmts_unplaced_eq body,
        stmts_unplaced_eq orElse]
  | .conditional .. =>
      cases b <;> cases kind
      simp only [Stmt.outline, node_unplaced_iff, part_unplaced_iff, many_unplaced_iff,
        and_true] at h
      obtain ⟨test, body, orElse⟩ := h
      rw [Stmt.unplaced, Stmt.unplaced, Expr.unplaced_eq test, stmts_unplaced_eq body,
        stmts_unplaced_eq orElse]
  | .within .. =>
      cases b <;> cases kind
      have differ : "AsyncWith" ≠ "With" := by decide
      simp only [Stmt.outline, flagged_unplaced_iff differ, part_unplaced_iff, many_unplaced_iff,
        optionalText_unplaced_iff, and_true] at h
      obtain ⟨rfl, items, body, rfl⟩ := h
      rw [Stmt.unplaced, Stmt.unplaced, items_map_eq WithItem.unplaced_eq items,
        stmts_unplaced_eq body]
  | .matching .. =>
      cases b <;> cases kind
      simp only [Stmt.outline, node_unplaced_iff, part_unplaced_iff, many_unplaced_iff,
        and_true] at h
      obtain ⟨subject, cases⟩ := h
      rw [Stmt.unplaced, Stmt.unplaced, Expr.unplaced_eq subject, cases_unplaced_eq cases]
  | .raise .. =>
      cases b <;> cases kind
      simp only [Stmt.outline, node_unplaced_iff, part_unplaced_iff, and_true] at h
      obtain ⟨exception, cause⟩ := h
      rw [Stmt.unplaced, Stmt.unplaced, optional_unplaced_eq exception, optional_unplaced_eq cause]
  | .trying .. =>
      cases b <;> cases kind
      have differ : "TryStar" ≠ "Try" := by decide
      simp only [Stmt.outline, flagged_unplaced_iff differ, part_unplaced_iff, many_unplaced_iff,
        and_true] at h
      obtain ⟨rfl, body, handlers, orElse, finalBody⟩ := h
      rw [Stmt.unplaced, Stmt.unplaced, stmts_unplaced_eq body, handlers_unplaced_eq handlers,
        stmts_unplaced_eq orElse, stmts_unplaced_eq finalBody]
  | .assert .. =>
      cases b <;> cases kind
      simp only [Stmt.outline, node_unplaced_iff, part_unplaced_iff, and_true] at h
      obtain ⟨test, message⟩ := h
      rw [Stmt.unplaced, Stmt.unplaced, Expr.unplaced_eq test, optional_unplaced_eq message]
  | .importing .. =>
      cases b <;> cases kind
      simp only [Stmt.outline, node_unplaced_iff, part_unplaced_iff, many_unplaced_iff,
        and_true] at h
      rw [Stmt.unplaced, Stmt.unplaced, items_map_eq Alias.unplaced_eq h]
  | .importFrom .. =>
      cases b <;> cases kind
      simp only [Stmt.outline, node_unplaced_iff, part_unplaced_iff, optionalText_unplaced_iff,
        many_unplaced_iff, natural_unplaced_iff, and_true] at h
      obtain ⟨rfl, names, rfl⟩ := h
      rw [Stmt.unplaced, Stmt.unplaced, items_map_eq Alias.unplaced_eq names]
  | .global .. =>
      cases b <;> cases kind
      simp only [Stmt.outline, node_unplaced_iff, part_unplaced_iff, texts_unplaced_iff,
        and_true] at h
      subst h
      rw [Stmt.unplaced, Stmt.unplaced]
  | .nonlocal .. =>
      cases b <;> cases kind
      simp only [Stmt.outline, node_unplaced_iff, part_unplaced_iff, texts_unplaced_iff,
        and_true] at h
      subst h
      rw [Stmt.unplaced, Stmt.unplaced]
  | .expr .. =>
      cases b <;> cases kind
      simp only [Stmt.outline, node_unplaced_iff, part_unplaced_iff, and_true] at h
      rw [Stmt.unplaced, Stmt.unplaced, Expr.unplaced_eq h]
  | .pass .. =>
      cases b <;> cases kind
      rw [Stmt.unplaced, Stmt.unplaced]
  | .breaking .. =>
      cases b <;> cases kind
      rw [Stmt.unplaced, Stmt.unplaced]
  | .continuing .. =>
      cases b <;> cases kind
      rw [Stmt.unplaced, Stmt.unplaced]
termination_by structural a

theorem stmts_unplaced_eq {as : List Stmt} :
    ∀ {bs : List Stmt}, unplacedItems (stmts as) = unplacedItems (stmts bs) →
      unplacedStmts as = unplacedStmts bs := by
  intro bs h
  match as, bs with
  | [], [] => rfl
  | a :: as, b :: bs =>
      obtain ⟨first, rest⟩ := List.cons.inj h
      rw [unplacedStmts, unplacedStmts, Stmt.unplaced_eq first, stmts_unplaced_eq rest]
termination_by structural as

theorem Handler.unplaced_eq {a : Handler} :
    ∀ {b : Handler}, a.outline.unplaced = b.outline.unplaced → a.unplaced = b.unplaced := by
  intro b h
  match a, b with
  | .mk .., .mk .. =>
      simp only [Handler.outline, node_unplaced_iff, part_unplaced_iff, optionalText_unplaced_iff,
        many_unplaced_iff, and_true] at h
      obtain ⟨exception, rfl, body⟩ := h
      rw [Handler.unplaced, Handler.unplaced, optional_unplaced_eq exception,
        stmts_unplaced_eq body]
termination_by structural a

theorem handlers_unplaced_eq {as : List Handler} :
    ∀ {bs : List Handler}, unplacedItems (handlerOutlines as) = unplacedItems (handlerOutlines bs) →
      unplacedHandlers as = unplacedHandlers bs := by
  intro bs h
  match as, bs with
  | [], [] => rfl
  | a :: as, b :: bs =>
      obtain ⟨first, rest⟩ := List.cons.inj h
      rw [unplacedHandlers, unplacedHandlers, Handler.unplaced_eq first, handlers_unplaced_eq rest]
termination_by structural as

theorem MatchCase.unplaced_eq {a : MatchCase} :
    ∀ {b : MatchCase}, a.outline.unplaced = b.outline.unplaced → a.unplaced = b.unplaced := by
  intro b h
  match a, b with
  | .mk .., .mk .. =>
      simp only [MatchCase.outline, node_unplaced_iff, part_unplaced_iff, many_unplaced_iff,
        and_true] at h
      obtain ⟨pattern, guard, body⟩ := h
      rw [MatchCase.unplaced, MatchCase.unplaced, Pattern.unplaced_eq pattern,
        optional_unplaced_eq guard, stmts_unplaced_eq body]
termination_by structural a

theorem cases_unplaced_eq {as : List MatchCase} :
    ∀ {bs : List MatchCase}, unplacedItems (caseOutlines as) = unplacedItems (caseOutlines bs) →
      unplacedCases as = unplacedCases bs := by
  intro bs h
  match as, bs with
  | [], [] => rfl
  | a :: as, b :: bs =>
      obtain ⟨first, rest⟩ := List.cons.inj h
      rw [unplacedCases, unplacedCases, MatchCase.unplaced_eq first, cases_unplaced_eq rest]
termination_by structural as

end

theorem TypeIgnore.unplaced_eq {a b : TypeIgnore} (h : a.outline.unplaced = b.outline.unplaced) :
    a = b := by
  obtain ⟨line, tag⟩ := a
  simp only [TypeIgnore.outline, node_unplaced_iff, part_unplaced_iff, natural_unplaced_iff,
    text_unplaced_iff, and_true] at h
  obtain ⟨rfl, rfl⟩ := h
  rfl

/-- Modules whose outlines are the same but for places are the same but for places. -/
theorem Module.unplaced_eq {a b : Module} (h : a.outline.unplaced = b.outline.unplaced) :
    a.unplaced = b.unplaced := by
  simp only [Module.outline, node_unplaced_iff, part_unplaced_iff, many_unplaced_iff, and_true] at h
  have ignores := items_map_eq TypeIgnore.unplaced_eq h.2 (g := id)
  rw [List.map_id, List.map_id] at ignores
  rw [Module.unplaced, Module.unplaced, stmts_unplaced_eq h.1, ignores]

end SourceLedger.Syntax
