import SourceLedger.Syntax.Outline

/-!
# Shapes of nodes

The abstract syntax of Python 3.11 as a list: which classes of nodes there are, the names of their
parts in order, and which of them have a place in the source. Every node of every tree, at any
depth, has a shape from this list.
-/

namespace SourceLedger.Syntax

/-- What all nodes of a class have in common. -/
structure Shape where
  className : String
  parts : List String
  isPlaced : Bool
  deriving DecidableEq

namespace Shape

/-- Operators and uses, which have no parts. -/
def signs : List Shape :=
  ["Load", "Store", "Del", "And", "Or", "Add", "Sub", "Mult", "MatMult", "Div", "Mod", "Pow",
    "LShift", "RShift", "BitOr", "BitXor", "BitAnd", "FloorDiv", "Invert", "Not", "UAdd", "USub",
    "Eq", "NotEq", "Lt", "LtE", "Gt", "GtE", "Is", "IsNot", "In", "NotIn"].map (⟨·, [], false⟩)

/-- What has parts and no place of its own. -/
def groups : List Shape :=
  [⟨"Module", ["body", "type_ignores"], false⟩,
    ⟨"TypeIgnore", ["lineno", "tag"], false⟩,
    ⟨"arguments", ["posonlyargs", "args", "vararg", "kwonlyargs", "kw_defaults", "kwarg",
      "defaults"], false⟩,
    ⟨"comprehension", ["target", "iter", "ifs", "is_async"], false⟩,
    ⟨"withitem", ["context_expr", "optional_vars"], false⟩,
    ⟨"match_case", ["pattern", "guard", "body"], false⟩]

def expressions : List Shape :=
  [⟨"BoolOp", ["op", "values"], true⟩,
    ⟨"NamedExpr", ["target", "value"], true⟩,
    ⟨"BinOp", ["left", "op", "right"], true⟩,
    ⟨"UnaryOp", ["op", "operand"], true⟩,
    ⟨"Lambda", ["args", "body"], true⟩,
    ⟨"IfExp", ["test", "body", "orelse"], true⟩,
    ⟨"Dict", ["keys", "values"], true⟩,
    ⟨"Set", ["elts"], true⟩,
    ⟨"ListComp", ["elt", "generators"], true⟩,
    ⟨"SetComp", ["elt", "generators"], true⟩,
    ⟨"DictComp", ["key", "value", "generators"], true⟩,
    ⟨"GeneratorExp", ["elt", "generators"], true⟩,
    ⟨"Await", ["value"], true⟩,
    ⟨"Yield", ["value"], true⟩,
    ⟨"YieldFrom", ["value"], true⟩,
    ⟨"Compare", ["left", "ops", "comparators"], true⟩,
    ⟨"Call", ["func", "args", "keywords"], true⟩,
    ⟨"FormattedValue", ["value", "conversion", "format_spec"], true⟩,
    ⟨"JoinedStr", ["values"], true⟩,
    ⟨"Constant", ["value", "kind"], true⟩,
    ⟨"Attribute", ["value", "attr", "ctx"], true⟩,
    ⟨"Subscript", ["value", "slice", "ctx"], true⟩,
    ⟨"Starred", ["value", "ctx"], true⟩,
    ⟨"Name", ["id", "ctx"], true⟩,
    ⟨"List", ["elts", "ctx"], true⟩,
    ⟨"Tuple", ["elts", "ctx"], true⟩,
    ⟨"Slice", ["lower", "upper", "step"], true⟩]

/-- What expressions and statements have beside one another, with places of their own. -/
def details : List Shape :=
  [⟨"keyword", ["arg", "value"], true⟩,
    ⟨"arg", ["arg", "annotation", "type_comment"], true⟩,
    ⟨"alias", ["name", "asname"], true⟩,
    ⟨"ExceptHandler", ["type", "name", "body"], true⟩]

def patterns : List Shape :=
  [⟨"MatchValue", ["value"], true⟩,
    ⟨"MatchSingleton", ["value"], true⟩,
    ⟨"MatchSequence", ["patterns"], true⟩,
    ⟨"MatchMapping", ["keys", "patterns", "rest"], true⟩,
    ⟨"MatchClass", ["cls", "patterns", "kwd_attrs", "kwd_patterns"], true⟩,
    ⟨"MatchStar", ["name"], true⟩,
    ⟨"MatchAs", ["pattern", "name"], true⟩,
    ⟨"MatchOr", ["patterns"], true⟩]

def statements : List Shape :=
  [⟨"FunctionDef", ["name", "args", "body", "decorator_list", "returns", "type_comment"], true⟩,
    ⟨"AsyncFunctionDef", ["name", "args", "body", "decorator_list", "returns", "type_comment"],
      true⟩,
    ⟨"ClassDef", ["name", "bases", "keywords", "body", "decorator_list"], true⟩,
    ⟨"Return", ["value"], true⟩,
    ⟨"Delete", ["targets"], true⟩,
    ⟨"Assign", ["targets", "value", "type_comment"], true⟩,
    ⟨"AugAssign", ["target", "op", "value"], true⟩,
    ⟨"AnnAssign", ["target", "annotation", "value", "simple"], true⟩,
    ⟨"For", ["target", "iter", "body", "orelse", "type_comment"], true⟩,
    ⟨"AsyncFor", ["target", "iter", "body", "orelse", "type_comment"], true⟩,
    ⟨"While", ["test", "body", "orelse"], true⟩,
    ⟨"If", ["test", "body", "orelse"], true⟩,
    ⟨"With", ["items", "body", "type_comment"], true⟩,
    ⟨"AsyncWith", ["items", "body", "type_comment"], true⟩,
    ⟨"Match", ["subject", "cases"], true⟩,
    ⟨"Raise", ["exc", "cause"], true⟩,
    ⟨"Try", ["body", "handlers", "orelse", "finalbody"], true⟩,
    ⟨"TryStar", ["body", "handlers", "orelse", "finalbody"], true⟩,
    ⟨"Assert", ["test", "msg"], true⟩,
    ⟨"Import", ["names"], true⟩,
    ⟨"ImportFrom", ["module", "names", "level"], true⟩,
    ⟨"Global", ["names"], true⟩,
    ⟨"Nonlocal", ["names"], true⟩,
    ⟨"Expr", ["value"], true⟩,
    ⟨"Pass", [], true⟩,
    ⟨"Break", [], true⟩,
    ⟨"Continue", [], true⟩]

def all : List Shape := signs ++ groups ++ expressions ++ details ++ patterns ++ statements

end Shape

namespace Outline

/-- Every node within an outline has a shape from the list. -/
inductive Shaped : Outline → Prop
  | constant (c : Constant) : Shaped (.constant c)
  | many {items : List Outline} (each : ∀ o ∈ items, Shaped o) : Shaped (.many items)
  | node {className : String} {place : Option Span} {parts : List (String × Outline)}
      (known : ⟨className, parts.map Prod.fst, place.isSome⟩ ∈ Shape.all)
      (each : ∀ p ∈ parts, Shaped p.2) : Shaped (.node className place parts)

@[simp] theorem shaped_constant (c : Constant) : (Outline.constant c).Shaped := .constant c

theorem shaped_many {items : List Outline} :
    (Outline.many items).Shaped ↔ ∀ o ∈ items, o.Shaped := by
  constructor
  · intro h
    cases h with
    | many each => exact each
  · exact .many

@[simp] theorem shaped_nil : (Outline.many []).Shaped := .many (by simp)

@[simp] theorem shaped_cons {item : Outline} {rest : List Outline} :
    (Outline.many (item :: rest)).Shaped ↔ item.Shaped ∧ (Outline.many rest).Shaped := by
  simp only [shaped_many, List.forall_mem_cons]

@[simp] theorem shaped_map {α : Type} {f : α → Outline} {items : List α} :
    (Outline.many (items.map f)).Shaped ↔ ∀ a ∈ items, (f a).Shaped := by
  rw [shaped_many, List.forall_mem_map]

@[simp] theorem shaped_absent : absent.Shaped := .constant _

@[simp] theorem shaped_text (t : Text) : (text t).Shaped := .constant _

@[simp] theorem shaped_flag (b : Bool) : (flag b).Shaped := .constant _

@[simp] theorem shaped_optionalText (t : Option Text) : (optionalText t).Shaped := by
  cases t <;> exact .constant _

@[simp] theorem shaped_texts (ts : List Text) : (texts ts).Shaped := by
  simp [texts]

/-- Whether a shape is on the list is found by looking through it. -/
theorem shaped_node {className : String} {place : Option Span} {parts : List (String × Outline)}
    (known : decide (⟨className, parts.map Prod.fst, place.isSome⟩ ∈ Shape.all) = true)
    (each : ∀ p ∈ parts, p.2.Shaped) : (Outline.node className place parts).Shaped :=
  .node (of_decide_eq_true known) each

end Outline

open Outline (Shaped shaped_node)

@[simp] theorem Use.shaped (u : Use) : u.outline.Shaped := by
  cases u <;> exact shaped_node rfl (by simp)

@[simp] theorem BoolOp.shaped (o : BoolOp) : o.outline.Shaped := by
  cases o <;> exact shaped_node rfl (by simp)

@[simp] theorem BinaryOp.shaped (o : BinaryOp) : o.outline.Shaped := by
  cases o <;> exact shaped_node rfl (by simp)

@[simp] theorem UnaryOp.shaped (o : UnaryOp) : o.outline.Shaped := by
  cases o <;> exact shaped_node rfl (by simp)

@[simp] theorem Comparison.shaped (o : Comparison) : o.outline.Shaped := by
  cases o <;> exact shaped_node rfl (by simp)

mutual

theorem Expr.shaped (e : Expr) : e.outline.Shaped := by
  match e with
  | .boolOp _ _ values => exact shaped_node rfl (by simp [exprs_shaped values])
  | .named _ target value => exact shaped_node rfl (by simp [target.shaped, value.shaped])
  | .binary _ left _ right => exact shaped_node rfl (by simp [left.shaped, right.shaped])
  | .unary _ _ operand => exact shaped_node rfl (by simp [operand.shaped])
  | .lambda _ parameters body => exact shaped_node rfl (by simp [parameters.shaped, body.shaped])
  | .conditional _ test body orElse =>
      exact shaped_node rfl (by simp [test.shaped, body.shaped, orElse.shaped])
  | .dict _ keys values =>
      exact shaped_node rfl (by simp [optionals_shaped keys, exprs_shaped values])
  | .set _ items => exact shaped_node rfl (by simp [exprs_shaped items])
  | .listComp _ item generators =>
      exact shaped_node rfl (by simp [item.shaped, comprehensions_shaped generators])
  | .setComp _ item generators =>
      exact shaped_node rfl (by simp [item.shaped, comprehensions_shaped generators])
  | .dictComp _ key value generators =>
      exact shaped_node rfl (by simp [key.shaped, value.shaped, comprehensions_shaped generators])
  | .generator _ item generators =>
      exact shaped_node rfl (by simp [item.shaped, comprehensions_shaped generators])
  | .await _ value => exact shaped_node rfl (by simp [value.shaped])
  | .yield _ value => exact shaped_node rfl (by simp [optional_shaped value])
  | .yieldFrom _ value => exact shaped_node rfl (by simp [value.shaped])
  | .compare _ left _ rights => exact shaped_node rfl (by simp [left.shaped, exprs_shaped rights])
  | .call _ function arguments keywords =>
      exact shaped_node rfl
        (by simp [function.shaped, exprs_shaped arguments, keywords_shaped keywords])
  | .formatted _ value _ spec =>
      exact shaped_node rfl (by simp [value.shaped, optional_shaped spec])
  | .joined _ parts => exact shaped_node rfl (by simp [exprs_shaped parts])
  | .constant _ _ marked => cases marked <;> exact shaped_node rfl (by simp)
  | .member _ value _ _ => exact shaped_node rfl (by simp [value.shaped])
  | .subscript _ value index _ => exact shaped_node rfl (by simp [value.shaped, index.shaped])
  | .starred _ value _ => exact shaped_node rfl (by simp [value.shaped])
  | .name .. => exact shaped_node rfl (by simp)
  | .list _ items _ => exact shaped_node rfl (by simp [exprs_shaped items])
  | .tuple _ items _ => exact shaped_node rfl (by simp [exprs_shaped items])
  | .slice _ lower upper step =>
      exact shaped_node rfl
        (by simp [optional_shaped lower, optional_shaped upper, optional_shaped step])

theorem exprs_shaped (es : List Expr) : (Outline.many (exprs es)).Shaped := by
  match es with
  | [] => exact Outline.shaped_nil
  | e :: rest =>
      rw [exprs, Outline.shaped_cons]
      exact ⟨e.shaped, exprs_shaped rest⟩

theorem optional_shaped (e : Option Expr) : (optional e).Shaped := by
  match e with
  | none => exact .constant _
  | some e => exact e.shaped

theorem optionals_shaped (es : List (Option Expr)) : (Outline.many (optionals es)).Shaped := by
  match es with
  | [] => exact Outline.shaped_nil
  | e :: rest =>
      rw [optionals, Outline.shaped_cons]
      exact ⟨optional_shaped e, optionals_shaped rest⟩

theorem Comprehension.shaped (c : Comprehension) : c.outline.Shaped := by
  match c with
  | .mk target iterable conditions _ =>
      exact shaped_node rfl (by simp [target.shaped, iterable.shaped, exprs_shaped conditions])

theorem comprehensions_shaped (cs : List Comprehension) :
    (Outline.many (comprehensions cs)).Shaped := by
  match cs with
  | [] => exact Outline.shaped_nil
  | c :: rest =>
      rw [comprehensions, Outline.shaped_cons]
      exact ⟨c.shaped, comprehensions_shaped rest⟩

theorem Keyword.shaped (k : Keyword) : k.outline.Shaped := by
  match k with
  | .mk _ _ value => exact shaped_node rfl (by simp [value.shaped])

theorem keywords_shaped (ks : List Keyword) : (Outline.many (keywordOutlines ks)).Shaped := by
  match ks with
  | [] => exact Outline.shaped_nil
  | k :: rest =>
      rw [keywordOutlines, Outline.shaped_cons]
      exact ⟨k.shaped, keywords_shaped rest⟩

theorem Parameter.shaped (p : Parameter) : p.outline.Shaped := by
  match p with
  | .mk _ _ typeHint _ => exact shaped_node rfl (by simp [optional_shaped typeHint])

theorem parameters_shaped (ps : List Parameter) : (Outline.many (parameterOutlines ps)).Shaped := by
  match ps with
  | [] => exact Outline.shaped_nil
  | p :: rest =>
      rw [parameterOutlines, Outline.shaped_cons]
      exact ⟨p.shaped, parameters_shaped rest⟩

theorem optionalParameter_shaped (p : Option Parameter) : (optionalParameter p).Shaped := by
  match p with
  | none => exact .constant _
  | some p => exact p.shaped

theorem Parameters.shaped (p : Parameters) : p.outline.Shaped := by
  match p with
  | .mk positionalOnly positional rest keywordOnly keywordDefaults keywordRest defaults =>
      refine shaped_node rfl ?_
      simp [parameters_shaped positionalOnly, parameters_shaped positional,
        optionalParameter_shaped rest, parameters_shaped keywordOnly,
        optionals_shaped keywordDefaults, optionalParameter_shaped keywordRest,
        exprs_shaped defaults]

end

mutual

theorem Pattern.shaped (p : Pattern) : p.outline.Shaped := by
  match p with
  | .value _ value => exact shaped_node rfl (by simp [value.shaped])
  | .singleton .. => exact shaped_node rfl (by simp)
  | .sequence _ patterns => exact shaped_node rfl (by simp [patterns_shaped patterns])
  | .mapping _ keys patterns _ =>
      exact shaped_node rfl (by simp [exprs_shaped keys, patterns_shaped patterns])
  | .ofClass _ cls patterns _ namedPatterns =>
      exact shaped_node rfl
        (by simp [cls.shaped, patterns_shaped patterns, patterns_shaped namedPatterns])
  | .star .. => exact shaped_node rfl (by simp)
  | .capture _ pattern _ => exact shaped_node rfl (by simp [optionalPattern_shaped pattern])
  | .or _ patterns => exact shaped_node rfl (by simp [patterns_shaped patterns])

theorem patterns_shaped (ps : List Pattern) : (Outline.many (patternOutlines ps)).Shaped := by
  match ps with
  | [] => exact Outline.shaped_nil
  | p :: rest =>
      rw [patternOutlines, Outline.shaped_cons]
      exact ⟨p.shaped, patterns_shaped rest⟩

theorem optionalPattern_shaped (p : Option Pattern) : (optionalPattern p).Shaped := by
  match p with
  | none => exact .constant _
  | some p => exact p.shaped

end

@[simp] theorem Alias.shaped (a : Alias) : a.outline.Shaped :=
  shaped_node rfl (by simp)

@[simp] theorem WithItem.shaped (w : WithItem) : w.outline.Shaped :=
  shaped_node rfl (by simp [w.context.shaped, optional_shaped w.target])

mutual

theorem Stmt.shaped (s : Stmt) : s.outline.Shaped := by
  match s with
  | .functionDef _ isAsync _ parameters body decorators returns _ =>
      cases isAsync <;> refine shaped_node rfl ?_ <;>
        simp [parameters.shaped, stmts_shaped body, exprs_shaped decorators,
          optional_shaped returns]
  | .classDef _ _ bases keywords body decorators =>
      refine shaped_node rfl ?_
      simp [exprs_shaped bases, keywords_shaped keywords, stmts_shaped body,
        exprs_shaped decorators]
  | .returning _ value => exact shaped_node rfl (by simp [optional_shaped value])
  | .delete _ targets => exact shaped_node rfl (by simp [exprs_shaped targets])
  | .assign _ targets value _ =>
      exact shaped_node rfl (by simp [exprs_shaped targets, value.shaped])
  | .augAssign _ target _ value => exact shaped_node rfl (by simp [target.shaped, value.shaped])
  | .annAssign _ target typeHint value _ =>
      exact shaped_node rfl (by simp [target.shaped, typeHint.shaped, optional_shaped value])
  | .forLoop _ isAsync target iterable body orElse _ =>
      cases isAsync <;> refine shaped_node rfl ?_ <;>
        simp [target.shaped, iterable.shaped, stmts_shaped body, stmts_shaped orElse]
  | .whileLoop _ test body orElse =>
      exact shaped_node rfl (by simp [test.shaped, stmts_shaped body, stmts_shaped orElse])
  | .conditional _ test body orElse =>
      exact shaped_node rfl (by simp [test.shaped, stmts_shaped body, stmts_shaped orElse])
  | .within _ isAsync items body _ =>
      cases isAsync <;> exact shaped_node rfl (by simp [stmts_shaped body])
  | .matching _ subject cases =>
      exact shaped_node rfl (by simp [subject.shaped, cases_shaped cases])
  | .raise _ exception cause =>
      exact shaped_node rfl (by simp [optional_shaped exception, optional_shaped cause])
  | .trying _ isStar body handlers orElse finalBody =>
      cases isStar <;> refine shaped_node rfl ?_ <;>
        simp [stmts_shaped body, handlers_shaped handlers, stmts_shaped orElse,
          stmts_shaped finalBody]
  | .assert _ test message => exact shaped_node rfl (by simp [test.shaped, optional_shaped message])
  | .importing .. => exact shaped_node rfl (by simp)
  | .importFrom .. => exact shaped_node rfl (by simp)
  | .global .. => exact shaped_node rfl (by simp)
  | .nonlocal .. => exact shaped_node rfl (by simp)
  | .expr _ value => exact shaped_node rfl (by simp [value.shaped])
  | .pass _ => exact shaped_node rfl (by simp)
  | .breaking _ => exact shaped_node rfl (by simp)
  | .continuing _ => exact shaped_node rfl (by simp)

theorem stmts_shaped (ss : List Stmt) : (Outline.many (stmts ss)).Shaped := by
  match ss with
  | [] => exact Outline.shaped_nil
  | s :: rest =>
      rw [stmts, Outline.shaped_cons]
      exact ⟨s.shaped, stmts_shaped rest⟩

theorem Handler.shaped (h : Handler) : h.outline.Shaped := by
  match h with
  | .mk _ exception _ body =>
      exact shaped_node rfl (by simp [optional_shaped exception, stmts_shaped body])

theorem handlers_shaped (hs : List Handler) : (Outline.many (handlerOutlines hs)).Shaped := by
  match hs with
  | [] => exact Outline.shaped_nil
  | h :: rest =>
      rw [handlerOutlines, Outline.shaped_cons]
      exact ⟨h.shaped, handlers_shaped rest⟩

theorem MatchCase.shaped (c : MatchCase) : c.outline.Shaped := by
  match c with
  | .mk pattern guard body =>
      exact shaped_node rfl (by simp [pattern.shaped, optional_shaped guard, stmts_shaped body])

theorem cases_shaped (cs : List MatchCase) : (Outline.many (caseOutlines cs)).Shaped := by
  match cs with
  | [] => exact Outline.shaped_nil
  | c :: rest =>
      rw [caseOutlines, Outline.shaped_cons]
      exact ⟨c.shaped, cases_shaped rest⟩

end

@[simp] theorem TypeIgnore.shaped (t : TypeIgnore) : t.outline.Shaped :=
  shaped_node rfl (by simp)

/-- Every node of every tree has a shape from the list, at any depth. -/
theorem Module.shaped (m : Module) : m.outline.Shaped :=
  shaped_node rfl (by simp [stmts_shaped m.body])

end SourceLedger.Syntax
