import SourceLedger.Syntax.Tree

/-!
# Outlines

The uniform view of a syntax tree: a node has a class name and named parts, and each part is a
node, a list or a constant. What does not depend on the kind of node is said of outlines.
-/

namespace SourceLedger.Syntax

inductive Outline
  | constant (value : Constant)
  | many (items : List Outline)
  /-- `place` is the span of a node that has one. -/
  | node (className : String) (place : Option Span) (parts : List (String × Outline))

namespace Outline

def absent : Outline := .constant .none

def text (t : Text) : Outline := .constant (.text t)

def optionalText : Option Text → Outline
  | none => absent
  | some t => text t

def texts (ts : List Text) : Outline := .many (ts.map text)

def flag (b : Bool) : Outline := .constant (.int (if b then 1 else 0))

/-- A node without parts or place. -/
def sign (className : String) : Outline := .node className none []

end Outline

def Use.outline : Use → Outline
  | load => .sign "Load"
  | store => .sign "Store"
  | delete => .sign "Del"

def BoolOp.outline : BoolOp → Outline
  | and => .sign "And"
  | or => .sign "Or"

def BinaryOp.outline : BinaryOp → Outline
  | add => .sign "Add"
  | sub => .sign "Sub"
  | mult => .sign "Mult"
  | matMult => .sign "MatMult"
  | div => .sign "Div"
  | mod => .sign "Mod"
  | pow => .sign "Pow"
  | lShift => .sign "LShift"
  | rShift => .sign "RShift"
  | bitOr => .sign "BitOr"
  | bitXor => .sign "BitXor"
  | bitAnd => .sign "BitAnd"
  | floorDiv => .sign "FloorDiv"

def UnaryOp.outline : UnaryOp → Outline
  | invert => .sign "Invert"
  | not => .sign "Not"
  | plus => .sign "UAdd"
  | minus => .sign "USub"

def Comparison.outline : Comparison → Outline
  | eq => .sign "Eq"
  | notEq => .sign "NotEq"
  | lt => .sign "Lt"
  | ltE => .sign "LtE"
  | gt => .sign "Gt"
  | gtE => .sign "GtE"
  | is => .sign "Is"
  | isNot => .sign "IsNot"
  | isIn => .sign "In"
  | notIn => .sign "NotIn"

mutual

def Expr.outline : Expr → Outline
  | .boolOp s op values =>
    .node "BoolOp" s [("op", op.outline), ("values", .many (exprs values))]
  | .named s target value =>
    .node "NamedExpr" s [("target", target.outline), ("value", value.outline)]
  | .binary s left op right =>
    .node "BinOp" s [("left", left.outline), ("op", op.outline), ("right", right.outline)]
  | .unary s op operand =>
    .node "UnaryOp" s [("op", op.outline), ("operand", operand.outline)]
  | .lambda s parameters body =>
    .node "Lambda" s [("args", parameters.outline), ("body", body.outline)]
  | .conditional s test body orElse =>
    .node "IfExp" s
      [("test", test.outline), ("body", body.outline), ("orelse", orElse.outline)]
  | .dict s keys values =>
    .node "Dict" s [("keys", .many (optionals keys)), ("values", .many (exprs values))]
  | .set s items => .node "Set" s [("elts", .many (exprs items))]
  | .listComp s item generators =>
    .node "ListComp" s
      [("elt", item.outline), ("generators", .many (comprehensions generators))]
  | .setComp s item generators =>
    .node "SetComp" s
      [("elt", item.outline), ("generators", .many (comprehensions generators))]
  | .dictComp s key value generators =>
    .node "DictComp" s
      [("key", key.outline), ("value", value.outline),
        ("generators", .many (comprehensions generators))]
  | .generator s item generators =>
    .node "GeneratorExp" s
      [("elt", item.outline), ("generators", .many (comprehensions generators))]
  | .await s value => .node "Await" s [("value", value.outline)]
  | .yield s value => .node "Yield" s [("value", optional value)]
  | .yieldFrom s value => .node "YieldFrom" s [("value", value.outline)]
  | .compare s left ops rights =>
    .node "Compare" s
      [("left", left.outline), ("ops", .many (ops.map Comparison.outline)),
        ("comparators", .many (exprs rights))]
  | .call s function arguments keywords =>
    .node "Call" s
      [("func", function.outline), ("args", .many (exprs arguments)),
        ("keywords", .many (keywordOutlines keywords))]
  | .formatted s value conversion spec =>
    .node "FormattedValue" s
      [("value", value.outline), ("conversion", .constant (.int conversion)),
        ("format_spec", optional spec)]
  | .joined s parts => .node "JoinedStr" s [("values", .many (exprs parts))]
  | .constant s value marked =>
    .node "Constant" s
      [("value", .constant value), ("kind", if marked then .text "u" else .absent)]
  | .member s value name use =>
    .node "Attribute" s
      [("value", value.outline), ("attr", .text name), ("ctx", use.outline)]
  | .subscript s value index use =>
    .node "Subscript" s
      [("value", value.outline), ("slice", index.outline), ("ctx", use.outline)]
  | .starred s value use =>
    .node "Starred" s [("value", value.outline), ("ctx", use.outline)]
  | .name s id use => .node "Name" s [("id", .text id), ("ctx", use.outline)]
  | .list s items use =>
    .node "List" s [("elts", .many (exprs items)), ("ctx", use.outline)]
  | .tuple s items use =>
    .node "Tuple" s [("elts", .many (exprs items)), ("ctx", use.outline)]
  | .slice s lower upper step =>
    .node "Slice" s
      [("lower", optional lower), ("upper", optional upper), ("step", optional step)]

def exprs : List Expr → List Outline
  | [] => []
  | e :: es => e.outline :: exprs es

def optional : Option Expr → Outline
  | none => .absent
  | some e => e.outline

def optionals : List (Option Expr) → List Outline
  | [] => []
  | e :: es => optional e :: optionals es

def Comprehension.outline : Comprehension → Outline
  | .mk target iterable conditions isAsync =>
    .node "comprehension" none
      [("target", target.outline), ("iter", iterable.outline),
        ("ifs", .many (exprs conditions)), ("is_async", .flag isAsync)]

def comprehensions : List Comprehension → List Outline
  | [] => []
  | c :: cs => c.outline :: comprehensions cs

def Keyword.outline : Keyword → Outline
  | .mk s name value =>
    .node "keyword" s [("arg", .optionalText name), ("value", value.outline)]

def keywordOutlines : List Keyword → List Outline
  | [] => []
  | k :: ks => k.outline :: keywordOutlines ks

def Parameter.outline : Parameter → Outline
  | .mk s name typeHint typeComment =>
    .node "arg" s
      [("arg", .text name), ("annotation", optional typeHint),
        ("type_comment", .optionalText typeComment)]

def parameterOutlines : List Parameter → List Outline
  | [] => []
  | p :: ps => p.outline :: parameterOutlines ps

def optionalParameter : Option Parameter → Outline
  | none => .absent
  | some p => p.outline

def Parameters.outline : Parameters → Outline
  | .mk positionalOnly positional rest keywordOnly keywordDefaults keywordRest defaults =>
    .node "arguments" none
      [("posonlyargs", .many (parameterOutlines positionalOnly)),
        ("args", .many (parameterOutlines positional)), ("vararg", optionalParameter rest),
        ("kwonlyargs", .many (parameterOutlines keywordOnly)),
        ("kw_defaults", .many (optionals keywordDefaults)),
        ("kwarg", optionalParameter keywordRest), ("defaults", .many (exprs defaults))]

end

mutual

def Pattern.outline : Pattern → Outline
  | .value s value => .node "MatchValue" s [("value", value.outline)]
  | .singleton s value => .node "MatchSingleton" s [("value", .constant value)]
  | .sequence s patterns =>
    .node "MatchSequence" s [("patterns", .many (patternOutlines patterns))]
  | .mapping s keys patterns rest =>
    .node "MatchMapping" s
      [("keys", .many (exprs keys)), ("patterns", .many (patternOutlines patterns)),
        ("rest", .optionalText rest)]
  | .ofClass s cls patterns names namedPatterns =>
    .node "MatchClass" s
      [("cls", cls.outline), ("patterns", .many (patternOutlines patterns)),
        ("kwd_attrs", .texts names), ("kwd_patterns", .many (patternOutlines namedPatterns))]
  | .star s name => .node "MatchStar" s [("name", .optionalText name)]
  | .capture s pattern name =>
    .node "MatchAs" s [("pattern", optionalPattern pattern), ("name", .optionalText name)]
  | .or s patterns => .node "MatchOr" s [("patterns", .many (patternOutlines patterns))]

def patternOutlines : List Pattern → List Outline
  | [] => []
  | p :: ps => p.outline :: patternOutlines ps

def optionalPattern : Option Pattern → Outline
  | none => .absent
  | some p => p.outline

end

def Alias.outline (a : Alias) : Outline :=
  .node "alias" a.span [("name", .text a.name), ("asname", .optionalText a.asName)]

def WithItem.outline (w : WithItem) : Outline :=
  .node "withitem" none
    [("context_expr", w.context.outline), ("optional_vars", optional w.target)]

mutual

def Stmt.outline : Stmt → Outline
  | .functionDef s isAsync name parameters body decorators returns typeComment =>
    .node (if isAsync then "AsyncFunctionDef" else "FunctionDef") s
      [("name", .text name), ("args", parameters.outline), ("body", .many (stmts body)),
        ("decorator_list", .many (exprs decorators)), ("returns", optional returns),
        ("type_comment", .optionalText typeComment)]
  | .classDef s name bases keywords body decorators =>
    .node "ClassDef" s
      [("name", .text name), ("bases", .many (exprs bases)),
        ("keywords", .many (keywordOutlines keywords)), ("body", .many (stmts body)),
        ("decorator_list", .many (exprs decorators))]
  | .returning s value => .node "Return" s [("value", optional value)]
  | .delete s targets => .node "Delete" s [("targets", .many (exprs targets))]
  | .assign s targets value typeComment =>
    .node "Assign" s
      [("targets", .many (exprs targets)), ("value", value.outline),
        ("type_comment", .optionalText typeComment)]
  | .augAssign s target op value =>
    .node "AugAssign" s
      [("target", target.outline), ("op", op.outline), ("value", value.outline)]
  | .annAssign s target typeHint value isSimple =>
    .node "AnnAssign" s
      [("target", target.outline), ("annotation", typeHint.outline),
        ("value", optional value), ("simple", .flag isSimple)]
  | .forLoop s isAsync target iterable body orElse typeComment =>
    .node (if isAsync then "AsyncFor" else "For") s
      [("target", target.outline), ("iter", iterable.outline), ("body", .many (stmts body)),
        ("orelse", .many (stmts orElse)), ("type_comment", .optionalText typeComment)]
  | .whileLoop s test body orElse =>
    .node "While" s
      [("test", test.outline), ("body", .many (stmts body)),
        ("orelse", .many (stmts orElse))]
  | .conditional s test body orElse =>
    .node "If" s
      [("test", test.outline), ("body", .many (stmts body)),
        ("orelse", .many (stmts orElse))]
  | .within s isAsync items body typeComment =>
    .node (if isAsync then "AsyncWith" else "With") s
      [("items", .many (items.map WithItem.outline)), ("body", .many (stmts body)),
        ("type_comment", .optionalText typeComment)]
  | .matching s subject cases =>
    .node "Match" s [("subject", subject.outline), ("cases", .many (caseOutlines cases))]
  | .raise s exception cause =>
    .node "Raise" s [("exc", optional exception), ("cause", optional cause)]
  | .trying s isStar body handlers orElse finalBody =>
    .node (if isStar then "TryStar" else "Try") s
      [("body", .many (stmts body)), ("handlers", .many (handlerOutlines handlers)),
        ("orelse", .many (stmts orElse)), ("finalbody", .many (stmts finalBody))]
  | .assert s test message =>
    .node "Assert" s [("test", test.outline), ("msg", optional message)]
  | .importing s names => .node "Import" s [("names", .many (names.map Alias.outline))]
  | .importFrom s origin names level =>
    .node "ImportFrom" s
      [("module", .optionalText origin), ("names", .many (names.map Alias.outline)),
        ("level", .constant (.int level))]
  | .global s names => .node "Global" s [("names", .texts names)]
  | .nonlocal s names => .node "Nonlocal" s [("names", .texts names)]
  | .expr s value => .node "Expr" s [("value", value.outline)]
  | .pass s => .node "Pass" s []
  | .breaking s => .node "Break" s []
  | .continuing s => .node "Continue" s []

def stmts : List Stmt → List Outline
  | [] => []
  | s :: ss => s.outline :: stmts ss

/-- The exception is a part of a handler under the name `type`. -/
def Handler.outline : Handler → Outline
  | .mk s exception name body =>
    .node "ExceptHandler" s
      [("type", optional exception), ("name", .optionalText name),
        ("body", .many (stmts body))]

def handlerOutlines : List Handler → List Outline
  | [] => []
  | h :: hs => h.outline :: handlerOutlines hs

def MatchCase.outline : MatchCase → Outline
  | .mk pattern guard body =>
    .node "match_case" none
      [("pattern", pattern.outline), ("guard", optional guard), ("body", .many (stmts body))]

def caseOutlines : List MatchCase → List Outline
  | [] => []
  | c :: cs => c.outline :: caseOutlines cs

end

def TypeIgnore.outline (t : TypeIgnore) : Outline :=
  .node "TypeIgnore" none [("lineno", .constant (.int t.line)), ("tag", .text t.tag)]

def Module.outline (m : Module) : Outline :=
  .node "Module" none
    [("body", .many (stmts m.body)),
      ("type_ignores", .many (m.typeIgnores.map TypeIgnore.outline))]

end SourceLedger.Syntax
