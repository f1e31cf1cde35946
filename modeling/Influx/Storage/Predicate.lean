import Influx.Flux.Semantic
import Influx.Storage.Datatypes
import Influx.Go.Basic

/-!
# The storage predicate translator

`query/stdlib/influxdata/influxdb/storage_predicate.go`: `ToStoragePredicate`
turns the body of a `filter` function, a Flux expression over one bound row
variable, into a storage predicate tree; `mergePredicates` joins several
predicates with one logical operator.

The translator accepts a fragment of Flux: `and`/`or` over accepted operands,
the nine comparison operators over accepted operands, five kinds of literal, and
member expressions on the bound variable.  Everything else is an error, however
deep in the tree it sits.

## Main definitions

* `toComparisonOperator`, `toStoragePredicateHelper`, `toStoragePredicate`,
  `mergePredicates` — the Go functions.
* `inFragment` — the accepted fragment `F_x`, stated node by node.

## Main results

* `toStoragePredicate_error_iff` — the translator fails exactly outside the
  fragment, and what it returns is a well-formed tree.
-/

namespace Influx
namespace Storage

open Flux Datatypes

/-- The errors `storage_predicate.go` returns. -/
inductive PredicateError
  /-- `errors.New(text)`. -/
  | new (text : String)
  /-- `errors.Wrap(cause, context)`, whose message is `context: cause`. -/
  | wrap (cause : PredicateError) (context : String)
  /-- `fmt.Errorf("unknown logical operator %v", op)`. -/
  | unknownLogicalOperator (op : LogicalOperatorKind)
  /-- `fmt.Errorf("unknown operator %v", o)`. -/
  | unknownOperator (op : OperatorKind)
  /-- `fmt.Errorf("unknown object %q", n.Object)`. -/
  | unknownObject (object : Expression)
  /-- `fmt.Errorf("unsupported semantic expression type %T", n)`. -/
  | unsupportedExpressionType (typeName : String)
  deriving DecidableEq, Repr

/-! ### The translator -/

/-- `toComparisonOperator`: the table from Flux binary operators to storage
comparisons. -/
def toComparisonOperator : OperatorKind → Except PredicateError NodeComparison
  | .equalOperator => .ok .comparisonEqual
  | .notEqualOperator => .ok .comparisonNotEqual
  | .regexpMatchOperator => .ok .comparisonRegex
  | .notRegexpMatchOperator => .ok .comparisonNotRegex
  | .startsWithOperator => .ok .comparisonStartsWith
  | .lessThanOperator => .ok .comparisonLess
  | .lessThanEqualOperator => .ok .comparisonLessEqual
  | .greaterThanOperator => .ok .comparisonGreater
  | .greaterThanEqualOperator => .ok .comparisonGreaterEqual
  | o => .error (.unknownOperator o)

/-- A `LogicalExpression` node over two children. -/
def logicalNode (value : NodeLogical) (left right : Node) : Node :=
  .mk .logicalExpression (.logical value) [left, right]

/-- The node for the member expression `objectName.property`: the three
reserved properties become fixed references, any other a tag reference keyed by
its name, whose bytes Go copies as they are. -/
def memberNode (property : String) : Node :=
  if property = fieldKey then .mk .tagRef (.tagRefValue fieldKeyTagKey) []
  else if property = measurementKey then .mk .tagRef (.tagRefValue measurementTagKey) []
  else if property = valueKey then .mk .fieldRef (.fieldRefValue valueKey) []
  else .mk .tagRef (.tagRefValue (Go.bytes property)) []

/-- `toStoragePredicateHelper`: both sides of a logical or binary expression
are translated, left first, before its operator is looked at. -/
def toStoragePredicateHelper : Expression → String → Except PredicateError Node
  | .logicalExpression op l r, objectName => do
    let left ← (toStoragePredicateHelper l objectName).mapError (.wrap · "left hand side")
    let right ← (toStoragePredicateHelper r objectName).mapError (.wrap · "right hand side")
    match op with
    | .andOperator => .ok (logicalNode .logicalAnd left right)
    | .orOperator => .ok (logicalNode .logicalOr left right)
    | .unknown _ => .error (.unknownLogicalOperator op)
  | .binaryExpression op l r, objectName => do
    let left ← (toStoragePredicateHelper l objectName).mapError (.wrap · "left hand side")
    let right ← (toStoragePredicateHelper r objectName).mapError (.wrap · "right hand side")
    let op ← toComparisonOperator op
    .ok (.mk .comparisonExpression (.comparison op) [left, right])
  | .stringLiteral v, _ => .ok (.mk .literal (.stringValue v) [])
  | .integerLiteral v, _ => .ok (.mk .literal (.integerValue v) [])
  | .booleanLiteral v, _ => .ok (.mk .literal (.booleanValue v) [])
  | .floatLiteral v, _ => .ok (.mk .literal (.floatValue v) [])
  | .regexpLiteral v, _ => .ok (.mk .literal (.regexValue v) [])
  | .memberExpression object property, objectName =>
    match object with
    | .identifierExpression name =>
      if name = objectName then .ok (memberNode property) else .error (.unknownObject object)
    | _ => .error (.unknownObject object)
  | .durationLiteral _, _ => .error (.new "duration literals not supported in storage predicates")
  | .dateTimeLiteral _, _ => .error (.new "time literals not supported in storage predicates")
  | n, _ => .error (.unsupportedExpressionType n.typeName)

/-- `ToStoragePredicate`. -/
def toStoragePredicate (n : Expression) (objectName : String) :
    Except PredicateError Predicate := do
  let root ← toStoragePredicateHelper n objectName
  .ok { root }

/-- The loop of `mergePredicates`, nesting backwards: with `i` iterations left
the next index is `i - 1`, and each iteration puts `predicates[i].Root` in front
of the tree built so far. -/
def nestBackwards (value : NodeLogical) (predicates : List Predicate) : Nat → Node → Node
  | 0, root => root
  | i + 1, root =>
    nestBackwards value predicates i (logicalNode value (predicates.getD i default).root root)

/-- `mergePredicates`: the loop runs `i` from `len(predicates) - 2` down to `0`,
starting from the last predicate's root. -/
def mergePredicates (op : LogicalOperatorKind) (predicates : List Predicate) :
    Except PredicateError Predicate := do
  if predicates.length = 0 then .error (.new "at least one predicate is needed") else
  let value ← match op with
    | .andOperator => .ok .logicalAnd
    | .orOperator => .ok .logicalOr
    | .unknown _ => .error (.unknownLogicalOperator op)
  let root := (predicates.getD (predicates.length - 1) default).root
  .ok { root := nestBackwards value predicates (predicates.length - 1) root }

/-! ### The accepted fragment -/

/-- The comparison operators of the fragment: `==`, `!=`, `=~`, `!~`,
`startsWith`, `<`, `<=`, `>`, `>=`. -/
def isComparisonOperator : OperatorKind → Bool
  | .equalOperator | .notEqualOperator | .regexpMatchOperator | .notRegexpMatchOperator
  | .startsWithOperator | .lessThanOperator | .lessThanEqualOperator
  | .greaterThanOperator | .greaterThanEqualOperator => true
  | _ => false

/-- The logical operators of the fragment. -/
def isAndOr : LogicalOperatorKind → Bool
  | .andOperator | .orOperator => true
  | .unknown _ => false

/-- `inFragment objectName e`: every node of `e` lies in the fragment `F_x` for
the bound variable `x = objectName`. -/
def inFragment (objectName : String) : Expression → Bool
  | .logicalExpression op l r =>
    isAndOr op && inFragment objectName l && inFragment objectName r
  | .binaryExpression op l r =>
    isComparisonOperator op && inFragment objectName l && inFragment objectName r
  | .stringLiteral _ | .integerLiteral _ | .floatLiteral _ | .booleanLiteral _
  | .regexpLiteral _ => true
  | .memberExpression (.identifierExpression name) _ => name == objectName
  | _ => false

theorem toComparisonOperator_ok_iff (o : OperatorKind) :
    (∃ c, toComparisonOperator o = .ok c) ↔ isComparisonOperator o = true := by
  cases o <;> simp [toComparisonOperator, isComparisonOperator]

/-- The translator succeeds exactly on the fragment. -/
theorem toStoragePredicateHelper_ok_iff (x : String) (e : Expression) :
    (∃ n, toStoragePredicateHelper e x = .ok n) ↔ inFragment x e = true := by
  induction e with
  | logicalExpression op l r ihl ihr =>
    simp only [toStoragePredicateHelper, inFragment, Bool.and_eq_true, ← ihl, ← ihr]
    cases toStoragePredicateHelper l x <;> cases toStoragePredicateHelper r x <;>
      cases op <;> simp [isAndOr]
  | binaryExpression op l r ihl ihr =>
    simp only [toStoragePredicateHelper, inFragment, Bool.and_eq_true, ← ihl, ← ihr,
      ← toComparisonOperator_ok_iff]
    cases toStoragePredicateHelper l x <;> cases toStoragePredicateHelper r x <;>
      cases toComparisonOperator op <;> simp
  | memberExpression object property =>
    cases object with
    | identifierExpression name =>
      by_cases h : name = x <;> simp [toStoragePredicateHelper, inFragment, h]
    | _ => simp [toStoragePredicateHelper, inFragment]
  | _ => simp [toStoragePredicateHelper, inFragment]

/-! ### What a successful translation is made of -/

section Inversion

variable {x property : String} {op : LogicalOperatorKind} {bop : OperatorKind}
  {l r object : Expression} {n : Node}

theorem toStoragePredicateHelper_logicalExpression_ok
    (h : toStoragePredicateHelper (.logicalExpression op l r) x = .ok n) :
    ∃ a b, toStoragePredicateHelper l x = .ok a ∧ toStoragePredicateHelper r x = .ok b ∧
      (op = .andOperator ∧ n = logicalNode .logicalAnd a b ∨
        op = .orOperator ∧ n = logicalNode .logicalOr a b) := by
  simp only [toStoragePredicateHelper] at h
  cases hl : toStoragePredicateHelper l x <;> cases hr : toStoragePredicateHelper r x <;>
    simp only [hl, hr, Except.mapError_ok, Except.mapError_error, Except.bind_ok,
      Except.bind_error, reduceCtorEq] at h
  cases op <;> cases h <;> simp

theorem toStoragePredicateHelper_binaryExpression_ok
    (h : toStoragePredicateHelper (.binaryExpression bop l r) x = .ok n) :
    ∃ a b c, toStoragePredicateHelper l x = .ok a ∧ toStoragePredicateHelper r x = .ok b ∧
      toComparisonOperator bop = .ok c ∧ n = .mk .comparisonExpression (.comparison c) [a, b] := by
  simp only [toStoragePredicateHelper] at h
  cases hl : toStoragePredicateHelper l x <;> cases hr : toStoragePredicateHelper r x <;>
    cases hc : toComparisonOperator bop <;>
    simp only [hl, hr, hc, Except.mapError_ok, Except.mapError_error, Except.bind_ok,
      Except.bind_error, reduceCtorEq] at h
  cases h
  exact ⟨_, _, _, rfl, rfl, rfl, rfl⟩

theorem toStoragePredicateHelper_memberExpression_ok
    (h : toStoragePredicateHelper (.memberExpression object property) x = .ok n) :
    object = .identifierExpression x ∧ n = memberNode property := by
  cases object <;> simp only [toStoragePredicateHelper, reduceCtorEq] at h
  split at h
  · cases h; simp [*]
  · cases h

end Inversion

theorem memberNode_wellFormed (property : String) : (memberNode property).wellFormed = true := by
  unfold memberNode
  split_ifs <;> rfl

/-- Every tree the translator returns is well formed. -/
theorem toStoragePredicateHelper_wellFormed {x : String} :
    ∀ {e : Expression} {n : Node}, toStoragePredicateHelper e x = .ok n → n.wellFormed = true
  | .logicalExpression _ _ _, _, h => by
    obtain ⟨a, b, hl, hr, ⟨-, rfl⟩ | ⟨-, rfl⟩⟩ := toStoragePredicateHelper_logicalExpression_ok h <;>
      simp [logicalNode, NodeValue.nodeType, NodeType.arity,
        toStoragePredicateHelper_wellFormed hl, toStoragePredicateHelper_wellFormed hr]
  | .binaryExpression _ _ _, _, h => by
    obtain ⟨a, b, c, hl, hr, -, rfl⟩ := toStoragePredicateHelper_binaryExpression_ok h
    simp [NodeValue.nodeType, NodeType.arity, toStoragePredicateHelper_wellFormed hl,
      toStoragePredicateHelper_wellFormed hr]
  | .memberExpression _ property, _, h => by
    rw [(toStoragePredicateHelper_memberExpression_ok h).2]
    exact memberNode_wellFormed property
  | .stringLiteral _, _, h | .integerLiteral _, _, h | .booleanLiteral _, _, h
  | .floatLiteral _, _, h | .regexpLiteral _, _, h => by
    cases h; rfl
  | .unaryExpression .., _, h | .indexExpression .., _, h | .conditionalExpression .., _, h
  | .callExpression _, _, h | .identifierExpression _, _, h | .unsignedIntegerLiteral _, _, h
  | .durationLiteral _, _, h | .dateTimeLiteral _, _, h => by
    cases h

/-- **The translator accepts exactly its fragment.**  `ToStoragePredicate`
fails if and only if some node of the expression lies outside `F_x`, and when
it succeeds every node of the tree it returns has the type of its value and
the number of children that type takes. -/
theorem toStoragePredicate_error_iff (e : Expression) (x : String) :
    ((∃ err, toStoragePredicate e x = .error err) ↔ inFragment x e = false) ∧
      ∀ p, toStoragePredicate e x = .ok p → p.root.wellFormed = true := by
  have hok := toStoragePredicateHelper_ok_iff x e
  have hwf := @toStoragePredicateHelper_wellFormed x e
  unfold toStoragePredicate
  cases h : toStoragePredicateHelper e x with
  | error err => simp_all
  | ok n => simp_all

end Storage
end Influx
