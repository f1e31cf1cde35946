import Influx.Storage.Merge
import Mathlib.Data.Option.NAry

/-!
# What a storage predicate means

Two evaluators, one on each side of the translator.  `evalFlux` evaluates a
Flux expression in which the bound variable stands for a record; `evalNode`
evaluates a storage predicate tree on a storage row, compositionally: a logical
node is the boolean `and`/`or` of its two children in order, a comparison node
compares the values of its two children, a tag reference is the row's tag, the
field reference `_value` is the row's value and a literal is itself.

Both compare values through the same primitives, `ValueOps`: equality, order,
regular-expression match and prefix.  What the translator must get right is
everything around them — which comparison each operator becomes, which side is
which, which tag each column names — and `toStoragePredicate_eval` says it
does, for every expression of the fragment and every row.

The storage row is seen from Flux through `fluxView`: the tag `\x00` is the
column `_measurement`, the tag `\xff` is `_field`, the value is `_value`, and
every other tag is the column whose name has its bytes.  Only the name `"\x00"`
is no column at all (`fluxView_of_ne`).

## Main definitions

* `ValueOps`, `binaryOp`, `compare` — the meaning of operators on values.
* `evalFlux`, `evalNode` — the two evaluators.
* `Row`, `fluxView` — a storage row and the Flux record it is.

## Main results

* `toStoragePredicate_eval` — translation preserves meaning.
* `evalNode_mergePredicates_append` — merging is associative up to meaning.
-/

namespace Influx
namespace Storage

open Flux Datatypes

/-- The values predicates compare: those of literals and of a row's columns. -/
inductive Value
  | string (v : String)
  | integer (v : Int)
  | unsigned (v : Nat)
  /-- A `float64`, as its bits. -/
  | float (v : UInt64)
  | boolean (v : Bool)
  /-- A regular expression, as its source text. -/
  | regexp (v : String)
  deriving DecidableEq, Repr

/-- The primitive comparisons of values, shared by Flux and the storage engine. -/
structure ValueOps where
  equal : Value → Value → Bool
  less : Value → Value → Bool
  regexMatch : Value → Value → Bool
  startsWith : Value → Value → Bool

variable (ops : ValueOps)

/-- The meaning of a Flux binary operator.  Only the comparison operators are
given one: arithmetic and the other operators lie outside what the translator
accepts. -/
def binaryOp : OperatorKind → Value → Value → Option Bool
  | .equalOperator, a, b => some (ops.equal a b)
  | .notEqualOperator, a, b => some (!ops.equal a b)
  | .lessThanOperator, a, b => some (ops.less a b)
  | .lessThanEqualOperator, a, b => some (ops.less a b || ops.equal a b)
  | .greaterThanOperator, a, b => some (ops.less b a)
  | .greaterThanEqualOperator, a, b => some (ops.less b a || ops.equal a b)
  | .regexpMatchOperator, a, b => some (ops.regexMatch a b)
  | .notRegexpMatchOperator, a, b => some (!ops.regexMatch a b)
  | .startsWithOperator, a, b => some (ops.startsWith a b)
  | _, _, _ => none

/-- The meaning of a storage comparison. -/
def compare : NodeComparison → Value → Value → Bool
  | .comparisonEqual, a, b => ops.equal a b
  | .comparisonNotEqual, a, b => !ops.equal a b
  | .comparisonLess, a, b => ops.less a b
  | .comparisonLessEqual, a, b => ops.less a b || ops.equal a b
  | .comparisonGreater, a, b => ops.less b a
  | .comparisonGreaterEqual, a, b => ops.less b a || ops.equal a b
  | .comparisonRegex, a, b => ops.regexMatch a b
  | .comparisonNotRegex, a, b => !ops.regexMatch a b
  | .comparisonStartsWith, a, b => ops.startsWith a b

/-- Flux evaluation of an expression in which the identifier `x` is bound to the
record `row`.  `none` is a runtime error: a missing column, a non-boolean operand
of `and`/`or`, or a node kind outside what is modelled. -/
def evalFlux (x : String) (row : String → Option Value) : Expression → Option Value
  | .logicalExpression op l r => do
    let .boolean a ← evalFlux x row l | none
    let .boolean b ← evalFlux x row r | none
    match op with
    | .andOperator => some (.boolean (a && b))
    | .orOperator => some (.boolean (a || b))
    | .unknown _ => none
  | .binaryExpression op l r => do
    let a ← evalFlux x row l
    let b ← evalFlux x row r
    .boolean <$> binaryOp ops op a b
  | .stringLiteral v => some (.string v)
  | .integerLiteral v => some (.integer v)
  | .unsignedIntegerLiteral v => some (.unsigned v)
  | .floatLiteral v => some (.float v)
  | .booleanLiteral v => some (.boolean v)
  | .regexpLiteral v => some (.regexp v)
  | .memberExpression (.identifierExpression y) p => if y = x then row p else none
  | _ => none

/-- A storage row: its tags, keyed by bytes, and its value. -/
structure Row where
  tags : List UInt8 → Option String
  value : Value

/-- Evaluation of a storage predicate tree on a row. -/
def evalNode (s : Row) : Node → Option Value
  | .mk _ (.logical v) [l, r] => do
    let .boolean a ← evalNode s l | none
    let .boolean b ← evalNode s r | none
    match v with
    | .logicalAnd => some (.boolean (a && b))
    | .logicalOr => some (.boolean (a || b))
  | .mk _ (.comparison c) [l, r] => do
    let a ← evalNode s l
    let b ← evalNode s r
    some (.boolean (compare ops c a b))
  | .mk _ (.stringValue v) _ => some (.string v)
  | .mk _ (.integerValue v) _ => some (.integer v)
  | .mk _ (.unsignedValue v) _ => some (.unsigned v)
  | .mk _ (.floatValue v) _ => some (.float v)
  | .mk _ (.booleanValue v) _ => some (.boolean v)
  | .mk _ (.regexValue v) _ => some (.regexp v)
  | .mk _ (.tagRefValue k) _ => (s.tags k).map .string
  | .mk _ (.fieldRefValue k) _ => if k = valueKey then some s.value else none
  | _ => none

/-- The Flux record a storage row is: the two reserved tags are renamed to
`_measurement` and `_field`, the value is `_value`, and every other tag is the
column whose name has its bytes. -/
def fluxView (s : Row) (p : String) : Option Value :=
  if p = measurementKey then (s.tags measurementTagKey).map .string
  else if p = fieldKey then (s.tags fieldKeyTagKey).map .string
  else if p = valueKey then some s.value
  else if Go.bytes p = measurementTagKey ∨ Go.bytes p = fieldKeyTagKey then none
  else (s.tags (Go.bytes p)).map .string

/-- Only four names are not the tag of their own bytes: the three renamed
columns and `"\x00"`, the name of the measurement tag. -/
theorem fluxView_of_ne (s : Row) {p : String} (hp : p ∉ [measurementKey, fieldKey, valueKey])
    (h0 : p ≠ "\x00") : fluxView s p = (s.tags (Go.bytes p)).map .string := by
  simp only [List.mem_cons, List.not_mem_nil, or_false, not_or] at hp
  rw [fluxView, if_neg hp.1, if_neg hp.2.1, if_neg hp.2.2, if_neg]
  rintro (h | h)
  exacts [h0 ((bytes_eq_measurementTagKey p).1 h), bytes_ne_fieldKeyTagKey p h]

/-- The properties an expression reads through member expressions. -/
def referencedProperties : Expression → List String
  | .logicalExpression _ l r | .binaryExpression _ l r | .indexExpression l r =>
    referencedProperties l ++ referencedProperties r
  | .conditionalExpression t c a =>
    referencedProperties t ++ referencedProperties c ++ referencedProperties a
  | .unaryExpression _ a | .callExpression a => referencedProperties a
  | .memberExpression o p => referencedProperties o ++ [p]
  | _ => []

/-! ### Translation preserves meaning -/

/-- Each operator of the table becomes the comparison with the same meaning. -/
theorem binaryOp_eq_compare {o : OperatorKind} {c : NodeComparison}
    (h : toComparisonOperator o = .ok c) (a b : Value) :
    binaryOp ops o a b = some (compare ops c a b) := by
  cases o <;> simp only [toComparisonOperator, reduceCtorEq, Except.ok.injEq] at h <;>
    subst h <;> rfl

/-- A member expression reads, in storage, the column Flux sees under its name. -/
theorem evalNode_memberNode (s : Row) {p : String} (h : (fluxView s p).isSome) :
    evalNode ops s (memberNode p) = fluxView s p := by
  unfold memberNode fluxView at *
  split_ifs at * <;> simp_all [evalNode, fieldKey, measurementKey, valueKey]

/-- Translation preserves meaning, node by node. -/
theorem toStoragePredicateHelper_eval {x : String} (s : Row) :
    ∀ {e : Expression} {n : Node}, toStoragePredicateHelper e x = .ok n →
      (∀ p ∈ referencedProperties e, (fluxView s p).isSome) →
      evalNode ops s n = evalFlux ops x (fluxView s) e
  | .logicalExpression _ l r, _, h, hdef => by
    obtain ⟨a, b, hl, hr, ⟨rfl, rfl⟩ | ⟨rfl, rfl⟩⟩ :=
      toStoragePredicateHelper_logicalExpression_ok h <;>
    simp only [referencedProperties, List.mem_append] at hdef <;>
    simp only [logicalNode, evalNode, evalFlux,
      toStoragePredicateHelper_eval s hl fun p hp => hdef p (.inl hp),
      toStoragePredicateHelper_eval s hr fun p hp => hdef p (.inr hp)]
  | .binaryExpression _ l r, _, h, hdef => by
    obtain ⟨a, b, c, hl, hr, hc, rfl⟩ := toStoragePredicateHelper_binaryExpression_ok h
    simp only [referencedProperties, List.mem_append] at hdef
    simp only [evalNode, evalFlux, binaryOp_eq_compare ops hc,
      toStoragePredicateHelper_eval s hl fun p hp => hdef p (.inl hp),
      toStoragePredicateHelper_eval s hr fun p hp => hdef p (.inr hp)]
    cases evalFlux ops x (fluxView s) l <;> cases evalFlux ops x (fluxView s) r <;> rfl
  | .memberExpression _ p, _, h, hdef => by
    obtain ⟨rfl, rfl⟩ := toStoragePredicateHelper_memberExpression_ok h
    simp only [evalFlux, if_pos]
    exact evalNode_memberNode ops s (hdef p (by simp [referencedProperties]))
  | .stringLiteral _, _, h, _ | .integerLiteral _, _, h, _ | .booleanLiteral _, _, h, _
  | .floatLiteral _, _, h, _ | .regexpLiteral _, _, h, _ => by
    cases h; rfl
  | .unaryExpression .., _, h, _ | .indexExpression .., _, h, _
  | .conditionalExpression .., _, h, _ | .callExpression _, _, h, _
  | .identifierExpression _, _, h, _ | .unsignedIntegerLiteral _, _, h, _
  | .durationLiteral _, _, h, _ | .dateTimeLiteral _, _, h, _ => by
    cases h

/-- **Translation preserves meaning.**  For every expression of the fragment
`F_x` the translator succeeds, and on every storage row whose Flux view defines
each property the expression reads, the returned tree evaluates to what Flux
evaluates the expression to. -/
theorem toStoragePredicate_eval (x : String) (e : Expression) (he : inFragment x e = true)
    (s : Row) (hdef : ∀ p ∈ referencedProperties e, (fluxView s p).isSome) :
    ∃ pred, toStoragePredicate e x = .ok pred ∧
      evalNode ops s pred.root = evalFlux ops x (fluxView s) e := by
  obtain ⟨n, hn⟩ := (toStoragePredicateHelper_ok_iff x e).2 he
  exact ⟨⟨n⟩, by simp [toStoragePredicate, hn], toStoragePredicateHelper_eval ops s hn hdef⟩

/-- The filter `r._measurement == "cpu"` on a row of measurement `cpu`. -/
theorem toStoragePredicate_eval_measurement :
    inFragment "r" (.binaryExpression .equalOperator
        (.memberExpression (.identifierExpression "r") "_measurement") (.stringLiteral "cpu")) ∧
      ∃ pred, toStoragePredicate (.binaryExpression .equalOperator
          (.memberExpression (.identifierExpression "r") "_measurement") (.stringLiteral "cpu"))
          "r" = .ok pred ∧
        evalNode ⟨(· == ·), fun _ _ => false, fun _ _ => false, fun _ _ => false⟩
            ⟨fun k => if k = measurementTagKey then some "cpu" else none, .float 0⟩ pred.root =
          evalFlux ⟨(· == ·), fun _ _ => false, fun _ _ => false, fun _ _ => false⟩ "r"
            (fluxView ⟨fun k => if k = measurementTagKey then some "cpu" else none, .float 0⟩)
            (.binaryExpression .equalOperator
              (.memberExpression (.identifierExpression "r") "_measurement") (.stringLiteral "cpu")) :=
  ⟨by decide, toStoragePredicate_eval _ "r" _ (by decide) _ (by decide)⟩

/-! ### Merging, up to meaning -/

/-- The boolean a value is, if it is one. -/
def Value.toBool : Value → Option Bool
  | .boolean b => some b
  | _ => none

/-- The boolean operation of a logical node. -/
def logicalOp : NodeLogical → Bool → Bool → Bool
  | .logicalAnd, a, b => a && b
  | .logicalOr, a, b => a || b

theorem logicalOp_assoc (v : NodeLogical) (a b c : Bool) :
    logicalOp v (logicalOp v a b) c = logicalOp v a (logicalOp v b c) := by
  cases v <;> simp [logicalOp, Bool.and_assoc, Bool.or_assoc]

/-- The boolean a tree evaluates to, if it evaluates to one. -/
def evalBool (s : Row) (n : Node) : Option Bool := (evalNode ops s n).bind Value.toBool

theorem evalNode_logicalNode (s : Row) (v : NodeLogical) (l r : Node) :
    evalNode ops s (logicalNode v l r) =
      (Option.map₂ (logicalOp v) (evalBool ops s l) (evalBool ops s r)).map .boolean := by
  simp only [logicalNode, evalNode, evalBool]
  rcases evalNode ops s l with _ | ⟨⟩ | ⟨⟩ | ⟨⟩ | ⟨⟩ | ⟨⟩ | ⟨⟩ <;>
    rcases evalNode ops s r with _ | ⟨⟩ | ⟨⟩ | ⟨⟩ | ⟨⟩ | ⟨⟩ | ⟨⟩ <;> cases v <;> rfl

theorem evalBool_logicalNode (s : Row) (v : NodeLogical) (l r : Node) :
    evalBool ops s (logicalNode v l r) =
      Option.map₂ (logicalOp v) (evalBool ops s l) (evalBool ops s r) := by
  rw [evalBool, evalNode_logicalNode]
  cases evalBool ops s l <;> cases evalBool ops s r <;> rfl

/-- A right nesting splits, in meaning, at any of its parts. -/
theorem evalBool_rightNest_append (s : Row) (v : NodeLogical) (a : Node) (as : List Node)
    (b : Node) (bs : List Node) :
    evalBool ops s (rightNest (logicalNode v) a (as ++ b :: bs)) =
      Option.map₂ (logicalOp v) (evalBool ops s (rightNest (logicalNode v) a as))
        (evalBool ops s (rightNest (logicalNode v) b bs)) := by
  induction as generalizing a with
  | nil => exact evalBool_logicalNode ops s v a _
  | cons a' as ih =>
    rw [List.cons_append, rightNest_cons, rightNest_cons, evalBool_logicalNode, ih,
      evalBool_logicalNode, Option.map₂_assoc (logicalOp_assoc v)]

/-- **Merging is associative up to meaning.**  For `and` and `or`, merging the
merges of two non-empty lists evaluates, on every row, as merging the two
lists joined: how the predicates are grouped does not matter. -/
theorem evalNode_mergePredicates_append {op : LogicalOperatorKind} (hop : isAndOr op = true)
    {ps qs : List Predicate} (hps : ps ≠ []) (hqs : qs ≠ []) (s : Row) :
    ∃ p q r t, mergePredicates op ps = .ok p ∧ mergePredicates op qs = .ok q ∧
      mergePredicates op [p, q] = .ok r ∧ mergePredicates op (ps ++ qs) = .ok t ∧
      evalNode ops s r.root = evalNode ops s t.root := by
  obtain ⟨value, hv⟩ : ∃ value : NodeLogical, op = .andOperator ∧ value = .logicalAnd ∨
      op = .orOperator ∧ value = .logicalOr := by
    cases op <;> simp_all [isAndOr]
  obtain ⟨p₀, ps, rfl⟩ := List.exists_cons_of_ne_nil hps
  obtain ⟨q₀, qs, rfl⟩ := List.exists_cons_of_ne_nil hqs
  refine ⟨_, _, _, _, mergePredicates_cons hv _ _, mergePredicates_cons hv _ _,
    mergePredicates_cons hv _ _, mergePredicates_cons hv _ _, ?_⟩
  obtain ⟨c, cs, hc⟩ := List.exists_cons_of_ne_nil
    (List.append_ne_nil_of_right_ne_nil (ps.map (·.root)) (List.cons_ne_nil q₀.root (qs.map (·.root))))
  simp only [List.append_eq, List.map_cons, List.map_nil, List.map_append, rightNest_cons,
    rightNest_nil, hc]
  rw [evalNode_logicalNode, evalNode_logicalNode, ← evalBool_logicalNode ops s value p₀.root,
    ← rightNest_cons (logicalNode value) p₀.root c cs, ← hc, evalBool_rightNest_append]

/-- Two predicates and two more, merged two ways: `(t ∧ f) ∧ (f ∧ t)` and
`t ∧ (f ∧ (f ∧ t))`. -/
theorem evalNode_mergePredicates_append_four :
    isAndOr .andOperator = true ∧
      ([⟨.mk .literal (.booleanValue true) []⟩, ⟨.mk .literal (.booleanValue false) []⟩] :
        List Predicate) ≠ [] ∧
      ([⟨.mk .literal (.booleanValue false) []⟩, ⟨.mk .literal (.booleanValue true) []⟩] :
        List Predicate) ≠ [] ∧
      ∃ p q r t, mergePredicates .andOperator
          [⟨.mk .literal (.booleanValue true) []⟩, ⟨.mk .literal (.booleanValue false) []⟩] = .ok p ∧
        mergePredicates .andOperator
          [⟨.mk .literal (.booleanValue false) []⟩, ⟨.mk .literal (.booleanValue true) []⟩] = .ok q ∧
        mergePredicates .andOperator [p, q] = .ok r ∧
        mergePredicates .andOperator
          ([⟨.mk .literal (.booleanValue true) []⟩, ⟨.mk .literal (.booleanValue false) []⟩] ++
            [⟨.mk .literal (.booleanValue false) []⟩, ⟨.mk .literal (.booleanValue true) []⟩]) =
          .ok t ∧
        evalNode ⟨(· == ·), fun _ _ => false, fun _ _ => false, fun _ _ => false⟩
            ⟨fun _ => none, .float 0⟩ r.root =
          evalNode ⟨(· == ·), fun _ _ => false, fun _ _ => false, fun _ _ => false⟩
            ⟨fun _ => none, .float 0⟩ t.root :=
  ⟨rfl, List.cons_ne_nil _ _, List.cons_ne_nil _ _,
    @evalNode_mergePredicates_append _ .andOperator rfl _ _ (List.cons_ne_nil _ _)
      (List.cons_ne_nil _ _) _⟩

end Storage
end Influx
