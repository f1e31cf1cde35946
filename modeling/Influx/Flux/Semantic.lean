import Mathlib.Data.List.Basic

/-!
# Flux expressions

The part of Flux's `ast` and `semantic` packages that the storage predicate
translator reads: the operator kinds of binary and logical expressions, and the
semantic expression nodes a `filter` body is made of.

The translator dispatches on the dynamic type of a `semantic.Expression`; the
inductive `Expression` has one constructor per node type it can meet.  Node
kinds the translator rejects wholesale keep the children Flux gives them, so a
tree can nest them anywhere, but none of their other fields.

## Main definitions

* `OperatorKind`, `LogicalOperatorKind` — `ast.OperatorKind` and
  `ast.LogicalOperatorKind`.
* `Expression` — `semantic.Expression`, with `Expression.typeName` the `%T`
  of each node.
-/

namespace Influx
namespace Flux

/-- `ast.OperatorKind`: the operators of Flux binary and unary expressions. -/
inductive OperatorKind
  | multiplicationOperator
  | divisionOperator
  | moduloOperator
  | powerOperator
  | additionOperator
  | subtractionOperator
  | lessThanEqualOperator
  | lessThanOperator
  | greaterThanEqualOperator
  | greaterThanOperator
  | startsWithOperator
  | inOperator
  | notOperator
  | existsOperator
  | notEmptyOperator
  | emptyOperator
  | equalOperator
  | notEqualOperator
  | regexpMatchOperator
  | notRegexpMatchOperator
  deriving DecidableEq, Repr

/-- `ast.LogicalOperatorKind`.  The Go type is an integer type with two named
constants; `unknown` stands for any other value of it, which the translator's
`default` branches reject. -/
inductive LogicalOperatorKind
  | andOperator
  | orOperator
  /-- A value of the integer type that is neither named constant. -/
  | unknown (code : Int)
  deriving DecidableEq, Repr

/-- `semantic.Expression`: the node types a `filter` predicate can contain. -/
inductive Expression
  /-- `left and right`, `left or right`. -/
  | logicalExpression (operator : LogicalOperatorKind) (left right : Expression)
  /-- `left op right` for any binary operator. -/
  | binaryExpression (operator : OperatorKind) (left right : Expression)
  /-- `op argument`, e.g. `not`, `exists`, unary minus. -/
  | unaryExpression (operator : OperatorKind) (argument : Expression)
  /-- `object.property`. -/
  | memberExpression (object : Expression) (property : String)
  /-- `object[index]`. -/
  | indexExpression (array index : Expression)
  /-- `if test then consequent else alternate`. -/
  | conditionalExpression (test consequent alternate : Expression)
  /-- A call; the arguments are not kept. -/
  | callExpression (callee : Expression)
  /-- A bare identifier. -/
  | identifierExpression (name : String)
  | stringLiteral (value : String)
  | integerLiteral (value : Int)
  | unsignedIntegerLiteral (value : Nat)
  /-- A float literal, as the bits of its `float64`: the translator only copies
  it, and the evaluation semantics compares values through `ValueOps`. -/
  | floatLiteral (value : UInt64)
  | booleanLiteral (value : Bool)
  /-- A regular expression literal, as the source text `Regexp.String()` gives. -/
  | regexpLiteral (value : String)
  /-- A duration literal: its magnitude and unit pairs. -/
  | durationLiteral (values : List (Int × String))
  /-- A date-time literal, in nanoseconds since the epoch. -/
  | dateTimeLiteral (value : Int)
  deriving DecidableEq, Repr

/-- The `%T` of a node, as `fmt` prints the dynamic type of the interface value. -/
def Expression.typeName : Expression → String
  | .logicalExpression .. => "*semantic.LogicalExpression"
  | .binaryExpression .. => "*semantic.BinaryExpression"
  | .unaryExpression .. => "*semantic.UnaryExpression"
  | .memberExpression .. => "*semantic.MemberExpression"
  | .indexExpression .. => "*semantic.IndexExpression"
  | .conditionalExpression .. => "*semantic.ConditionalExpression"
  | .callExpression .. => "*semantic.CallExpression"
  | .identifierExpression .. => "*semantic.IdentifierExpression"
  | .stringLiteral .. => "*semantic.StringLiteral"
  | .integerLiteral .. => "*semantic.IntegerLiteral"
  | .unsignedIntegerLiteral .. => "*semantic.UnsignedIntegerLiteral"
  | .floatLiteral .. => "*semantic.FloatLiteral"
  | .booleanLiteral .. => "*semantic.BooleanLiteral"
  | .regexpLiteral .. => "*semantic.RegexpLiteral"
  | .durationLiteral .. => "*semantic.DurationLiteral"
  | .dateTimeLiteral .. => "*semantic.DateTimeLiteral"

end Flux
end Influx
