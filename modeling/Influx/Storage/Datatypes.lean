import Influx.Go.Basic

/-!
# The storage predicate wire format

`storage/reads/datatypes`: the predicate tree a query hands to the storage
engine.  A `Node` has a node type, a value (a protobuf `oneof`) and a list of
children; nothing in the Go type ties the three together, so a well-formed tree
is a property of a value, `Node.wellFormed`, not of the type.

A tag key is a Go string that need not be UTF-8: the reserved tag keys
`"\x00"` and `"\xff"` of `models` are the single bytes 0 and 255.  So a tag key
is its bytes, and a Flux property name, which is text, becomes the tag key of
its UTF-8 bytes (`Go.bytes`).  No property name is the field tag key
(`bytes_ne_fieldKeyTagKey`: 255 is no one-byte character), and the one name
that is the measurement tag key is `"\x00"` (`bytes_eq_measurementTagKey`).

## Main definitions

* `NodeType`, `NodeComparison`, `NodeLogical`, `NodeValue`, `Node`, `Predicate`.
* `fieldKey`, `measurementKey`, `valueKey` and `fieldKeyTagKey`,
  `measurementTagKey` — the reserved names.
* `Node.wellFormed` — every node's type agrees with its value and it has as many
  children as its type takes.
-/

namespace Influx
namespace Datatypes

/-- `datatypes.Node_Type`. -/
inductive NodeType
  | logicalExpression
  | comparisonExpression
  | parenExpression
  | tagRef
  | literal
  | fieldRef
  deriving DecidableEq, Repr

/-- `datatypes.Node_Comparison`. -/
inductive NodeComparison
  | comparisonEqual
  | comparisonNotEqual
  | comparisonStartsWith
  | comparisonRegex
  | comparisonNotRegex
  | comparisonLess
  | comparisonLessEqual
  | comparisonGreater
  | comparisonGreaterEqual
  deriving DecidableEq, Repr

/-- `datatypes.Node_Logical`. -/
inductive NodeLogical
  | logicalAnd
  | logicalOr
  deriving DecidableEq, Repr

/-- The `Value` oneof of a `datatypes.Node`. -/
inductive NodeValue
  | stringValue (value : String)
  | booleanValue (value : Bool)
  | integerValue (value : Int)
  | unsignedValue (value : Nat)
  /-- A `float64`, as its bits. -/
  | floatValue (value : UInt64)
  | regexValue (value : String)
  /-- A tag key, as its bytes. -/
  | tagRefValue (value : List UInt8)
  | fieldRefValue (value : String)
  | logical (value : NodeLogical)
  | comparison (value : NodeComparison)
  deriving DecidableEq, Repr

/-- `datatypes.Node`: a node type, a value and the children. -/
inductive Node
  | mk (nodeType : NodeType) (value : NodeValue) (children : List Node)
  deriving Repr

/-- `datatypes.Predicate`. -/
structure Predicate where
  root : Node
  deriving Repr

/-! ### Equality of trees -/

mutual
/-- Equality of nodes is decidable, by recursion through the children. -/
def Node.decEq : (a b : Node) → Decidable (a = b)
  | .mk t v cs, .mk t' v' cs' =>
    if ht : t = t' then
      if hv : v = v' then
        match Node.decEqList cs cs' with
        | isTrue hc => isTrue (by rw [ht, hv, hc])
        | isFalse hc => isFalse fun h => by cases h; exact hc rfl
      else isFalse fun h => by cases h; exact hv rfl
    else isFalse fun h => by cases h; exact ht rfl
/-- Equality of lists of nodes, the other half of `Node.decEq`. -/
def Node.decEqList : (a b : List Node) → Decidable (a = b)
  | [], [] => isTrue rfl
  | [], _ :: _ => isFalse (List.cons_ne_nil _ _).symm
  | _ :: _, [] => isFalse (List.cons_ne_nil _ _)
  | a :: as, b :: bs =>
    match Node.decEq a b, Node.decEqList as bs with
    | isTrue h, isTrue h' => isTrue (by rw [h, h'])
    | isFalse h, _ => isFalse fun e => by cases e; exact h rfl
    | _, isFalse h' => isFalse fun e => by cases e; exact h' rfl
end

instance : DecidableEq Node := Node.decEq

instance : DecidableEq Predicate := fun a b =>
  decidable_of_iff (a.root = b.root) (by cases a; cases b; simp)

instance : Inhabited Node := ⟨.mk .literal (.booleanValue false) []⟩

instance : Inhabited Predicate := ⟨⟨default⟩⟩

/-! ### Reserved names -/

/-- `datatypes.FieldKey`: the Flux column of the field name. -/
def fieldKey : String := "_field"

/-- `datatypes.MeasurementKey`: the Flux column of the measurement name. -/
def measurementKey : String := "_measurement"

/-- `datatypes.ValueKey`: the Flux column of the value. -/
def valueKey : String := "_value"

/-- `models.FieldKeyTagKey`: the storage tag key holding the field name, the
byte `"\xff"`. -/
def fieldKeyTagKey : List UInt8 := [0xff]

/-- `models.MeasurementTagKey`: the storage tag key holding the measurement,
the byte `"\x00"`. -/
def measurementTagKey : List UInt8 := [0x00]

/-- The field tag key is not valid UTF-8, so no property name is it. -/
theorem bytes_ne_fieldKeyTagKey (p : String) : Go.bytes p ≠ fieldKeyTagKey := by
  intro h
  obtain ⟨c, -, hc, hb⟩ := Go.bytes_eq_singleton h
  simp only [UInt8.reduceToNat] at hb
  omega

/-- The one property name that is the measurement tag key is the NUL character. -/
theorem bytes_eq_measurementTagKey (p : String) : Go.bytes p = measurementTagKey ↔ p = "\x00" := by
  refine ⟨fun h => ?_, fun h => h ▸ rfl⟩
  obtain ⟨c, rfl, -, hb⟩ := Go.bytes_eq_singleton h
  obtain rfl : c = '\x00' := Char.ext (UInt32.toNat.inj (by simpa using hb.symm))
  rfl

/-! ### Well-formed trees -/

/-- The node type a value variant belongs to. -/
def NodeValue.nodeType : NodeValue → NodeType
  | .logical _ => .logicalExpression
  | .comparison _ => .comparisonExpression
  | .tagRefValue _ => .tagRef
  | .fieldRefValue _ => .fieldRef
  | _ => .literal

/-- How many children a node of each type has.  No value variant belongs to a
paren expression, so its arity never matters for a well-formed tree. -/
def NodeType.arity : NodeType → Nat
  | .logicalExpression => 2
  | .comparisonExpression => 2
  | .parenExpression => 1
  | _ => 0

mutual
/-- Every node of the tree has the type of its value variant and as many
children as that type takes. -/
def Node.wellFormed : Node → Bool
  | .mk t v cs => t == v.nodeType && cs.length == t.arity && Node.wellFormedList cs
/-- Every node of the list is well formed. -/
def Node.wellFormedList : List Node → Bool
  | [] => true
  | n :: ns => n.wellFormed && Node.wellFormedList ns
end

@[simp] theorem Node.wellFormed_mk (t : NodeType) (v : NodeValue) (cs : List Node) :
    (Node.mk t v cs).wellFormed =
      (t == v.nodeType && cs.length == t.arity && Node.wellFormedList cs) := by
  rw [Node.wellFormed]

@[simp] theorem Node.wellFormedList_nil : Node.wellFormedList [] = true := by
  rw [Node.wellFormedList]

@[simp] theorem Node.wellFormedList_cons (n : Node) (ns : List Node) :
    Node.wellFormedList (n :: ns) = (n.wellFormed && Node.wellFormedList ns) := by
  rw [Node.wellFormedList]

end Datatypes
end Influx
