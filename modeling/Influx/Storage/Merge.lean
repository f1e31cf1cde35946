import Influx.Storage.Predicate
import Mathlib.Data.List.GetD

/-!
# Merging predicates

`mergePredicates op [p₀, …, pₙ]` nests the roots to the right,
`p₀ op (p₁ op (… op pₙ))`.  The Go loop builds that tree backwards, index
`len - 2` down to `0`, each step putting the next predicate in front of the tree
built so far; `nestBackwards_eq_rightNest` is the loop invariant.  The tree is
the one the translator builds for the right-nested Flux expression, so merging
translated predicates and translating the merged expression agree.

## Main definitions

* `rightNest` — the right fold of a non-empty list, the shape both sides build.

## Main results

* `mergePredicates_eq_rightNest` — what `mergePredicates` returns, and its
  agreement with the translator.
-/

namespace Influx
namespace Storage

open Flux Datatypes

/-- `rightNest f a [b, c, …, z] = f a (f b (f c (… z)))`. -/
def rightNest {α : Type} (f : α → α → α) : α → List α → α
  | a, [] => a
  | a, b :: bs => f a (rightNest f b bs)

@[simp] theorem rightNest_nil {α : Type} (f : α → α → α) (a : α) : rightNest f a [] = a := rfl

@[simp] theorem rightNest_cons {α : Type} (f : α → α → α) (a b : α) (bs : List α) :
    rightNest f a (b :: bs) = f a (rightNest f b bs) := rfl

/-- The invariant of the backwards loop: with `k` iterations left, the tree built
so far is the right nesting of the roots from index `k` on. -/
theorem nestBackwards_eq_rightNest (value : NodeLogical) (ps : List Predicate) :
    ∀ k, k < ps.length →
      nestBackwards value ps k
          (rightNest (logicalNode value) (ps.getD k default).root ((ps.drop (k + 1)).map (·.root)))
        = rightNest (logicalNode value) (ps.getD 0 default).root ((ps.drop 1).map (·.root))
  | 0, _ => rfl
  | k + 1, hk => by
    have hdrop : ps.drop (k + 1) = ps[k + 1] :: ps.drop (k + 2) := List.drop_eq_getElem_cons hk
    rw [← nestBackwards_eq_rightNest value ps k (by omega), hdrop, List.getD_eq_getElem _ _ hk]
    rfl

/-- The logical node value `mergePredicates` uses for `op`, when it has one. -/
theorem mergePredicates_cons {op : LogicalOperatorKind} {value : NodeLogical}
    (hop : op = .andOperator ∧ value = .logicalAnd ∨ op = .orOperator ∧ value = .logicalOr)
    (p : Predicate) (rest : List Predicate) :
    mergePredicates op (p :: rest) =
      .ok ⟨rightNest (logicalNode value) p.root (rest.map (·.root))⟩ := by
  have hloop := nestBackwards_eq_rightNest value (p :: rest) rest.length (by simp)
  simp only [List.length_cons, List.drop_succ_cons, List.drop_length, List.map_nil,
    rightNest_nil, List.getD_cons_zero, List.drop_zero] at hloop
  rcases hop with ⟨rfl, rfl⟩ | ⟨rfl, rfl⟩ <;>
    simpa [mergePredicates] using hloop

/-- Translating a right-nested `and`/`or` expression gives the right nesting of
the translations. -/
theorem toStoragePredicateHelper_rightNest {x : String} {op : LogicalOperatorKind}
    {value : NodeLogical}
    (hop : op = .andOperator ∧ value = .logicalAnd ∨ op = .orOperator ∧ value = .logicalOr)
    {es : List Expression} {ns : List Node}
    (hes : List.Forall₂ (fun e n => toStoragePredicateHelper e x = .ok n) es ns) :
    ∀ {e : Expression} {n : Node}, toStoragePredicateHelper e x = .ok n →
      toStoragePredicateHelper (rightNest (.logicalExpression op) e es) x =
        .ok (rightNest (logicalNode value) n ns) := by
  induction hes with
  | nil => intro e n h; exact h
  | cons hhead _ ih =>
    intro e n h
    rcases hop with ⟨rfl, rfl⟩ | ⟨rfl, rfl⟩ <;>
      simp [toStoragePredicateHelper, h, ih hhead]

/-- Every expression of a list in the fragment translates, and the roots line up
with the expressions. -/
theorem mapM_toStoragePredicate_ok {x : String} :
    ∀ {es : List Expression}, (∀ e ∈ es, inFragment x e = true) →
      ∃ ps, es.mapM (toStoragePredicate · x) = .ok ps ∧
        List.Forall₂ (fun e n => toStoragePredicateHelper e x = .ok n) es (ps.map (·.root))
  | [], _ => ⟨[], rfl, .nil⟩
  | e :: es, hes => by
    obtain ⟨n, hn⟩ := (toStoragePredicateHelper_ok_iff x e).2 (hes e (.head _))
    obtain ⟨ps, hps, hall⟩ := mapM_toStoragePredicate_ok fun e' h => hes e' (.tail _ h)
    refine ⟨⟨n⟩ :: ps, ?_, .cons hn hall⟩
    rw [List.mapM_cons, hps]
    simp [toStoragePredicate, hn]

/-- **`mergePredicates` is the right fold of the roots.**  It fails exactly on an
empty list or an operator other than `and`/`or`; otherwise it returns
`p₀ op (p₁ op (… op pₙ))` over the roots, in order, each once.  Merging the
translations of expressions of the fragment gives the translation of the
right-nested expression. -/
theorem mergePredicates_eq_rightNest (op : LogicalOperatorKind) :
    (∀ ps, (∃ err, mergePredicates op ps = .error err) ↔ ps = [] ∨ isAndOr op = false) ∧
    ∀ value, (op = .andOperator ∧ value = .logicalAnd ∨ op = .orOperator ∧ value = .logicalOr) →
      (∀ p rest, mergePredicates op (p :: rest) =
        .ok ⟨rightNest (fun a b => .mk .logicalExpression (.logical value) [a, b]) p.root
          (rest.map (·.root))⟩) ∧
      ∀ x e es, inFragment x e = true → (∀ e' ∈ es, inFragment x e' = true) →
        ∃ qs, (e :: es).mapM (toStoragePredicate · x) = .ok qs ∧
          mergePredicates op qs = toStoragePredicate (rightNest (.logicalExpression op) e es) x := by
  refine ⟨fun ps => ?_, fun value hop => ⟨mergePredicates_cons hop, fun x e es he hes => ?_⟩⟩
  · cases ps with
    | nil => simp [mergePredicates]
    | cons p rest => cases op <;> simp [mergePredicates, isAndOr]
  · obtain ⟨_ | ⟨q, qs⟩, hqs, hall⟩ := @mapM_toStoragePredicate_ok x (e :: es)
      fun e' h => (List.mem_cons.1 h).elim (· ▸ he) (hes e')
    · cases hall
    · cases hall with
      | cons hq hrest =>
        refine ⟨q :: qs, hqs, ?_⟩
        rw [mergePredicates_cons hop, toStoragePredicate,
          toStoragePredicateHelper_rightNest hop hrest hq]
        rfl

end Storage
end Influx
