import Influx.Authorizer.Services

/-!
# The authorizing label service

`label/middleware_auth.go`.  Unlike the secret service, most methods of the
authorizing label service read the store before they ask: updating or deleting
a label, or mapping one to a resource, is checked against the organization of
the label the store holds, and the lookup's error is returned when there is
none.  A mapping needs write access to the label and to the resource, the
resource taken to be in the label's organization.  Listing labels filters what
the wrapped service returns down to the labels the authorizer lets the caller
read.

`AuthorizeFindLabels`, `ResourceType.Valid` and the organization resolver are
defined outside this file and are parameters.

## Main definitions

* `LabelService`, `AuthedLabelService.newAuthedLabelService` — the interface and
  its wrapper.
* `LabelCall.checks` — what each call needs, on a given store.

## Main results

* `newAuthedLabelService_apply` — a wrapped call moves the store as the inner
  call does when its checks pass, and not at all otherwise.
* `authedLabelService_runCalls_readOnly` — under an authorizer that grants no
  write, no session changes the store.
-/

namespace Influx

open Authorizer

/-- `influxdb.Label`: the fields the wrapper reads, and the name. -/
structure Label where
  id : UInt64
  orgID : UInt64
  name : String
  deriving DecidableEq, Repr

/-- `influxdb.LabelMapping`. -/
structure LabelMapping where
  labelID : UInt64
  resourceID : UInt64
  resourceType : ResourceType
  deriving DecidableEq, Repr

/-- `influxdb.LabelMappingFilter`. -/
structure LabelMappingFilter where
  resourceID : UInt64
  resourceType : ResourceType
  deriving DecidableEq, Repr

/-- `influxdb.LabelService` over a store `σ`.  The wrapper passes a
`LabelFilter` (with its find options) and a `LabelUpdate` through unread; they
are the types `F` and `U`. -/
structure LabelService (σ ε F U : Type) where
  findLabelByID : UInt64 → σ → Except ε Label
  findLabels : F → σ → Except ε (List Label)
  findResourceLabels : LabelMappingFilter → σ → Except ε (List Label)
  createLabel : Label → Method σ ε Unit
  createLabelMapping : LabelMapping → Method σ ε Unit
  updateLabel : UInt64 → U → Method σ ε Label
  deleteLabel : UInt64 → Method σ ε Unit
  deleteLabelMapping : LabelMapping → Method σ ε Unit

/-- `influxdb.LabelsResourceType`. -/
def Authorizer.labelsResourceType : ResourceType := "labels"

namespace AuthedLabelService

variable {σ ε F U : Type} (authorize : Check → Option ε)
  (authorizeFindLabels : List Label → Except ε (List Label))
  (valid : ResourceType → Option ε)
  (orgIDResolver : ResourceType → UInt64 → Except ε UInt64)
  (s : LabelService σ ε F U)

/-- `CreateLabel`. -/
def createLabel (l : Label) : Method σ ε Unit :=
  guarded authorize [.create labelsResourceType l.orgID] (s.createLabel l)

/-- `FindLabels`: the wrapped service's labels, filtered by the authorizer. -/
def findLabels (filter : F) : Method σ ε (List Label) := do
  let ls ← .ofRead (s.findLabels filter)
  .ofExcept (authorizeFindLabels ls)

/-- `FindLabelByID`: the lookup first, then read access to the label found. -/
def findLabelByID (id : UInt64) : Method σ ε Label := do
  let l ← .ofRead (s.findLabelByID id)
  guarded authorize [.read labelsResourceType id l.orgID] (pure l)

/-- `FindResourceLabels`. -/
def findResourceLabels (filter : LabelMappingFilter) : Method σ ε (List Label) := do
  if let some err := valid filter.resourceType then throw err
  let orgID ← .ofExcept (orgIDResolver filter.resourceType filter.resourceID)
  guarded authorize [.read filter.resourceType filter.resourceID orgID] do
    let ls ← .ofRead (s.findResourceLabels filter)
    .ofExcept (authorizeFindLabels ls)

/-- `UpdateLabel`: checked against the stored label. -/
def updateLabel (id : UInt64) (upd : U) : Method σ ε Label := do
  let l ← .ofRead (s.findLabelByID id)
  guarded authorize [.write labelsResourceType l.id l.orgID] (s.updateLabel id upd)

/-- `DeleteLabel`: checked against the stored label. -/
def deleteLabel (id : UInt64) : Method σ ε Unit := do
  let l ← .ofRead (s.findLabelByID id)
  guarded authorize [.write labelsResourceType l.id l.orgID] (s.deleteLabel id)

/-- `CreateLabelMapping`: write access to the label and to the resource, both in
the label's organization. -/
def createLabelMapping (m : LabelMapping) : Method σ ε Unit := do
  let l ← .ofRead (s.findLabelByID m.labelID)
  guarded authorize
    [.write labelsResourceType m.labelID l.orgID, .write m.resourceType m.resourceID l.orgID]
    (s.createLabelMapping m)

/-- `DeleteLabelMapping`: as `CreateLabelMapping`. -/
def deleteLabelMapping (m : LabelMapping) : Method σ ε Unit := do
  let l ← .ofRead (s.findLabelByID m.labelID)
  guarded authorize
    [.write labelsResourceType m.labelID l.orgID, .write m.resourceType m.resourceID l.orgID]
    (s.deleteLabelMapping m)

/-- `NewAuthedLabelService`: the wrapper is itself a label service. -/
def newAuthedLabelService : LabelService σ ε F U where
  findLabelByID id st := ((findLabelByID authorize s id).run.run st).1
  findLabels filter st := ((findLabels authorizeFindLabels s filter).run.run st).1
  findResourceLabels filter st :=
    ((findResourceLabels authorize authorizeFindLabels valid orgIDResolver s filter).run.run st).1
  createLabel := createLabel authorize s
  createLabelMapping := createLabelMapping authorize s
  updateLabel := updateLabel authorize s
  deleteLabel := deleteLabel authorize s
  deleteLabelMapping := deleteLabelMapping authorize s

end AuthedLabelService

/-! ### What a call does to the store -/

/-- A call of the label service that can change the store. -/
inductive LabelCall (U : Type)
  | createLabel (l : Label)
  | createLabelMapping (m : LabelMapping)
  | updateLabel (id : UInt64) (upd : U)
  | deleteLabel (id : UInt64)
  | deleteLabelMapping (m : LabelMapping)

variable {σ ε F U : Type}

/-- The store after a call. -/
def LabelService.apply (s : LabelService σ ε F U) : LabelCall U → σ → σ
  | .createLabel l, st => ((s.createLabel l).run.run st).2
  | .createLabelMapping m, st => ((s.createLabelMapping m).run.run st).2
  | .updateLabel id upd, st => ((s.updateLabel id upd).run.run st).2
  | .deleteLabel id, st => ((s.deleteLabel id).run.run st).2
  | .deleteLabelMapping m, st => ((s.deleteLabelMapping m).run.run st).2

/-- The checks a call needs on the store `st`, as the doc comments of the
methods state them, about the label the store holds; `none` when it holds no
label under the call's label ID, and the call fails before it asks. -/
def LabelCall.checks (s : LabelService σ ε F U) (st : σ) : LabelCall U → Option (List Check)
  | .createLabel l => some [.create labelsResourceType l.orgID]
  | .updateLabel id _ | .deleteLabel id =>
    match s.findLabelByID id st with
    | .ok l => some [.write labelsResourceType l.id l.orgID]
    | .error _ => none
  | .createLabelMapping m | .deleteLabelMapping m =>
    match s.findLabelByID m.labelID st with
    | .ok l =>
      some [.write labelsResourceType m.labelID l.orgID, .write m.resourceType m.resourceID l.orgID]
    | .error _ => none

/-- Every call needs a write, on every store. -/
theorem LabelCall.exists_isWrite_of_checks {s : LabelService σ ε F U} {st : σ} {c : LabelCall U}
    {checks : List Check} (h : c.checks s st = some checks) : ∃ ch ∈ checks, ch.isWrite := by
  cases c <;> simp only [LabelCall.checks] at h <;> (try split at h) <;> cases h <;>
    exact ⟨_, List.mem_cons_self _ _, rfl⟩

namespace AuthedLabelService

variable (authorize : Check → Option ε)
  (authorizeFindLabels : List Label → Except ε (List Label))
  (valid : ResourceType → Option ε)
  (orgIDResolver : ResourceType → UInt64 → Except ε UInt64)
  (s : LabelService σ ε F U)

/-- A wrapped call moves the store as the inner call does when the authorizer
allows the checks it needs on that store, and leaves it alone otherwise. -/
theorem newAuthedLabelService_apply (c : LabelCall U) (st : σ) :
    (newAuthedLabelService authorize authorizeFindLabels valid orgIDResolver s).apply c st =
      match c.checks s st with
      | some checks => if (firstDenial authorize checks).isNone then s.apply c st else st
      | none => st := by
  cases c <;> simp only [LabelService.apply, newAuthedLabelService, createLabel,
    createLabelMapping, updateLabel, deleteLabel, deleteLabelMapping, LabelCall.checks]
  case createLabel =>
    rw [guarded_run]
    split <;> simp_all
  all_goals
    rw [Method.ofRead_bind_run]
    split <;> simp only [guarded_run] <;> split <;> simp_all

/-- **A read-only authorizer changes no label.**  Under an authorizer that
grants no write, no session through the authorizing label service changes the
store. -/
theorem authedLabelService_runCalls_readOnly (h : ReadOnly authorize)
    (calls : List (LabelCall U)) (st : σ) :
    runCalls (newAuthedLabelService authorize authorizeFindLabels valid orgIDResolver s).apply
      calls st = st := by
  refine runCalls_eq_self (fun c st => ?_) calls st
  rw [newAuthedLabelService_apply]
  split
  · next checks hc =>
    obtain ⟨ch, hch, hw⟩ := LabelCall.exists_isWrite_of_checks hc
    exact if_neg (Bool.eq_false_iff.1 (h.isNone_firstDenial hch hw))
  · rfl

/-- A token that may do nothing, creating a label in a store that counts the
labels created: the count stays at zero. -/
theorem authedLabelService_runCalls_readOnly_create :
    ReadOnly (fun _ : Check => some ()) ∧
      runCalls (newAuthedLabelService (fun _ => some ()) (fun ls => .ok ls) (fun _ => none)
          (fun _ _ => .ok 0)
          (⟨fun _ _ => .error (), fun _ _ => .ok [], fun _ _ => .ok [],
            fun _ => modify (· + 1), fun _ => pure (), fun _ _ => throw (), fun _ => pure (),
            fun _ => pure ()⟩ : LabelService Nat Unit Unit Unit)).apply
        [.createLabel ⟨1, 1, "cpu"⟩] 0 = 0 :=
  ⟨fun _ _ => rfl, authedLabelService_runCalls_readOnly (fun _ => some ()) _ _ _ _ (fun _ _ => rfl) _ _⟩

end AuthedLabelService

end Influx
