import Mathlib.Data.List.Basic

/-!
# Authorizing wrappers

The `authorizer` package wraps each service of `influxdb` in one that asks the
authorizer on the request's context before it calls through.  The authorizer
functions (`AuthorizeRead`, `AuthorizeWrite`, `IsAllowedAll`, ...) live in files
of the package that are not modelled: each call the wrappers make is a `Check`,
and the authorizer is a parameter that answers a check with `nil` (`none`) or
the error to return.

A wrapped service is a state machine over the store of the service it wraps.
Its methods are `Method`s: from a store, a result or an error, and the store
after.  Reads of the inner service are functions of the store and leave it as
it is.

## Main definitions

* `Check`, `guarded` — the checks, and a call behind them.
* `runCalls` — the store after a session of calls.

## Main results

* `guarded_run` — a call behind checks returns the first denial, the store
  unchanged, or is the call itself.
* `runCalls_filter` — a session through wrappers whose checks do not read the
  store moves the store as the inner service does under the allowed calls.
-/

namespace Influx
namespace Authorizer

/-- `influxdb.ResourceType`, a string type. -/
abbrev ResourceType := String

/-- The calls to the authorizer the wrappers make, with the arguments they pass. -/
inductive Check
  /-- `AuthorizeOrgReadResource(ctx, rt, orgID)`. -/
  | orgReadResource (rt : ResourceType) (orgID : UInt64)
  /-- `AuthorizeOrgWriteResource(ctx, rt, orgID)`. -/
  | orgWriteResource (rt : ResourceType) (orgID : UInt64)
  /-- `AuthorizeCreate(ctx, rt, orgID)`. -/
  | create (rt : ResourceType) (orgID : UInt64)
  /-- `AuthorizeRead(ctx, rt, id, orgID)`. -/
  | read (rt : ResourceType) (id orgID : UInt64)
  /-- `AuthorizeWrite(ctx, rt, id, orgID)`. -/
  | write (rt : ResourceType) (id orgID : UInt64)
  /-- `IsAllowedAll(ctx, influxdb.OperPermissions())`. -/
  | operPermissions
  deriving DecidableEq, Repr

/-- A method of a service over the store `σ`. -/
abbrev Method (σ ε α : Type) := ExceptT ε (StateM σ) α

variable {σ ε α : Type}

/-- A read of the inner service: a function of the store, which it leaves as it is. -/
def Method.ofRead (f : σ → Except ε α) : Method σ ε α := ExceptT.mk fun st => (f st, st)

@[simp] theorem Method.ofRead_run (f : σ → Except ε α) (st : σ) :
    (Method.ofRead f).run.run st = (f st, st) := rfl

/-- A read, then the rest of the method on what it read. -/
theorem Method.ofRead_bind_run {β : Type} (f : σ → Except ε α) (g : α → Method σ ε β) (st : σ) :
    (Method.ofRead f >>= g).run.run st =
      match f st with
      | .ok a => (g a).run.run st
      | .error e => (.error e, st) := by
  show (match f st with | .ok a => (g a).run | .error e => pure (.error e)).run st = _
  cases f st <;> rfl

/-- The `(value, error)` result of a helper, as a step of a method. -/
def Method.ofExcept (x : Except ε α) : Method σ ε α := .ofRead fun _ => x

@[simp] theorem Method.ofExcept_run (x : Except ε α) (st : σ) :
    (Method.ofExcept x).run.run st = (x, st) := rfl

/-- The checks in order, then `call`: each method that asks before it calls
returns the first check's error, as `if _, _, err := ...; err != nil` does. -/
def guarded (authorize : Check → Option ε) : List Check → Method σ ε α → Method σ ε α
  | [], call => call
  | c :: checks, call =>
    match authorize c with
    | some err => throw err
    | none => guarded authorize checks call

/-- The first of the checks the authorizer denies, as its error. -/
def firstDenial (authorize : Check → Option ε) (checks : List Check) : Option ε :=
  checks.findSome? authorize

/-- A call behind checks returns the first denial with the store unchanged, or,
when the authorizer allows every check, is the call itself. -/
theorem guarded_run (authorize : Check → Option ε) (checks : List Check) (call : Method σ ε α)
    (st : σ) :
    (guarded authorize checks call).run.run st =
      match firstDenial authorize checks with
      | some err => (.error err, st)
      | none => call.run.run st := by
  induction checks with
  | nil => rfl
  | cons c cs ih =>
    simp only [guarded, firstDenial, List.findSome?_cons] at ih ⊢
    cases authorize c
    · exact ih
    · rfl

/-- The checks that ask for the right to change something. -/
def Check.isWrite : Check → Bool
  | .orgWriteResource .. | .create .. | .write .. => true
  | _ => false

/-- An authorizer that denies every write. -/
def ReadOnly (authorize : Check → Option ε) : Prop := ∀ c, c.isWrite → (authorize c).isSome

/-- Checks that include a denied one are denied. -/
theorem firstDenial_isSome {authorize : Check → Option ε} {checks : List Check} {c : Check}
    (hc : c ∈ checks) (h : (authorize c).isSome) : (firstDenial authorize checks).isSome :=
  List.findSome?_isSome_iff.2 ⟨c, hc, h⟩

/-- Under a read-only authorizer, checks that include a write fail. -/
theorem ReadOnly.isNone_firstDenial {authorize : Check → Option ε} (h : ReadOnly authorize)
    {checks : List Check} {c : Check} (hc : c ∈ checks) (hw : c.isWrite) :
    (firstDenial authorize checks).isNone = false := by
  simpa [Option.isNone_iff_eq_none, ← Option.ne_none_iff_isSome] using firstDenial_isSome hc (h c hw)

/-! ### Sessions -/

/-- The store after each call of a session in turn, whatever each returns. -/
def runCalls {Call : Type} (apply : Call → σ → σ) (calls : List Call) (st : σ) : σ :=
  calls.foldl (fun st c => apply c st) st

/-- A session through a wrapper that leaves the store alone on the calls it
denies and is the inner call on the others moves the store as the inner
service does under the allowed calls alone. -/
theorem runCalls_filter {Call : Type} {wrapped inner : Call → σ → σ} (allowed : Call → Bool)
    (h : ∀ c st, wrapped c st = if allowed c then inner c st else st) (calls : List Call)
    (st : σ) : runCalls wrapped calls st = runCalls inner (calls.filter allowed) st := by
  induction calls generalizing st with
  | nil => rfl
  | cons c cs ih =>
    simp only [runCalls, List.foldl_cons, List.filter_cons] at ih ⊢
    rw [h]
    cases allowed c <;> simp [ih]

/-- A session of calls none of which moves the store leaves it as it was. -/
theorem runCalls_eq_self {Call : Type} {apply : Call → σ → σ} (h : ∀ c st, apply c st = st)
    (calls : List Call) (st : σ) : runCalls apply calls st = st := by
  induction calls generalizing st with
  | nil => rfl
  | cons c cs ih => simp only [runCalls, List.foldl_cons, h] at ih ⊢; exact ih st

end Authorizer
end Influx
