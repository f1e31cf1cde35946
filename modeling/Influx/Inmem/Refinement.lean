import Influx.Inmem.Service
import Mathlib.Logic.Function.Basic

/-!
# The DBRP store as a map keyed by triples

What the in-memory service is for: a finite map from (cluster, database,
retention policy) triples to mappings, `AbstractStore`.  The service keys its
`sync.Map` by `path.Join` of the triple instead, and `Join` merges triples:
`("a/b", "c", "d")` and `("a", "b/c", "d")` share the key `a/b/c/d`, so a
mapping stored under one is found, and deleted, under the other
(`findBy_path_collision`).  On triples of valid names the key is injective,
and there the service refines the map (`findBy_run`).

The simulation relation `Refines` is an invariant of the store, `Consistent`
(every entry is a mapping of valid names stored under its own key), together
with agreement of the store and the map on every valid triple.  Each call
preserves it (`Refines.apply`), hence every run from the empty store does
(`refines_run`).

`Create` returns `nil` for a mapping `Validate` rejects, and stores nothing
(`create_invalid_returns_nil`).

## Main definitions

* `Call`, `Service.run` — the calls that write, and runs of them.
* `AbstractStore` — the map the service is meant to be.
* `Service.Consistent`, `Refines` — the invariant and the simulation relation.

## Main results

* `findBy_run` — `FindBy` after any run of valid calls is the abstract lookup.
* `create_invalid_returns_nil` — `Create` swallows validation errors.
-/

namespace Influx
namespace Inmem

open Go.Path

/-- A (cluster, database, retention policy) triple. -/
abbrev Triple := String × String × String

/-- The triple a mapping is stored under. -/
def DBRPMapping.triple (m : DBRPMapping) : Triple := (m.cluster, m.database, m.retentionPolicy)

/-- The store key of a triple. -/
def Triple.key (t : Triple) : String := encodeDBRPMappingKey t.1 t.2.1 t.2.2

/-- All three names of a triple are valid. -/
def Triple.Valid (t : Triple) : Prop := ValidName t.1 ∧ ValidName t.2.1 ∧ ValidName t.2.2

instance : DecidablePred Triple.Valid := fun _ => inferInstanceAs (Decidable (_ ∧ _ ∧ _))

theorem Triple.key_injective {t t' : Triple} (ht : t.Valid) (ht' : t'.Valid)
    (h : t.key = t'.key) : t = t' := by
  obtain ⟨h1, h2, h3⟩ := join_injective ht.1 ht.2.1 ht.2.2 ht'.1 ht'.2.1 ht'.2.2 h
  exact Prod.ext h1 (Prod.ext h2 h3)

theorem Triple.key_eq_iff {t t' : Triple} (ht : t.Valid) (ht' : t'.Valid) :
    t.key = t'.key ↔ t = t' :=
  ⟨key_injective ht ht', congrArg _⟩

/-! ### Runs -/

/-- The calls that write to the store. -/
inductive Call
  | putDBRPMapping (m : DBRPMapping)
  | create (m : DBRPMapping)
  | delete (cluster db rp : String)
  deriving DecidableEq, Repr

/-- The triple a call names. -/
def Call.triple : Call → Triple
  | .putDBRPMapping m | .create m => m.triple
  | .delete cluster db rp => (cluster, db, rp)

/-- The service after one call. -/
def Service.apply (methods : MappingMethods) (s : Service) : Call → Service
  | .putDBRPMapping m => s.putDBRPMapping m
  | .create m => (s.create methods m).2
  | .delete cluster db rp => s.delete cluster db rp

/-- The service after a sequence of calls. -/
def Service.run (methods : MappingMethods) (s : Service) (calls : List Call) : Service :=
  calls.foldl (Service.apply methods) s

/-! ### The abstract store -/

/-- A finite map from triples to mappings. -/
def AbstractStore := Triple → Option DBRPMapping

/-- The empty map. -/
def AbstractStore.empty : AbstractStore := fun _ => none

/-- Each call on the map: `PutDBRPMapping` and a successful `Create` set the
mapping's triple, `Delete` clears its triple. -/
def AbstractStore.apply (methods : MappingMethods) (a : AbstractStore) : Call → AbstractStore
  | .putDBRPMapping m => Function.update a m.triple (some m)
  | .create m =>
    match methods.validate m, a m.triple with
    | some _, _ => a
    | none, none => Function.update a m.triple (some m)
    | none, some e => if methods.equal e m then Function.update a m.triple (some m) else a
  | .delete cluster db rp => Function.update a (cluster, db, rp) none

/-- The map after a sequence of calls. -/
def AbstractStore.run (methods : MappingMethods) (a : AbstractStore) (calls : List Call) :
    AbstractStore :=
  calls.foldl (AbstractStore.apply methods) a

/-! ### What each call does to the store -/

namespace Service

variable (methods : MappingMethods) (s : Service) (m : DBRPMapping)

@[simp] theorem load_putDBRPMapping (k : String) :
    (s.putDBRPMapping m).dbrpMappingKV.load k =
      if k = m.triple.key then some (.mapping m) else s.dbrpMappingKV.load k :=
  SyncMap.load_store _ _ _ _

@[simp] theorem load_delete (t : Triple) (k : String) :
    (s.delete t.1 t.2.1 t.2.2).dbrpMappingKV.load k =
      if k = t.key then none else s.dbrpMappingKV.load k :=
  SyncMap.load_delete _ _ _

/-- `Create`, read off the validation and the entry under the mapping's key. -/
theorem create_eq :
    s.create methods m =
      match methods.validate m, s.dbrpMappingKV.load m.triple.key with
      | some _, _ => (none, s)
      | none, none => (none, s.putDBRPMapping m)
      | none, some (.mapping e) =>
        if !methods.equal e m then (some (.platform .eConflict "dbrp mapping already exists"), s)
        else (none, s.putDBRPMapping m)
      | none, some (.other t) => (some (.notADBRPMapping t), s) := by
  unfold create loadDBRPMapping
  cases methods.validate m with
  | some _ => rfl
  | none =>
    rcases h : s.dbrpMappingKV.load m.triple.key with _ | _ | _ <;>
      simp [Triple.key, DBRPMapping.triple] at h <;> simp [h, errDBRPMappingNotFound]

/-- A `Create` that reports an error leaves the store as it was. -/
theorem create_snd_of_error {err : ServiceError} (h : (s.create methods m).1 = some err) :
    (s.create methods m).2 = s := by
  rw [create_eq] at h ⊢
  split at h <;> (try split at h) <;> simp_all

/-- A second `Create` of a triple, with a mapping `Equal` rejects: the conflict
error, the store as it was. -/
theorem create_snd_of_error_conflict :
    ((Service.empty.putDBRPMapping ⟨"cluster", "telegraf", "autogen", false, 1, 2⟩).create
        ⟨fun _ => none, fun _ _ => false⟩ ⟨"cluster", "telegraf", "autogen", true, 1, 2⟩).1 =
      some (.platform .eConflict "dbrp mapping already exists") ∧
    ((Service.empty.putDBRPMapping ⟨"cluster", "telegraf", "autogen", false, 1, 2⟩).create
        ⟨fun _ => none, fun _ _ => false⟩ ⟨"cluster", "telegraf", "autogen", true, 1, 2⟩).2 =
      Service.empty.putDBRPMapping ⟨"cluster", "telegraf", "autogen", false, 1, 2⟩ :=
  ⟨rfl, create_snd_of_error _ _ _ rfl⟩

end Service

/-! ### The invariant -/

/-- Every entry of the store is a mapping of valid names, stored under its own
key. -/
def Service.Consistent (s : Service) : Prop :=
  ∀ k v, (k, v) ∈ s.dbrpMappingKV.entries → ∃ m, v = .mapping m ∧ m.triple.Valid ∧ k = m.triple.key

theorem Service.consistent_empty : Service.empty.Consistent := fun _ _ h => nomatch h

theorem Service.Consistent.putDBRPMapping {s : Service} (hs : s.Consistent) {m : DBRPMapping}
    (hm : m.triple.Valid) : (s.putDBRPMapping m).Consistent := by
  intro k v h
  rcases List.mem_cons.1 h with h | h
  · cases h; exact ⟨m, rfl, hm, rfl⟩
  · exact hs k v (SyncMap.mem_without.1 h).1

theorem Service.Consistent.delete {s : Service} (hs : s.Consistent) (t : Triple) :
    (s.delete t.1 t.2.1 t.2.2).Consistent :=
  fun k v h => hs k v (SyncMap.mem_without.1 h).1

/-- A consistent store holds a mapping under a valid triple's key only if the
mapping has that triple. -/
theorem Service.Consistent.triple_eq {s : Service} (hs : s.Consistent) {t : Triple}
    (ht : t.Valid) {v : StoredValue} (h : s.dbrpMappingKV.load t.key = some v) :
    ∃ m, v = .mapping m ∧ m.triple = t := by
  obtain ⟨m, rfl, hm, hk⟩ := hs _ _ ((SyncMap.load_eq_some_iff _ _ _).1 h)
  exact ⟨m, rfl, (Triple.key_injective ht hm hk).symm⟩

/-! ### The simulation -/

/-- The store is consistent and agrees with the map on every valid triple. -/
structure Refines (s : Service) (a : AbstractStore) : Prop where
  consistent : s.Consistent
  agree : ∀ t : Triple, t.Valid → s.dbrpMappingKV.load t.key = (a t).map .mapping

theorem refines_empty : Refines Service.empty AbstractStore.empty :=
  ⟨Service.consistent_empty, fun _ _ => rfl⟩

section Simulation

variable {methods : MappingMethods} {s : Service} {a : AbstractStore}

theorem Refines.putDBRPMapping (h : Refines s a) {m : DBRPMapping} (hm : m.triple.Valid) :
    Refines (s.putDBRPMapping m) (Function.update a m.triple (some m)) := by
  refine ⟨h.consistent.putDBRPMapping hm, fun t ht => ?_⟩
  simp only [Service.load_putDBRPMapping, Function.update_apply, Triple.key_eq_iff ht hm]
  split_ifs
  · rfl
  · exact h.agree t ht

theorem Refines.delete (h : Refines s a) {t' : Triple} (ht' : t'.Valid) :
    Refines (s.delete t'.1 t'.2.1 t'.2.2) (Function.update a t' none) := by
  refine ⟨h.consistent.delete t', fun t ht => ?_⟩
  simp only [Service.load_delete, Function.update_apply, Triple.key_eq_iff ht ht']
  split_ifs
  · rfl
  · exact h.agree t ht

theorem Refines.create (h : Refines s a) {m : DBRPMapping} (hm : m.triple.Valid) :
    Refines (s.create methods m).2 (a.apply methods (.create m)) := by
  rw [Service.create_eq, h.agree _ hm, AbstractStore.apply]
  rcases methods.validate m with _ | _
  · rcases a m.triple with _ | e
    · exact h.putDBRPMapping hm
    · by_cases he : methods.equal e m <;> simp [he, h.putDBRPMapping hm, h]
  · exact h

/-- **One call preserves the simulation.** -/
theorem Refines.apply (h : Refines s a) {c : Call} (hc : c.triple.Valid) :
    Refines (s.apply methods c) (a.apply methods c) := by
  cases c with
  | putDBRPMapping m => exact h.putDBRPMapping hc
  | create m => exact h.create hc
  | delete cluster db rp => exact @Refines.delete _ _ h (cluster, db, rp) hc

end Simulation

/-- **Every run of valid calls preserves the simulation.** -/
theorem refines_run (methods : MappingMethods) :
    ∀ (calls : List Call) {s : Service} {a : AbstractStore}, Refines s a →
      (∀ c ∈ calls, c.triple.Valid) → Refines (s.run methods calls) (a.run methods calls)
  | [], _, _, h, _ => h
  | c :: calls, _, _, h, hcalls =>
    refines_run methods calls (h.apply (hcalls c (.head _))) fun c' hc' => hcalls c' (.tail _ hc')

/-! ### `FindBy` -/

theorem Service.findBy_eq_load (s : Service) (t : Triple) :
    s.findBy t.1 t.2.1 t.2.2 =
      match s.dbrpMappingKV.load t.key with
      | none => .error errDBRPMappingNotFound
      | some (.mapping m) => .ok m
      | some (.other typeName) => .error (.notADBRPMapping typeName) := rfl

/-- On a valid triple, `FindBy` of a store refining `a` is the lookup in `a`. -/
theorem Refines.findBy_eq {s : Service} {a : AbstractStore} (h : Refines s a) {t : Triple}
    (ht : t.Valid) : s.findBy t.1 t.2.1 t.2.2 = (a t).elim (.error errDBRPMappingNotFound) .ok := by
  rw [Service.findBy_eq_load, h.agree t ht]
  cases a t <;> rfl

/-- `FindBy` of a consistent store on a valid triple returns a mapping of that
triple. -/
theorem Service.Consistent.findBy_triple {s : Service} (hs : s.Consistent) {t : Triple}
    (ht : t.Valid) {m : DBRPMapping} (h : s.findBy t.1 t.2.1 t.2.2 = .ok m) : m.triple = t := by
  rw [Service.findBy_eq_load] at h
  split at h
  · cases h
  · rename_i hload
    cases h
    obtain ⟨_, he, htr⟩ := hs.triple_eq ht hload
    cases he
    exact htr
  · cases h

/-- Deleting one valid triple leaves `FindBy` of every other valid triple as it
was. -/
theorem Service.findBy_delete_of_ne (s : Service) {t t' : Triple} (ht : t.Valid) (ht' : t'.Valid)
    (hne : t' ≠ t) :
    (s.delete t'.1 t'.2.1 t'.2.2).findBy t.1 t.2.1 t.2.2 = s.findBy t.1 t.2.1 t.2.2 := by
  rw [Service.findBy_eq_load, Service.findBy_eq_load, Service.load_delete,
    if_neg fun h => hne (Triple.key_injective ht ht' h).symm]

/-- **The store refines the triple-keyed map on valid names.**  After any run
of `PutDBRPMapping`, `Create` and `Delete` calls on valid names from the empty
store, `FindBy` of a valid triple returns the mapping the map holds for it (the
one most recently stored under that triple and not deleted since), or
not-found; what it returns has the triple asked for; and deleting another valid
triple does not change it. -/
theorem findBy_run (methods : MappingMethods) (calls : List Call)
    (hcalls : ∀ c ∈ calls, c.triple.Valid) (cluster db rp : String)
    (ht : Triple.Valid (cluster, db, rp)) :
    (Service.empty.run methods calls).findBy cluster db rp =
        ((AbstractStore.empty.run methods calls) (cluster, db, rp)).elim
          (.error errDBRPMappingNotFound) .ok ∧
      (∀ m, (Service.empty.run methods calls).findBy cluster db rp = .ok m →
        m.triple = (cluster, db, rp)) ∧
      ∀ t : Triple, t.Valid → t ≠ (cluster, db, rp) →
        ((Service.empty.run methods calls).delete t.1 t.2.1 t.2.2).findBy cluster db rp =
          (Service.empty.run methods calls).findBy cluster db rp := by
  have h := refines_run methods calls refines_empty hcalls
  exact ⟨(h.findBy_eq ht :), fun _ hm => h.consistent.findBy_triple ht hm,
    fun _ ht' hne => (Service.findBy_delete_of_ne _ ht ht' hne :)⟩

/-- A mapping put into the empty store, and looked up. -/
theorem findBy_run_put :
    (∀ c ∈ [Call.putDBRPMapping ⟨"cluster", "telegraf", "autogen", true, 1, 2⟩],
        c.triple.Valid) ∧
      Triple.Valid ("cluster", "telegraf", "autogen") ∧
      ((Service.empty.run ⟨fun _ => none, (· == ·)⟩
            [.putDBRPMapping ⟨"cluster", "telegraf", "autogen", true, 1, 2⟩]).findBy
          "cluster" "telegraf" "autogen" =
        ((AbstractStore.empty.run ⟨fun _ => none, (· == ·)⟩
            [.putDBRPMapping ⟨"cluster", "telegraf", "autogen", true, 1, 2⟩])
          ("cluster", "telegraf", "autogen")).elim (.error errDBRPMappingNotFound) .ok) :=
  ⟨by decide, by decide,
    (findBy_run _ _ (by decide) "cluster" "telegraf" "autogen" (by decide)).1⟩

/-- `path.Join` merges the triples `("a/b", "c", "d")` and `("a", "b/c", "d")`:
a mapping put under the first is found, and deleted, under the second. -/
theorem findBy_path_collision :
    (Service.empty.putDBRPMapping ⟨"a/b", "c", "d", false, 1, 1⟩).findBy "a" "b/c" "d" =
        .ok ⟨"a/b", "c", "d", false, 1, 1⟩ ∧
      ((Service.empty.putDBRPMapping ⟨"a/b", "c", "d", false, 1, 1⟩).delete
          "a" "b/c" "d").findBy "a/b" "c" "d" = .error errDBRPMappingNotFound :=
  ⟨rfl, rfl⟩

/-! ### `Create` -/

/-- **`Create` swallows validation errors.**  For a mapping `Validate` rejects,
`Create` returns `nil` and stores nothing: its first branch returns `nil` where
it holds the error. -/
theorem create_invalid_returns_nil (methods : MappingMethods) (s : Service) (m : DBRPMapping)
    {err : ServiceError} (h : methods.validate m = some err) : s.create methods m = (none, s) := by
  rw [Service.create_eq, h]

/-- On the empty store, a mapping with an empty cluster name, which the
validation rejects: `Create` returns `nil` and the store stays empty. -/
theorem create_invalid_returns_nil_empty_cluster :
    (fun m : DBRPMapping => if m.cluster = "" then
        some (ServiceError.platform .eInvalid "cluster must contain at least one character")
        else none) ⟨"", "telegraf", "autogen", false, 1, 2⟩ =
        some (.platform .eInvalid "cluster must contain at least one character") ∧
      Service.empty.create ⟨fun m => if m.cluster = "" then
          some (.platform .eInvalid "cluster must contain at least one character") else none,
        (· == ·)⟩ ⟨"", "telegraf", "autogen", false, 1, 2⟩ = (none, Service.empty) :=
  ⟨rfl, create_invalid_returns_nil _ _ _ rfl⟩

/-- A `Create` that returns `nil` for a mapping `Validate` accepts has stored it. -/
theorem Service.findBy_create_of_valid (methods : MappingMethods) (s : Service)
    {m : DBRPMapping} (hv : methods.validate m = none) (h : (s.create methods m).1 = none) :
    (s.create methods m).2.findBy m.cluster m.database m.retentionPolicy = .ok m := by
  have hput : (s.putDBRPMapping m).findBy m.cluster m.database m.retentionPolicy = .ok m :=
    (Service.findBy_eq_load _ m.triple).trans (by simp)
  rw [Service.create_eq, hv] at h ⊢
  split <;> (try split) <;> simp_all

/-- A mapping created in the empty store, with a `Validate` that accepts it, is
found again. -/
theorem Service.findBy_create_of_valid_empty :
    (fun _ : DBRPMapping => (none : Option ServiceError))
        ⟨"cluster", "telegraf", "autogen", false, 1, 2⟩ = none ∧
      (Service.empty.create ⟨fun _ => none, (· == ·)⟩
        ⟨"cluster", "telegraf", "autogen", false, 1, 2⟩).1 = none ∧
      (Service.empty.create ⟨fun _ => none, (· == ·)⟩
        ⟨"cluster", "telegraf", "autogen", false, 1, 2⟩).2.findBy "cluster" "telegraf" "autogen" =
        .ok ⟨"cluster", "telegraf", "autogen", false, 1, 2⟩ :=
  ⟨rfl, rfl, Service.findBy_create_of_valid _ _ rfl rfl⟩

end Inmem
end Influx
