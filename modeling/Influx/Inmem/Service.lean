import Influx.Go.Path

/-!
# The in-memory DBRP mapping service

`inmem/dbrp_mapping_service.go`: DBRP (database / retention policy) mappings
held in a `sync.Map` under the key `path.Join(cluster, db, rp)`.

The `sync.Map` is an association list with distinct keys, a fact `SyncMap`
carries as a field.  Its values are Go `interface{}` values: the service only
stores mappings, but every read checks the dynamic type, and a value of another
type makes the read fail; `StoredValue.other` is such a value.  `Range` visits
entries in list order.  Go promises no order, and no result proved here depends
on it.

`DBRPMapping.Validate` and `DBRPMapping.Equal` are defined outside this package
and are parameters, `MappingMethods`.  Each method that writes returns the new
service alongside its result.

## Main definitions

* `SyncMap` — `sync.Map`: `load`, `store`, `delete`, `range`.
* `DBRPMapping`, `DBRPMappingFilter`, `Service`.
* `encodeDBRPMappingKey`, `loadDBRPMapping`, `findBy`, `forEachDBRPMapping`,
  `filterDBRPMappings`, `find`, `findMany`, `create`, `putDBRPMapping`,
  `delete` — the Go functions.
-/

namespace Influx
namespace Inmem

/-- The `errors.Code` values the service uses. -/
inductive ErrorCode
  | eNotFound
  | eInvalid
  | eConflict
  deriving DecidableEq, Repr

/-- The errors the service returns. -/
inductive ServiceError
  /-- `&errors.Error{Code: code, Msg: msg}`. -/
  | platform (code : ErrorCode) (msg : String)
  /-- `fmt.Errorf("type %T is not a dbrp mapping", v)`. -/
  | notADBRPMapping (typeName : String)
  deriving DecidableEq, Repr

/-- `errDBRPMappingNotFound`. -/
def errDBRPMappingNotFound : ServiceError := .platform .eNotFound "dbrp mapping not found"

/-- `influxdb.DBRPMapping`.  The organization and bucket IDs are only read by
`Validate` and `Equal`. -/
structure DBRPMapping where
  cluster : String
  database : String
  retentionPolicy : String
  default : Bool
  organizationID : UInt64
  bucketID : UInt64
  deriving DecidableEq, Repr

/-- `influxdb.DBRPMappingFilter`; a `nil` field is `none`. -/
structure DBRPMappingFilter where
  cluster : Option String
  database : Option String
  retentionPolicy : Option String
  default : Option Bool
  deriving DecidableEq, Repr

/-- `DBRPMapping.Validate` (`nil` is `none`) and `DBRPMapping.Equal`. -/
structure MappingMethods where
  validate : DBRPMapping → Option ServiceError
  equal : DBRPMapping → DBRPMapping → Bool

/-- A value of the `sync.Map`. -/
inductive StoredValue
  | mapping (m : DBRPMapping)
  /-- A value of another dynamic type, named as `%T` prints it. -/
  | other (typeName : String)
  deriving DecidableEq, Repr

/-! ### `sync.Map` -/

/-- `sync.Map` from strings: its entries, one per key. -/
structure SyncMap where
  entries : List (String × StoredValue)
  nodupKeys : (entries.map Prod.fst).Nodup

namespace SyncMap

/-- The empty map. -/
def empty : SyncMap := ⟨[], List.nodup_nil⟩

/-- `Load`. -/
def load (m : SyncMap) (k : String) : Option StoredValue := m.entries.lookup k

/-- The entries with a key other than `k`. -/
def without (m : SyncMap) (k : String) : List (String × StoredValue) :=
  m.entries.filter (·.1 != k)

theorem nodup_without (m : SyncMap) (k : String) : ((m.without k).map Prod.fst).Nodup :=
  m.nodupKeys.sublist ((List.filter_sublist _).map _)

theorem not_mem_without (m : SyncMap) (k : String) : k ∉ (m.without k).map Prod.fst := by
  simp [without]

/-- `Store`. -/
def store (m : SyncMap) (k : String) (v : StoredValue) : SyncMap :=
  ⟨(k, v) :: m.without k, List.nodup_cons.2 ⟨m.not_mem_without k, m.nodup_without k⟩⟩

/-- `Delete`. -/
def delete (m : SyncMap) (k : String) : SyncMap := ⟨m.without k, m.nodup_without k⟩

theorem mem_without {m : SyncMap} {k : String} {e : String × StoredValue} :
    e ∈ m.without k ↔ e ∈ m.entries ∧ e.1 ≠ k := by
  simp [without]

theorem lookup_cons_ite (l : List (String × StoredValue)) (k k₀ : String) (v : StoredValue) :
    ((k₀, v) :: l).lookup k = if k = k₀ then some v else l.lookup k := by
  simp only [List.lookup_cons]
  split <;> simp_all

theorem lookup_filter_ne (l : List (String × StoredValue)) (k k' : String) :
    (l.filter (·.1 != k)).lookup k' = if k' = k then none else l.lookup k' := by
  induction l with
  | nil => simp
  | cons e l ih =>
    obtain ⟨k₀, v⟩ := e
    by_cases h₀ : k₀ = k
    · subst h₀
      rw [List.filter_cons, if_neg (by simp), ih]
      by_cases h' : k' = k₀ <;> simp [lookup_cons_ite, h']
    · rw [List.filter_cons, if_pos (by simp [h₀]), lookup_cons_ite, ih]
      by_cases h' : k' = k₀ <;> simp [lookup_cons_ite, h', h₀]

theorem lookup_eq_some_iff {l : List (String × StoredValue)} (hl : (l.map Prod.fst).Nodup)
    (k : String) (v : StoredValue) : l.lookup k = some v ↔ (k, v) ∈ l := by
  induction l with
  | nil => simp
  | cons e l ih =>
    obtain ⟨k₀, v₀⟩ := e
    simp only [List.map_cons, List.nodup_cons] at hl
    by_cases h : k = k₀
    · subst h
      have : (k, v) ∉ l := fun hm => hl.1 (List.mem_map.2 ⟨_, hm, rfl⟩)
      simp [lookup_cons_ite, this, eq_comm]
    · simp [lookup_cons_ite, h, ih hl.2]

@[simp] theorem load_store (m : SyncMap) (k k' : String) (v : StoredValue) :
    (m.store k v).load k' = if k' = k then some v else m.load k' := by
  by_cases h : k' = k <;> simp [load, store, without, lookup_cons_ite, h, lookup_filter_ne]

@[simp] theorem load_delete (m : SyncMap) (k k' : String) :
    (m.delete k).load k' = if k' = k then none else m.load k' :=
  lookup_filter_ne _ _ _

theorem load_eq_some_iff (m : SyncMap) (k : String) (v : StoredValue) :
    m.load k = some v ↔ (k, v) ∈ m.entries :=
  lookup_eq_some_iff m.nodupKeys k v

/-- The loop of `Range`: call `f` on each entry in turn, threading its state,
until it returns `false`. -/
def rangeLoop {σ : Type} (f : String → StoredValue → σ → Bool × σ) :
    List (String × StoredValue) → σ → σ
  | [], st => st
  | (k, v) :: rest, st =>
    match f k v st with
    | (true, st') => rangeLoop f rest st'
    | (false, st') => st'

/-- `Range`. -/
def range {σ : Type} (m : SyncMap) (f : String → StoredValue → σ → Bool × σ) (st : σ) : σ :=
  rangeLoop f m.entries st

end SyncMap

/-! ### The service -/

/-- `inmem.Service`, of which this file uses the DBRP mapping map. -/
structure Service where
  dbrpMappingKV : SyncMap

/-- The service as `NewService` returns it. -/
def Service.empty : Service := ⟨.empty⟩

/-- `encodeDBRPMappingKey`. -/
def encodeDBRPMappingKey (cluster db rp : String) : String := Go.Path.join [cluster, db, rp]

namespace Service

variable (s : Service)

/-- `loadDBRPMapping`. -/
def loadDBRPMapping (cluster db rp : String) : Except ServiceError DBRPMapping :=
  match s.dbrpMappingKV.load (encodeDBRPMappingKey cluster db rp) with
  | none => .error errDBRPMappingNotFound
  | some (.mapping m) => .ok m
  | some (.other t) => .error (.notADBRPMapping t)

/-- `FindBy`. -/
def findBy (cluster db rp : String) : Except ServiceError DBRPMapping :=
  s.loadDBRPMapping cluster db rp

/-- The callback `forEachDBRPMapping` hands to `Range`: a value that is not a
mapping records the error and stops the walk; a mapping goes to `fn`.  The
state is the error so far and the state of `fn`'s closure. -/
def forEachDBRPMappingFunc {σ : Type} (fn : DBRPMapping → σ → Bool × σ) (_ : String)
    (v : StoredValue) (st : Option ServiceError × σ) : Bool × (Option ServiceError × σ) :=
  match v with
  | .mapping m =>
    let (cont, acc) := fn m st.2
    (cont, (st.1, acc))
  | .other t => (false, (some (.notADBRPMapping t), st.2))

/-- `forEachDBRPMapping`. -/
def forEachDBRPMapping {σ : Type} (fn : DBRPMapping → σ → Bool × σ) (init : σ) :
    Option ServiceError × σ :=
  s.dbrpMappingKV.range (forEachDBRPMappingFunc fn) (none, init)

/-- `filterDBRPMappings`. -/
def filterDBRPMappings (fn : DBRPMapping → Bool) : Except ServiceError (List DBRPMapping) :=
  match s.forEachDBRPMapping
      (fun m mappings => (true, if fn m then mappings ++ [m] else mappings)) [] with
  | (some err, _) => .error err
  | (none, mappings) => .ok mappings

/-- The `filterFunc` closure of `FindMany`. -/
def filterFunc (filter : DBRPMappingFilter) (mapping : DBRPMapping) : Bool :=
  (filter.cluster.isNone || filter.cluster == some mapping.cluster) &&
    (filter.database.isNone || filter.database == some mapping.database) &&
    (filter.retentionPolicy.isNone || filter.retentionPolicy == some mapping.retentionPolicy) &&
    (filter.default.isNone || filter.default == some mapping.default)

/-- `FindMany`: the mappings and their count.  With all of cluster, database
and retention policy set it looks the one key up. -/
def findMany (filter : DBRPMappingFilter) : Except ServiceError (List DBRPMapping × Nat) :=
  match filter.cluster, filter.database, filter.retentionPolicy with
  | some c, some d, some r => do
    let m ← s.findBy c d r
    .ok ([m], 1)
  | _, _, _ => do
    let mappings ← s.filterDBRPMappings (filterFunc filter)
    .ok (mappings, mappings.length)

/-- `Find`. -/
def find (filter : DBRPMappingFilter) : Except ServiceError DBRPMapping :=
  match filter.cluster, filter.database, filter.retentionPolicy with
  | none, none, none => .error (.platform .eInvalid "no filter parameters provided")
  | some c, some d, some r => s.findBy c d r
  | _, _, _ => do
    let (mappings, n) ← s.findMany filter
    if n < 1 then .error errDBRPMappingNotFound else
    match mappings with
    | m :: _ => .ok m
    | [] => .error errDBRPMappingNotFound

/-- `PutDBRPMapping`, which always returns `nil`. -/
def putDBRPMapping (m : DBRPMapping) : Service :=
  ⟨s.dbrpMappingKV.store (encodeDBRPMappingKey m.cluster m.database m.retentionPolicy)
    (.mapping m)⟩

/-- `Create`.  A mapping `Validate` rejects makes it return `nil`, the store
untouched. -/
def create (methods : MappingMethods) (m : DBRPMapping) : Option ServiceError × Service :=
  match methods.validate m with
  | some _ => (none, s)
  | none =>
    match s.loadDBRPMapping m.cluster m.database m.retentionPolicy with
    | .error err => if err = errDBRPMappingNotFound then (none, s.putDBRPMapping m) else (some err, s)
    | .ok existing =>
      if !methods.equal existing m then
        (some (.platform .eConflict "dbrp mapping already exists"), s)
      else (none, s.putDBRPMapping m)

/-- `Delete`, which always returns `nil`. -/
def delete (cluster db rp : String) : Service :=
  ⟨s.dbrpMappingKV.delete (encodeDBRPMappingKey cluster db rp)⟩

end Service

end Inmem
end Influx
