import Influx.Inmem.Refinement
import Mathlib.Data.List.Nodup

/-!
# `FindMany` and `Find`

`FindMany` has two paths.  With cluster, database and retention policy all set
in the filter it looks their key up through `FindBy`; otherwise it walks the
store and keeps the mappings `filterFunc` accepts.  The walk checks all four
fields of the filter, the lookup none of them: it trusts the key, and it never
reads `Default`.

On a store reached by calls on valid names, with a filter whose three names,
when all set, are valid and whose `Default` is then unset, both paths return
exactly the stored mappings the filter accepts, each once (`findMany_run`).
Outside that, the lookup disagrees with the walk: a key shared through
`path.Join`, or a `Default` the lookup does not read, gives back a mapping the
filter rejects (`findMany_lookup_rejected`).

## Main definitions

* `Service.mappings` — the mappings the store holds.
* `DBRPMappingFilter.Matches` — the filter's rule, which `filterFunc` decides.

## Main results

* `findMany_run` — what `FindMany` and `Find` return.
-/

namespace Influx
namespace Inmem

/-- The mapping a stored value is, if it is one. -/
def StoredValue.toMapping : StoredValue → Option DBRPMapping
  | .mapping m => some m
  | .other _ => none

@[simp] theorem StoredValue.toMapping_mapping (m : DBRPMapping) :
    (StoredValue.mapping m).toMapping = some m := rfl

/-- The mappings the store holds, in `Range` order. -/
def Service.mappings (s : Service) : List DBRPMapping :=
  s.dbrpMappingKV.entries.filterMap (·.2.toMapping)

/-! ### The walk -/

/-- Over entries that are all mappings, with a callback that never stops, the
walk of `forEachDBRPMapping` is a left fold of the callback over the mappings. -/
theorem rangeLoop_forEachDBRPMappingFunc {σ : Type} (fn : DBRPMapping → σ → Bool × σ)
    (hfn : ∀ m st, (fn m st).1 = true) :
    ∀ (entries : List (String × StoredValue)) (err : Option ServiceError) (st : σ),
      (∀ e ∈ entries, ∃ m, e.2 = .mapping m) →
      SyncMap.rangeLoop (Service.forEachDBRPMappingFunc fn) entries (err, st) =
        (err, (entries.filterMap (·.2.toMapping)).foldl (fun st m => (fn m st).2) st)
  | [], _, _, _ => rfl
  | (k, v) :: rest, err, st, h => by
    obtain ⟨m, rfl⟩ := h (k, v) (.head _)
    have hcont := hfn m st
    rcases hfm : fn m st with ⟨c, st'⟩
    rw [hfm] at hcont
    cases hcont
    simp only [SyncMap.rangeLoop, Service.forEachDBRPMappingFunc, hfm, List.filterMap_cons,
      StoredValue.toMapping_mapping, List.foldl_cons]
    exact rangeLoop_forEachDBRPMappingFunc fn hfn rest err st' fun e he => h e (.tail _ he)

theorem foldl_append_if (fn : DBRPMapping → Bool) :
    ∀ (ms acc : List DBRPMapping),
      ms.foldl (fun acc m => if fn m then acc ++ [m] else acc) acc = acc ++ ms.filter fn
  | [], acc => by simp
  | m :: ms, acc => by
    rw [List.foldl_cons, foldl_append_if fn ms]
    by_cases h : fn m <;> simp [h, List.filter_cons]

/-- On a consistent store the walk of `filterDBRPMappings` finds every mapping
`fn` accepts, in `Range` order. -/
theorem Service.Consistent.filterDBRPMappings_eq {s : Service} (hs : s.Consistent)
    (fn : DBRPMapping → Bool) : s.filterDBRPMappings fn = .ok (s.mappings.filter fn) := by
  have hall : ∀ e ∈ s.dbrpMappingKV.entries, ∃ m, e.2 = .mapping m := fun e he =>
    (hs e.1 e.2 he).imp fun _ hm => hm.1
  unfold Service.filterDBRPMappings Service.forEachDBRPMapping SyncMap.range
  rw [rangeLoop_forEachDBRPMappingFunc _ (fun _ _ => rfl) _ _ _ hall]
  simp only [foldl_append_if, List.nil_append]
  rfl

theorem Service.mem_mappings {s : Service} {m : DBRPMapping} :
    m ∈ s.mappings ↔ ∃ k, (k, StoredValue.mapping m) ∈ s.dbrpMappingKV.entries := by
  simp only [Service.mappings, List.mem_filterMap]
  constructor
  · rintro ⟨⟨k, _ | _⟩, he, h⟩ <;> simp [StoredValue.toMapping] at h
    exact ⟨k, h ▸ he⟩
  · rintro ⟨k, hk⟩
    exact ⟨_, hk, rfl⟩

/-- Keyed by their triples, the mappings of entries stored under their own keys
are the keys. -/
theorem map_key_filterMap_toMapping :
    ∀ entries : List (String × StoredValue),
      (∀ e ∈ entries, ∃ m, e.2 = .mapping m ∧ e.1 = m.triple.key) →
      (entries.filterMap (·.2.toMapping)).map (·.triple.key) = entries.map Prod.fst
  | [], _ => rfl
  | (k, v) :: rest, h => by
    obtain ⟨m, rfl, rfl⟩ := h (k, v) (.head _)
    simp only [List.filterMap_cons, StoredValue.toMapping_mapping, List.map_cons,
      map_key_filterMap_toMapping rest fun e he => h e (.tail _ he)]

/-- A consistent store holds each mapping once. -/
theorem Service.Consistent.nodup_mappings {s : Service} (hs : s.Consistent) : s.mappings.Nodup := by
  refine List.Nodup.of_map (·.triple.key) ?_
  unfold Service.mappings
  rw [map_key_filterMap_toMapping _ fun e he => ?_]
  · exact s.dbrpMappingKV.nodupKeys
  · obtain ⟨m, hv, -, hk⟩ := hs e.1 e.2 he
    exact ⟨m, hv, hk⟩

/-! ### The lookup -/

/-- A mapping a consistent store holds sits under its own key. -/
theorem Service.Consistent.load_of_mem_mappings {s : Service} (hs : s.Consistent)
    {m : DBRPMapping} (hm : m ∈ s.mappings) : s.dbrpMappingKV.load m.triple.key = some (.mapping m) := by
  obtain ⟨k, hk⟩ := Service.mem_mappings.1 hm
  obtain ⟨_, he, -, rfl⟩ := hs _ _ hk
  cases he
  exact (SyncMap.load_eq_some_iff _ _ _).2 hk

/-- In a consistent store, `FindBy` of a valid triple returns the one mapping of
that triple, or not-found when there is none. -/
theorem Service.Consistent.findBy_cases {s : Service} (hs : s.Consistent) {c d r : String}
    (ht : Triple.Valid (c, d, r)) :
    (∃ m, s.findBy c d r = .ok m ∧ m ∈ s.mappings ∧ m.triple = (c, d, r) ∧
        ∀ m' ∈ s.mappings, m'.triple = (c, d, r) → m' = m) ∨
      (s.findBy c d r = .error errDBRPMappingNotFound ∧
        ∀ m' ∈ s.mappings, m'.triple ≠ (c, d, r)) := by
  rw [Service.findBy_eq_load s (c, d, r)]
  rcases hload : s.dbrpMappingKV.load (Triple.key (c, d, r)) with _ | v
  · refine .inr ⟨rfl, fun m' hm' htr => ?_⟩
    have := hs.load_of_mem_mappings hm'
    rw [htr, hload] at this
    cases this
  · obtain ⟨m, rfl, htr⟩ := hs.triple_eq ht hload
    refine .inl ⟨m, rfl, Service.mem_mappings.2 ⟨_, (SyncMap.load_eq_some_iff _ _ _).1 hload⟩,
      htr, fun m' hm' htr' => ?_⟩
    have := hs.load_of_mem_mappings hm'
    rw [htr', hload] at this
    cases this
    rfl

/-! ### The filter's rule -/

/-- What a filter asks of a mapping: each of cluster, database, retention
policy and `Default` is unset or equal to the mapping's. -/
def DBRPMappingFilter.Matches (f : DBRPMappingFilter) (m : DBRPMapping) : Prop :=
  (f.cluster = none ∨ f.cluster = some m.cluster) ∧
    (f.database = none ∨ f.database = some m.database) ∧
    (f.retentionPolicy = none ∨ f.retentionPolicy = some m.retentionPolicy) ∧
    (f.default = none ∨ f.default = some m.default)

/-- `filterFunc` decides the filter's rule. -/
theorem Service.filterFunc_eq_true_iff (f : DBRPMappingFilter) (m : DBRPMapping) :
    Service.filterFunc f m = true ↔ f.Matches m := by
  simp [Service.filterFunc, DBRPMappingFilter.Matches, and_assoc]

instance (f : DBRPMappingFilter) (m : DBRPMapping) : Decidable (f.Matches m) :=
  decidable_of_iff _ (Service.filterFunc_eq_true_iff f m)

/-! ### Which path a filter takes -/

section Paths

variable (s : Service) {f : DBRPMappingFilter}

theorem Service.filterFunc_of_all_set {c d r : String} (hc : f.cluster = some c)
    (hd : f.database = some d) (hr : f.retentionPolicy = some r) (hdef : f.default = none)
    (m : DBRPMapping) : Service.filterFunc f m = true ↔ m.triple = (c, d, r) := by
  simp only [Service.filterFunc, hc, hd, hr, hdef, Option.isNone_some, Option.isNone_none,
    Bool.false_or, Bool.or_true, Bool.and_true, Bool.and_eq_true, beq_iff_eq,
    Option.some.injEq, DBRPMapping.triple, Prod.mk.injEq, Bool.true_or, and_true,
    @eq_comm _ c, @eq_comm _ d, @eq_comm _ r, and_assoc]

theorem Service.findMany_of_all_set {c d r : String} (hc : f.cluster = some c)
    (hd : f.database = some d) (hr : f.retentionPolicy = some r) :
    s.findMany f = (do let m ← s.findBy c d r; .ok ([m], 1)) := by
  rcases f with ⟨_, _, _, _⟩
  subst hc hd hr
  rfl

theorem Service.findMany_of_not_all_set
    (h : ¬(f.cluster.isSome ∧ f.database.isSome ∧ f.retentionPolicy.isSome)) :
    s.findMany f =
      (do let ms ← s.filterDBRPMappings (Service.filterFunc f); .ok (ms, ms.length)) := by
  rcases f with ⟨_ | _, _ | _, _ | _, _⟩ <;> simp_all [Service.findMany]

theorem Service.find_of_all_set {c d r : String} (hc : f.cluster = some c)
    (hd : f.database = some d) (hr : f.retentionPolicy = some r) :
    s.find f = s.findBy c d r := by
  rcases f with ⟨_, _, _, _⟩
  subst hc hd hr
  rfl

theorem Service.find_of_not_all_set
    (h : ¬(f.cluster.isSome ∧ f.database.isSome ∧ f.retentionPolicy.isSome))
    (hsome : f.cluster.isSome ∨ f.database.isSome ∨ f.retentionPolicy.isSome) :
    s.find f =
      (do
        let (mappings, n) ← s.findMany f
        if n < 1 then .error errDBRPMappingNotFound else
        match mappings with
        | m :: _ => .ok m
        | [] => .error errDBRPMappingNotFound) := by
  rcases f with ⟨_ | _, _ | _, _ | _, _⟩ <;> first | rfl | simp_all

end Paths

/-! ### What `FindMany` and `Find` return -/

/-- The filters on which the lookup and the walk agree: when cluster, database
and retention policy are all set, they are valid names and `Default` is unset. -/
def DBRPMappingFilter.Agreeing (f : DBRPMappingFilter) : Prop :=
  ∀ c d r, f.cluster = some c → f.database = some d → f.retentionPolicy = some r →
    Triple.Valid (c, d, r) ∧ f.default = none

theorem DBRPMappingFilter.Agreeing.of_all_set {f : DBRPMappingFilter} (hf : f.Agreeing)
    (hall : f.cluster.isSome ∧ f.database.isSome ∧ f.retentionPolicy.isSome) :
    ∃ c d r, f.cluster = some c ∧ f.database = some d ∧ f.retentionPolicy = some r ∧
      Triple.Valid (c, d, r) ∧ f.default = none := by
  obtain ⟨⟨c, hc⟩, ⟨d, hd⟩, ⟨r, hr⟩⟩ := And.imp Option.isSome_iff_exists.1
    (And.imp Option.isSome_iff_exists.1 Option.isSome_iff_exists.1) hall
  exact ⟨c, d, r, hc, hd, hr, hf c d r hc hd hr⟩

theorem Service.Consistent.findMany_eq {s : Service} (hs : s.Consistent) {f : DBRPMappingFilter}
    (hf : f.Agreeing) {ms : List DBRPMapping} {n : Nat} (h : s.findMany f = .ok (ms, n)) :
    (∀ m, m ∈ ms ↔ m ∈ s.mappings ∧ Service.filterFunc f m = true) ∧ ms.Nodup ∧ n = ms.length := by
  by_cases hall : f.cluster.isSome ∧ f.database.isSome ∧ f.retentionPolicy.isSome
  · -- the lookup
    obtain ⟨c, d, r, hc, hd, hr, ht, hdef⟩ := hf.of_all_set hall
    rw [s.findMany_of_all_set hc hd hr] at h
    rcases hs.findBy_cases ht with ⟨m, hm, hmem, htr, huniq⟩ | ⟨he, -⟩
    · simp only [hm, bind, Except.bind, Except.ok.injEq, Prod.mk.injEq] at h
      obtain ⟨rfl, rfl⟩ := h
      refine ⟨fun m' => ?_, List.nodup_singleton m, rfl⟩
      rw [Service.filterFunc_of_all_set hc hd hr hdef, List.mem_singleton]
      exact ⟨fun h => h ▸ ⟨hmem, htr⟩, fun h => huniq m' h.1 h.2⟩
    · simp [he, bind, Except.bind] at h
  · -- the walk
    rw [s.findMany_of_not_all_set hall, hs.filterDBRPMappings_eq] at h
    simp only [bind, Except.bind, Except.ok.injEq, Prod.mk.injEq] at h
    obtain ⟨rfl, rfl⟩ := h
    exact ⟨fun m => List.mem_filter, hs.nodup_mappings.filter _, rfl⟩

theorem Service.Consistent.find_cases {s : Service} (hs : s.Consistent) {f : DBRPMappingFilter}
    (hf : f.Agreeing) (hsome : f.cluster.isSome ∨ f.database.isSome ∨ f.retentionPolicy.isSome) :
    (∃ m, s.find f = .ok m ∧ m ∈ s.mappings ∧ Service.filterFunc f m = true) ∨
      (s.find f = .error errDBRPMappingNotFound ∧
        ∀ m ∈ s.mappings, Service.filterFunc f m = false) := by
  by_cases hall : f.cluster.isSome ∧ f.database.isSome ∧ f.retentionPolicy.isSome
  · -- the lookup
    obtain ⟨c, d, r, hc, hd, hr, ht, hdef⟩ := hf.of_all_set hall
    have hff := Service.filterFunc_of_all_set hc hd hr hdef
    rw [s.find_of_all_set hc hd hr]
    rcases hs.findBy_cases ht with ⟨m, hm, hmem, htr, -⟩ | ⟨he, hnone⟩
    · exact .inl ⟨m, hm, hmem, (hff m).2 htr⟩
    · exact .inr ⟨he, fun m hm => Bool.eq_false_iff.2 fun h => hnone m hm ((hff m).1 h)⟩
  · -- the walk
    rw [s.find_of_not_all_set hall hsome, s.findMany_of_not_all_set hall,
      hs.filterDBRPMappings_eq]
    rcases hfl : s.mappings.filter (Service.filterFunc f) with _ | ⟨m, rest⟩
    · refine .inr ⟨rfl, fun m hm => Bool.eq_false_iff.2 fun h => ?_⟩
      have : m ∈ s.mappings.filter (Service.filterFunc f) := List.mem_filter.2 ⟨hm, h⟩
      rw [hfl] at this
      cases this
    · have := List.mem_filter.1 (hfl ▸ List.mem_cons_self m rest)
      exact .inl ⟨m, rfl, this⟩

/-- **`FindMany` and `Find` return exactly the matching mappings.**  On a store
reached from the empty one by calls on valid names, and for a filter whose
three names, when all set, are valid and whose `Default` is then unset:
whatever `FindMany` returns without error is the list of the stored mappings
the filter accepts, each once, with its length as the count; and `Find`, given
one of the three names, returns one of those mappings, or not-found exactly
when there is none. -/
theorem findMany_run (methods : MappingMethods) (calls : List Call)
    (hcalls : ∀ c ∈ calls, c.triple.Valid) (f : DBRPMappingFilter) (hf : f.Agreeing) :
    (∀ ms n, (Service.empty.run methods calls).findMany f = .ok (ms, n) →
      (∀ m, m ∈ ms ↔ m ∈ (Service.empty.run methods calls).mappings ∧
        f.Matches m) ∧ ms.Nodup ∧ n = ms.length) ∧
    (f.cluster.isSome ∨ f.database.isSome ∨ f.retentionPolicy.isSome →
      (∃ m, (Service.empty.run methods calls).find f = .ok m ∧
        m ∈ (Service.empty.run methods calls).mappings ∧ f.Matches m) ∨
      ((Service.empty.run methods calls).find f = .error errDBRPMappingNotFound ∧
        ∀ m ∈ (Service.empty.run methods calls).mappings, ¬ f.Matches m)) := by
  have hs := (refines_run methods calls refines_empty hcalls).consistent
  simp only [← Service.filterFunc_eq_true_iff, Bool.not_eq_true]
  exact ⟨fun _ _ h => hs.findMany_eq hf h, hs.find_cases hf⟩

/-- A lookup by a full valid triple, `Default` unset. -/
theorem findMany_run_lookup :
    (∀ c ∈ [Call.putDBRPMapping ⟨"cluster", "telegraf", "autogen", true, 1, 2⟩],
        c.triple.Valid) ∧
      DBRPMappingFilter.Agreeing ⟨some "cluster", some "telegraf", some "autogen", none⟩ ∧
      ∀ ms n, (Service.empty.run ⟨fun _ => none, (· == ·)⟩
          [.putDBRPMapping ⟨"cluster", "telegraf", "autogen", true, 1, 2⟩]).findMany
          ⟨some "cluster", some "telegraf", some "autogen", none⟩ = .ok (ms, n) →
        (∀ m, m ∈ ms ↔ m ∈ (Service.empty.run ⟨fun _ => none, (· == ·)⟩
            [.putDBRPMapping ⟨"cluster", "telegraf", "autogen", true, 1, 2⟩]).mappings ∧
          DBRPMappingFilter.Matches ⟨some "cluster", some "telegraf", some "autogen", none⟩ m) ∧
        ms.Nodup ∧ n = ms.length := by
  have hf : DBRPMappingFilter.Agreeing ⟨some "cluster", some "telegraf", some "autogen", none⟩ := by
    rintro c d r ⟨⟩ ⟨⟩ ⟨⟩
    exact ⟨by decide, rfl⟩
  exact ⟨by decide, hf, (findMany_run _ _ (by decide) _ hf).1⟩

/-- The lookup trusts the key and never reads `Default`: with the three names
set, `FindMany` returns a mapping the filter rejects, for a `Default` the
mapping does not have, and for a triple that only shares its key. -/
theorem findMany_lookup_rejected :
    (Service.empty.putDBRPMapping ⟨"cluster", "telegraf", "autogen", false, 1, 2⟩).findMany
        ⟨some "cluster", some "telegraf", some "autogen", some true⟩ =
      .ok ([⟨"cluster", "telegraf", "autogen", false, 1, 2⟩], 1) ∧
    ¬ DBRPMappingFilter.Matches ⟨some "cluster", some "telegraf", some "autogen", some true⟩
      ⟨"cluster", "telegraf", "autogen", false, 1, 2⟩ ∧
    (Service.empty.putDBRPMapping ⟨"a/b", "c", "d", false, 1, 2⟩).findMany
        ⟨some "a", some "b/c", some "d", none⟩ = .ok ([⟨"a/b", "c", "d", false, 1, 2⟩], 1) ∧
    ¬ DBRPMappingFilter.Matches ⟨some "a", some "b/c", some "d", none⟩ ⟨"a/b", "c", "d", false, 1, 2⟩ :=
  ⟨rfl, by decide, rfl, by decide⟩

end Inmem
end Influx
