import Influx.Inmem.Refinement
import Mathlib.Data.List.Nodup

/-!
# Concurrent calls on the in-memory DBRP store

`inmem.Service` keeps its mappings in a `sync.Map`, whose `Load`, `Store` and
`Delete` are each atomic, and takes no lock of its own: calls made by
concurrent goroutines interleave at those accesses.  `PutDBRPMapping` and
`Delete` make one access each.  `Create` makes two, the `Load` of
`loadDBRPMapping` and, when what it loaded passes the check, the `Store` of
`PutDBRPMapping`, and other goroutines may run between them.

The model is an interleaving semantics.  A `World` is the service and one
`Thread` per goroutine: the call it makes and how far it has got in it, its
`Pc`.  A schedule lists the goroutines in the order in which they make their
accesses, and `World.run` makes them.

Every schedule keeps the store consistent (`World.run_consistent`), and no
goroutine waits for another: two turns of its own and it has returned
(`World.run_returns`).  The schedule that lets each goroutine return before the
next one starts makes the calls one after another, as the sequential service of
`Inmem.Refinement` does (`World.run_serial`).  Goroutines that call on pairwise
distinct keys do not see each other.  Every schedule that gives each of them two
turns ends as the calls made one after another
(`World.run_eq_callAll_of_keys_nodup`), and on distinct valid triples the store
is then the abstract map of the calls (`World.findBy_run_of_triples_nodup`).

On one key that fails.  Two `Create`s of mappings of a triple the store does not
hold both return `nil` under every schedule in which both `Load`s come before
both `Store`s, and one of the two mappings is then lost.  Made one after the
other, in either order, the second returns the conflict error when `Equal`
tells them apart (`World.create_race`).

## Main definitions

* `Service.call`, `Service.callAll` — calls made one after another, with their
  results.
* `Pc`, `Thread`, `Thread.step` — a goroutine, and its next atomic access.
* `World`, `World.step`, `World.run` — interleavings of the accesses.
* `World.Race` — two `Create`s of one triple whose `Load`s come first.

## Main results

* `World.run_consistent` — every schedule keeps the store consistent.
* `World.run_returns` — every call returns after two turns of its own.
* `World.run_serial` — the serial schedule makes the calls one after another.
* `World.run_eq_callAll_of_keys_nodup` — on distinct keys every schedule does.
* `World.findBy_run_of_triples_nodup` — on distinct valid triples the store is
  the abstract map.
* `World.create_race` — two `Create`s of one triple are not serializable.
-/

namespace Influx
namespace Inmem

/-! ### Calls made one after another -/

/-- A call made alone: its result and the service after it. -/
def Service.call (methods : MappingMethods) (s : Service) : Call → Option ServiceError × Service
  | .putDBRPMapping m => (none, s.putDBRPMapping m)
  | .create m => s.create methods m
  | .delete cluster db rp => (none, s.delete cluster db rp)

/-- The calls made one after another: the result of each, and the service after
the last. -/
def Service.callAll (methods : MappingMethods) (s : Service) :
    List Call → List (Option ServiceError) × Service
  | [] => ([], s)
  | c :: calls =>
    ((s.call methods c).1 :: ((s.call methods c).2.callAll methods calls).1,
      ((s.call methods c).2.callAll methods calls).2)

@[simp] theorem Service.load_delete_names (s : Service) (cluster db rp k : String) :
    (s.delete cluster db rp).dbrpMappingKV.load k =
      if k = Triple.key (cluster, db, rp) then none else s.dbrpMappingKV.load k :=
  Service.load_delete s (cluster, db, rp) k

theorem Service.callAll_snd (methods : MappingMethods) :
    ∀ (s : Service) (calls : List Call), (s.callAll methods calls).2 = s.run methods calls
  | _, [] => rfl
  | s, c :: calls => by
    rw [callAll, callAll_snd]
    cases c <;> rfl

/-! ### Goroutines -/

/-- How far a goroutine has got in its call. -/
inductive Pc
  /-- Not started: the call's first access is next. -/
  | start
  /-- In `Create`, past the check of what `Load` found: the `Store` of
  `PutDBRPMapping` is next. -/
  | store
  /-- Returned `err`. -/
  | done (err : Option ServiceError)
  deriving DecidableEq, Repr

/-- How far a goroutine has got: a goroutine that has returned counts two. -/
def Pc.rank : Pc → Nat
  | .start => 0
  | .store => 1
  | .done _ => 2

theorem Pc.eq_done_of_rank {pc : Pc} (h : 2 ≤ pc.rank) : ∃ err, pc = .done err := by
  cases pc with
  | done err => exact ⟨err, rfl⟩
  | _ => simp [rank] at h

/-- A goroutine making one call on the service. -/
structure Thread where
  call : Call
  pc : Pc
  deriving DecidableEq, Repr

namespace Thread

variable (methods : MappingMethods) (s : Service)

/-- The goroutine's next access to the `sync.Map`, with what it computes up to
the one after: the service after the access, and the goroutine's new `Pc`. -/
def step (t : Thread) : Service × Pc :=
  match t.pc, t.call with
  | .done err, _ => (s, .done err)
  | _, .putDBRPMapping m => (s.putDBRPMapping m, .done none)
  | _, .delete cluster db rp => (s.delete cluster db rp, .done none)
  | .start, .create m =>
    match methods.validate m with
    | some _ => (s, .done none)
    | none =>
      match s.loadDBRPMapping m.cluster m.database m.retentionPolicy with
      | .error err => if err = errDBRPMappingNotFound then (s, .store) else (s, .done (some err))
      | .ok existing =>
        if !methods.equal existing m then
          (s, .done (some (.platform .eConflict "dbrp mapping already exists")))
        else (s, .store)
  | .store, .create m => (s.putDBRPMapping m, .done none)

@[simp] theorem step_done (c : Call) (err : Option ServiceError) :
    step methods s ⟨c, .done err⟩ = (s, .done err) := by
  cases c <;> rfl

/-- The second access of `Create` is the `Store` of `PutDBRPMapping`. -/
@[simp] theorem step_store_create (m : DBRPMapping) :
    step methods s ⟨.create m, .store⟩ = (s.putDBRPMapping m, .done none) := rfl

/-- The first access of `Create` is a `Load`: it writes nothing. -/
theorem step_start_create_fst (m : DBRPMapping) : (step methods s ⟨.create m, .start⟩).1 = s := by
  simp only [step]
  split <;> (try split) <;> (try split) <;> rfl

/-- Where the first access of `Create` leaves the goroutine, read off the
validation and the entry the `Load` finds under the mapping's key, as
`Service.create_eq` reads `Create`. -/
theorem step_start_create_snd (m : DBRPMapping) :
    (step methods s ⟨.create m, .start⟩).2 =
      match methods.validate m, s.dbrpMappingKV.load m.triple.key with
      | some _, _ => .done none
      | none, none => .store
      | none, some (.mapping e) =>
        if !methods.equal e m then .done (some (.platform .eConflict "dbrp mapping already exists"))
        else .store
      | none, some (.other t) => .done (some (.notADBRPMapping t)) := by
  simp only [step, Service.loadDBRPMapping]
  cases methods.validate m with
  | some _ => rfl
  | none =>
    rcases h : s.dbrpMappingKV.load m.triple.key with _ | _ | _ <;>
      simp [Triple.key, DBRPMapping.triple] at h <;> simp [h, errDBRPMappingNotFound, apply_ite]

/-- A goroutine started alone returns after two accesses, with the call's
result and the service the call leaves. -/
theorem step_step_start (c : Call) :
    step methods (step methods s ⟨c, .start⟩).1 ⟨c, (step methods s ⟨c, .start⟩).2⟩ =
      ((s.call methods c).2, .done (s.call methods c).1) := by
  cases c with
  | putDBRPMapping m => rfl
  | delete cluster db rp => rfl
  | create m =>
    rw [step_start_create_fst, step_start_create_snd, Service.call, Service.create_eq]
    rcases methods.validate m with _ | _
    · rcases s.dbrpMappingKV.load m.triple.key with _ | e | _
      · rfl
      · dsimp only
        cases methods.equal e m <;> rfl
      · rfl
    · rfl

/-- Each turn moves a goroutine on, until it has returned: no call waits or
retries. -/
theorem rank_step (c : Call) (pc : Pc) : min 2 (pc.rank + 1) ≤ (step methods s ⟨c, pc⟩).2.rank := by
  rcases c with _ | m | _ <;> rcases pc with _ | _ | _
  case create.start =>
    rw [step_start_create_snd]
    split <;> (try split) <;> simp [Pc.rank]
  all_goals simp [step, Pc.rank]

/-! Each access reads and writes the store under its call's key only. -/

variable {methods s}

theorem load_step_of_ne (t : Thread) {k : String} (hk : k ≠ t.call.triple.key) :
    (step methods s t).1.dbrpMappingKV.load k = s.dbrpMappingKV.load k := by
  rcases t with ⟨_ | m | _, _ | _ | _⟩
  case mk.create.start => rw [step_start_create_fst]
  all_goals simp_all [step, Call.triple, Service.load_delete_names]

theorem step_congr {s' : Service} (t : Thread)
    (h : s.dbrpMappingKV.load t.call.triple.key = s'.dbrpMappingKV.load t.call.triple.key) :
    (step methods s t).2 = (step methods s' t).2 ∧
      (step methods s t).1.dbrpMappingKV.load t.call.triple.key =
        (step methods s' t).1.dbrpMappingKV.load t.call.triple.key := by
  rcases t with ⟨_ | m | _, _ | _ | _⟩
  case mk.create.start =>
    dsimp only [Call.triple] at h
    rw [step_start_create_snd, step_start_create_snd, step_start_create_fst, step_start_create_fst, h]
    exact ⟨rfl, h⟩
  all_goals simp_all [step, Call.triple, Service.load_delete_names]

/-- A step keeps the store consistent when the call's triple is valid. -/
theorem step_consistent {t : Thread} (ht : t.call.triple.Valid) (hs : s.Consistent) :
    (step methods s t).1.Consistent := by
  rcases t with ⟨_ | m | ⟨cluster, db, rp⟩, _ | _ | _⟩
  case mk.create.start => rwa [step_start_create_fst]
  case mk.delete.start | mk.delete.store => exact hs.delete (cluster, db, rp)
  all_goals first | exact hs | exact hs.putDBRPMapping ht

/-- Goroutine `c` alone on `s`, after `n` turns: the service, and where the
goroutine is. -/
def alone (methods : MappingMethods) (s : Service) (c : Call) : Nat → Service × Pc
  | 0 => (s, .start)
  | n + 1 => step methods (alone methods s c n).1 ⟨c, (alone methods s c n).2⟩

/-- Alone, a goroutine has returned after two turns, and later turns change
nothing. -/
theorem alone_of_two_le (c : Call) {n : Nat} (h : 2 ≤ n) :
    alone methods s c n = ((s.call methods c).2, .done (s.call methods c).1) := by
  induction n, h using Nat.le_induction with
  | base => exact step_step_start methods s c
  | succ n _ ih => rw [alone, ih, step_done]

end Thread

/-! ### Interleavings -/

/-- The service and the goroutines calling it. -/
structure World where
  service : Service
  threads : List Thread

namespace World

variable (methods : MappingMethods)

/-- Goroutines about to make the calls `calls` on `s`. -/
def init (s : Service) (calls : List Call) : World := ⟨s, calls.map fun c => ⟨c, .start⟩⟩

/-- Goroutine `i` makes its next access; a goroutine that does not exist, or has
returned, makes none. -/
def step (w : World) (i : Nat) : World :=
  match w.threads[i]? with
  | none => w
  | some t =>
    ⟨(t.step methods w.service).1, w.threads.set i ⟨t.call, (t.step methods w.service).2⟩⟩

/-- The goroutines make their accesses in the order of `schedule`. -/
def run (w : World) (schedule : List Nat) : World :=
  schedule.foldl (step methods) w

variable {methods}

theorem step_of_getElem? {w : World} {i : Nat} {t : Thread} (h : w.threads[i]? = some t) :
    w.step methods i =
      ⟨(t.step methods w.service).1, w.threads.set i ⟨t.call, (t.step methods w.service).2⟩⟩ := by
  simp only [step, h]

theorem step_of_getElem?_none {w : World} {i : Nat} (h : w.threads[i]? = none) :
    w.step methods i = w := by
  simp only [step, h]

theorem run_append (w : World) (σ τ : List Nat) :
    w.run methods (σ ++ τ) = (w.run methods σ).run methods τ :=
  List.foldl_append _ _ _ _

/-- A turn of goroutine `i` moves goroutine `i` only, and keeps its call. -/
theorem getElem?_step_threads (w : World) (i j : Nat) :
    (w.step methods i).threads[j]? =
      if j = i then w.threads[i]?.map fun t => ⟨t.call, (t.step methods w.service).2⟩
      else w.threads[j]? := by
  rcases h : w.threads[i]? with _ | t
  · rw [step_of_getElem?_none h]
    split_ifs with hji
    · rw [hji, h]; rfl
    · rfl
  · rw [step_of_getElem? h, List.getElem?_set]
    simp [eq_comm, (List.getElem?_eq_some_iff.1 h).1]

theorem length_step_threads (w : World) (i : Nat) :
    (w.step methods i).threads.length = w.threads.length := by
  rcases h : w.threads[i]? with _ | t
  · rw [step_of_getElem?_none h]
  · rw [step_of_getElem? h, List.length_set]

/-! ### Safety -/

/-- What every schedule keeps: a consistent store, and goroutines whose calls
name valid triples. -/
structure Safe (w : World) : Prop where
  consistent : w.service.Consistent
  valid : ∀ t ∈ w.threads, t.call.triple.Valid

theorem Safe.step {w : World} (h : w.Safe) (i : Nat) : (w.step methods i).Safe := by
  rcases ht : w.threads[i]? with _ | t
  · rwa [step_of_getElem?_none ht]
  · have hv := h.valid t (List.getElem?_mem ht)
    rw [step_of_getElem? ht]
    refine ⟨Thread.step_consistent hv h.consistent, fun t' ht' => ?_⟩
    rcases List.mem_or_eq_of_mem_set ht' with ht' | rfl
    · exact h.valid t' ht'
    · exact hv

theorem Safe.run {w : World} (h : w.Safe) : ∀ schedule, (w.run methods schedule).Safe
  | [] => h
  | i :: schedule => (h.step i).run schedule

/-- **Every interleaving keeps the store consistent**: started on a consistent
store, by goroutines whose calls name valid triples, every schedule leaves each
entry a mapping of valid names under its own key. -/
theorem run_consistent (methods : MappingMethods) {s : Service} (hs : s.Consistent)
    {calls : List Call} (hcalls : ∀ c ∈ calls, c.triple.Valid) (schedule : List Nat) :
    ((init s calls).run methods schedule).service.Consistent :=
  (Safe.run ⟨hs, by simpa [init] using hcalls⟩ schedule).consistent

/-- A `PutDBRPMapping` and a `Delete` of one triple on the empty store, the
`Delete` first. -/
theorem run_consistent_put_delete :
    Service.empty.Consistent ∧
      (∀ c ∈ [Call.putDBRPMapping ⟨"cluster", "telegraf", "autogen", true, 1, 2⟩,
          .delete "cluster" "telegraf" "autogen"], c.triple.Valid) ∧
      ((init Service.empty [.putDBRPMapping ⟨"cluster", "telegraf", "autogen", true, 1, 2⟩,
          .delete "cluster" "telegraf" "autogen"]).run ⟨fun _ => none, (· == ·)⟩
          [1, 0]).service.Consistent :=
  ⟨Service.consistent_empty, by decide, run_consistent _ Service.consistent_empty (by decide) _⟩

/-! ### Progress -/

/-- Every goroutine still makes its own call, and has got at least as far as the
turns the schedule gave it, up to two. -/
structure Progress (calls : List Call) (schedule : List Nat) (w : World) : Prop where
  length : w.threads.length = calls.length
  thread : ∀ (i : Nat) (c : Call), calls[i]? = some c →
    ∃ pc, w.threads[i]? = some ⟨c, pc⟩ ∧ min 2 (schedule.count i) ≤ pc.rank

theorem Progress.step {calls : List Call} {schedule : List Nat} {w : World}
    (h : Progress calls schedule w) (i : Nat) :
    Progress calls (schedule ++ [i]) (w.step methods i) := by
  refine ⟨(length_step_threads w i).trans h.length, fun j c hj => ?_⟩
  obtain ⟨pc, hpc, hrank⟩ := h.thread j c hj
  rw [getElem?_step_threads, List.count_append]
  split_ifs with hji
  · subst hji
    have := Thread.rank_step methods w.service c pc
    rw [hpc]
    exact ⟨_, rfl, by simp only [List.count_singleton_self] at hrank ⊢; omega⟩
  · exact ⟨pc, hpc, by simpa [List.count_cons, Ne.symm hji] using hrank⟩

theorem progress_run (s : Service) (calls : List Call) (schedule : List Nat) :
    Progress calls schedule ((init s calls).run methods schedule) := by
  induction schedule using List.reverseRecOn with
  | nil => exact ⟨by simp [init, run], fun i c h => ⟨.start, by simp [init, run, h], by simp⟩⟩
  | append_singleton schedule i ih => rw [run_append]; exact ih.step i

/-- **No goroutine waits for another**: whatever the others do, a goroutine has
returned once the schedule has given it two turns. -/
theorem run_returns (methods : MappingMethods) (s : Service) {calls : List Call}
    {schedule : List Nat} {i : Nat} {c : Call} (hc : calls[i]? = some c)
    (h : 2 ≤ schedule.count i) :
    ∃ err, ((init s calls).run methods schedule).threads[i]? = some ⟨c, .done err⟩ := by
  obtain ⟨pc, hpc, hrank⟩ := (progress_run s calls schedule).thread i c hc
  obtain ⟨err, rfl⟩ := Pc.eq_done_of_rank (le_of_eq_of_le (Nat.min_eq_left h).symm hrank)
  exact ⟨err, hpc⟩

/-- The second of two `Create`s of one triple, given both its turns before the
first has any. -/
theorem run_returns_second_create :
    [Call.create ⟨"cluster", "telegraf", "autogen", false, 1, 2⟩,
        .create ⟨"cluster", "telegraf", "autogen", true, 1, 2⟩][1]? =
        some (.create ⟨"cluster", "telegraf", "autogen", true, 1, 2⟩) ∧
      2 ≤ [1, 1].count 1 ∧
      ∃ err, ((init Service.empty [.create ⟨"cluster", "telegraf", "autogen", false, 1, 2⟩,
          .create ⟨"cluster", "telegraf", "autogen", true, 1, 2⟩]).run
          ⟨fun _ => none, (· == ·)⟩ [1, 1]).threads[1]? =
        some ⟨.create ⟨"cluster", "telegraf", "autogen", true, 1, 2⟩, .done err⟩ :=
  ⟨rfl, by decide, run_returns _ _ rfl (by decide)⟩

/-! ### The serial schedule -/

/-- The schedule that runs goroutines `0, …, n - 1` one after another, each to
its return: two turns each. -/
def serial (n : Nat) : List Nat := (List.range' 0 n).flatMap fun i => [i, i]

/-- Two turns in a row of a goroutine that has not started make its call. -/
theorem step_step_start {w : World} {i : Nat} {c : Call}
    (h : w.threads[i]? = some ⟨c, .start⟩) :
    (w.step methods i).step methods i =
      ⟨(w.service.call methods c).2,
        w.threads.set i ⟨c, .done (w.service.call methods c).1⟩⟩ := by
  have hi : i < w.threads.length := (List.getElem?_eq_some_iff.1 h).1
  rw [step_of_getElem? h, step_of_getElem? (List.getElem?_set_self hi), Thread.step_step_start]
  simp

theorem run_serial_from (methods : MappingMethods) :
    ∀ (calls : List Call) (s : Service) (pre : List Thread),
      (World.mk s (pre ++ calls.map fun c => ⟨c, .start⟩)).run methods
          ((List.range' pre.length calls.length).flatMap fun i => [i, i]) =
        ⟨(s.callAll methods calls).2,
          pre ++ List.zipWith (fun c err => ⟨c, .done err⟩) calls (s.callAll methods calls).1⟩
  | [], s, pre => by simp [run, Service.callAll]
  | c :: calls, s, pre => by
    have h : (World.mk s (pre ++ (c :: calls).map fun c => ⟨c, .start⟩)).threads[pre.length]? =
        some ⟨c, .start⟩ := by
      rw [List.getElem?_append_right (Nat.le_refl _), Nat.sub_self]; simp
    rw [List.length_cons, List.range'_succ, List.flatMap_cons, run_append]
    change (((World.mk s _).step methods _).step methods _).run methods _ = _
    rw [step_step_start h]
    have := run_serial_from methods calls (s.call methods c).2
      (pre ++ [⟨c, .done (s.call methods c).1⟩])
    simp only [List.length_append, List.length_singleton, List.append_assoc,
      List.singleton_append] at this
    simpa [List.set_append_right, Service.callAll] using this

/-- **The serial schedule is the sequential service**: goroutines run one after
another return what the calls return when made one after another, and leave the
same service. -/
theorem run_serial (methods : MappingMethods) (s : Service) (calls : List Call) :
    (init s calls).run methods (serial calls.length) =
      ⟨(s.callAll methods calls).2,
        List.zipWith (fun c err => ⟨c, .done err⟩) calls (s.callAll methods calls).1⟩ :=
  run_serial_from methods calls s []

/-! ### Goroutines on distinct keys -/

/-- The schedule gives each goroutine its turns: goroutine `i` has made
`schedule.count i` accesses. -/
theorem count_serial (n i : Nat) : (serial n).count i = if i < n then 2 else 0 := by
  induction n with
  | zero => rfl
  | succ n ih =>
    rw [serial, ← List.range_eq_range', List.range_succ, List.flatMap_append,
      List.range_eq_range', ← serial, List.count_append, ih]
    simp only [List.flatMap_cons, List.flatMap_nil, List.append_nil, List.count_cons,
      List.count_nil, beq_iff_eq]
    split_ifs <;> omega

section Alone

variable {methods : MappingMethods} {s : Service} {calls : List Call}

/-- Each goroutine is where it would be alone on `s` after the turns `schedule`
gave it, and its key holds what the key would then hold; a key no call names
holds what it held. -/
structure Alone (methods : MappingMethods) (s : Service) (calls : List Call)
    (schedule : List Nat) (w : World) : Prop where
  length : w.threads.length = calls.length
  thread : ∀ (i : Nat) (c : Call), calls[i]? = some c →
    w.threads[i]? = some ⟨c, (Thread.alone methods s c (schedule.count i)).2⟩
  load_key : ∀ (i : Nat) (c : Call), calls[i]? = some c →
    w.service.dbrpMappingKV.load c.triple.key =
      (Thread.alone methods s c (schedule.count i)).1.dbrpMappingKV.load c.triple.key
  load_other : ∀ k, (∀ c ∈ calls, k ≠ c.triple.key) →
    w.service.dbrpMappingKV.load k = s.dbrpMappingKV.load k

theorem alone_init : Alone methods s calls [] (init s calls) :=
  ⟨by simp [init], fun i c h => by simp [init, h, Thread.alone], fun _ _ _ => rfl, fun _ _ => rfl⟩

/-- Two goroutines on distinct keys. -/
theorem key_ne_of_nodup (hkeys : (calls.map fun c => c.triple.key).Nodup) {i j : Nat}
    {c c' : Call} (hi : calls[i]? = some c) (hj : calls[j]? = some c') (hij : j ≠ i) :
    c'.triple.key ≠ c.triple.key := fun he =>
  hij (List.getElem?_inj (by simpa using (List.getElem?_eq_some_iff.1 hj).1) hkeys
    (by simp [hi, hj, he]))

theorem Alone.step (hkeys : (calls.map fun c => c.triple.key).Nodup) {schedule : List Nat}
    {w : World} (h : Alone methods s calls schedule w) (i : Nat) :
    Alone methods s calls (schedule ++ [i]) (w.step methods i) := by
  rcases hc : calls[i]? with _ | c
  · have hi : w.threads[i]? = none := by
      rw [List.getElem?_eq_none_iff, h.length]; exact List.getElem?_eq_none_iff.1 hc
    have hcount : ∀ j c', calls[j]? = some c' → (schedule ++ [i]).count j = schedule.count j :=
      fun j c' hj => by
        have : i ≠ j := by rintro rfl; simp [hc] at hj
        simp [List.count_append, List.count_cons, this]
    rw [step_of_getElem?_none hi]
    exact ⟨h.length, fun j c' hj => hcount j c' hj ▸ h.thread j c' hj,
      fun j c' hj => hcount j c' hj ▸ h.load_key j c' hj, h.load_other⟩
  · have ht := h.thread i c hc
    have hcongr := @Thread.step_congr methods _ _
      ⟨c, (Thread.alone methods s c (schedule.count i)).2⟩ (h.load_key i c hc)
    have hi : i < w.threads.length := (List.getElem?_eq_some_iff.1 ht).1
    rw [step_of_getElem? ht]
    refine ⟨by simp [h.length], fun j c' hj => ?_, fun j c' hj => ?_, fun k hk => ?_⟩
    · by_cases hji : j = i
      · subst hji
        obtain rfl : c' = c := Option.some.inj (hj.symm.trans hc)
        simp only [List.getElem?_set_self hi, List.count_append, List.count_singleton_self,
          hcongr.1]
        rfl
      · simp [List.getElem?_set_ne (Ne.symm hji), List.count_append, hji, h.thread j c' hj]
    · by_cases hji : j = i
      · subst hji
        obtain rfl : c' = c := Option.some.inj (hj.symm.trans hc)
        simp only [List.count_append, List.count_singleton_self]
        exact hcongr.2
      · rw [Thread.load_step_of_ne ⟨c, _⟩ (key_ne_of_nodup hkeys hc hj hji)]
        simpa [List.count_append, hji] using h.load_key j c' hj
    · rw [Thread.load_step_of_ne ⟨c, _⟩ (hk c (List.getElem?_mem hc))]
      exact h.load_other k hk

/-- **Every schedule keeps each goroutine as if alone** when the calls name
pairwise distinct keys. -/
theorem alone_run (hkeys : (calls.map fun c => c.triple.key).Nodup) (schedule : List Nat) :
    Alone methods s calls schedule ((init s calls).run methods schedule) := by
  induction schedule using List.reverseRecOn with
  | nil => exact alone_init
  | append_singleton schedule i ih => rw [run_append]; exact ih.step hkeys i

/-- Two schedules that give every goroutine at least two turns end alike. -/
theorem Alone.agree {σ σ' : List Nat} {w w' : World} (h : Alone methods s calls σ w)
    (h' : Alone methods s calls σ' w') (hσ : ∀ i < calls.length, 2 ≤ σ.count i)
    (hσ' : ∀ i < calls.length, 2 ≤ σ'.count i) :
    w.threads = w'.threads ∧
      ∀ k, w.service.dbrpMappingKV.load k = w'.service.dbrpMappingKV.load k := by
  have two : ∀ i c, calls[i]? = some c →
      Thread.alone methods s c (σ.count i) = Thread.alone methods s c (σ'.count i) :=
    fun i c hc => by
      have hi := (List.getElem?_eq_some_iff.1 hc).1
      rw [Thread.alone_of_two_le c (hσ i hi), Thread.alone_of_two_le c (hσ' i hi)]
  refine ⟨List.ext_getElem? fun i => ?_, fun k => ?_⟩
  · rcases hc : calls[i]? with _ | c
    · rw [List.getElem?_eq_none_iff.2 (h.length ▸ List.getElem?_eq_none_iff.1 hc),
        List.getElem?_eq_none_iff.2 (h'.length ▸ List.getElem?_eq_none_iff.1 hc)]
    · rw [h.thread i c hc, h'.thread i c hc, two i c hc]
  · by_cases hk : ∃ c ∈ calls, k = c.triple.key
    · obtain ⟨c, hc, rfl⟩ := hk
      obtain ⟨i, hi⟩ := List.mem_iff_getElem?.1 hc
      rw [h.load_key i c hi, h'.load_key i c hi, two i c hi]
    · push_neg at hk
      rw [h.load_other k hk, h'.load_other k hk]

end Alone

/-- **Goroutines on distinct keys are serializable**: when the calls name
pairwise distinct keys, every schedule that gives each goroutine two turns
returns to each what the calls return made one after another, and leaves the
same store. -/
theorem run_eq_callAll_of_keys_nodup (methods : MappingMethods) (s : Service) {calls : List Call}
    (hkeys : (calls.map fun c => c.triple.key).Nodup) {schedule : List Nat}
    (hturns : ∀ i < calls.length, 2 ≤ schedule.count i) :
    ((init s calls).run methods schedule).threads =
        List.zipWith (fun c err => ⟨c, .done err⟩) calls (s.callAll methods calls).1 ∧
      ∀ k, ((init s calls).run methods schedule).service.dbrpMappingKV.load k =
        (s.callAll methods calls).2.dbrpMappingKV.load k := by
  have h := (@alone_run methods s calls hkeys schedule).agree
    (alone_run hkeys (serial calls.length)) hturns fun i hi => by simp [count_serial, hi]
  rwa [show (init s calls).run methods (serial calls.length) = _ from
    run_serial_from methods calls s []] at h

/-- A `Create` and a `Delete` of two retention policies of one database, the
`Delete` first. -/
theorem run_eq_callAll_of_keys_nodup_create_delete :
    ([Call.create ⟨"cluster", "telegraf", "autogen", true, 1, 2⟩,
        .delete "cluster" "telegraf" "downsampled"].map fun c => c.triple.key).Nodup ∧
      (∀ i < 2, 2 ≤ [1, 0, 0, 1].count i) ∧
      ((init Service.empty [.create ⟨"cluster", "telegraf", "autogen", true, 1, 2⟩,
          .delete "cluster" "telegraf" "downsampled"]).run ⟨fun _ => none, (· == ·)⟩
          [1, 0, 0, 1]).threads =
        List.zipWith (fun c err => ⟨c, .done err⟩)
          [.create ⟨"cluster", "telegraf", "autogen", true, 1, 2⟩,
            .delete "cluster" "telegraf" "downsampled"]
          (Service.empty.callAll ⟨fun _ => none, (· == ·)⟩
            [.create ⟨"cluster", "telegraf", "autogen", true, 1, 2⟩,
              .delete "cluster" "telegraf" "downsampled"]).1 ∧
      ∀ k, ((init Service.empty [.create ⟨"cluster", "telegraf", "autogen", true, 1, 2⟩,
          .delete "cluster" "telegraf" "downsampled"]).run ⟨fun _ => none, (· == ·)⟩
          [1, 0, 0, 1]).service.dbrpMappingKV.load k =
        (Service.empty.callAll ⟨fun _ => none, (· == ·)⟩
          [.create ⟨"cluster", "telegraf", "autogen", true, 1, 2⟩,
            .delete "cluster" "telegraf" "downsampled"]).2.dbrpMappingKV.load k :=
  ⟨by decide, by decide, run_eq_callAll_of_keys_nodup _ _ (by decide) (by decide)⟩

/-- **Goroutines on distinct valid triples implement the abstract map**: on the
empty service, after every schedule that gives each goroutine two turns, `FindBy`
of a valid triple is the lookup in the map the calls make. -/
theorem findBy_run_of_triples_nodup (methods : MappingMethods) {calls : List Call}
    (hcalls : ∀ c ∈ calls, c.triple.Valid) (htriples : (calls.map Call.triple).Nodup)
    {schedule : List Nat} (hturns : ∀ i < calls.length, 2 ≤ schedule.count i) {t : Triple}
    (ht : t.Valid) :
    ((init Service.empty calls).run methods schedule).service.findBy t.1 t.2.1 t.2.2 =
      ((AbstractStore.empty.run methods calls) t).elim (.error errDBRPMappingNotFound) .ok := by
  have valid : ∀ {t'}, t' ∈ calls.map Call.triple → t'.Valid := fun h => by
    obtain ⟨c, hc, rfl⟩ := List.mem_map.1 h
    exact hcalls c hc
  have hkeys : (calls.map fun c => c.triple.key).Nodup := by
    rw [← Function.comp_def, ← List.map_map]
    exact htriples.map_on fun _ ha _ hb => Triple.key_injective (valid ha) (valid hb)
  have h := (@alone_run methods Service.empty calls hkeys schedule).agree
    (alone_run hkeys (serial calls.length)) hturns fun i hi => by simp [count_serial, hi]
  rw [show (init Service.empty calls).run methods (serial calls.length) = _ from
    run_serial_from methods calls Service.empty []] at h
  rw [Service.findBy_eq_load, h.2, ← Service.findBy_eq_load, Service.callAll_snd]
  exact (refines_run methods calls refines_empty hcalls).findBy_eq ht

/-- A `Create` and a `PutDBRPMapping` of two retention policies of one database,
looked up under the first. -/
theorem findBy_run_of_triples_nodup_create_put :
    (∀ c ∈ [Call.create ⟨"cluster", "telegraf", "autogen", true, 1, 2⟩,
        .putDBRPMapping ⟨"cluster", "telegraf", "downsampled", false, 1, 3⟩], c.triple.Valid) ∧
      ([Call.create ⟨"cluster", "telegraf", "autogen", true, 1, 2⟩,
        .putDBRPMapping ⟨"cluster", "telegraf", "downsampled", false, 1, 3⟩].map
          Call.triple).Nodup ∧
      Triple.Valid ("cluster", "telegraf", "autogen") ∧
      ((init Service.empty [.create ⟨"cluster", "telegraf", "autogen", true, 1, 2⟩,
          .putDBRPMapping ⟨"cluster", "telegraf", "downsampled", false, 1, 3⟩]).run
          ⟨fun _ => none, (· == ·)⟩ [1, 0, 1, 0]).service.findBy "cluster" "telegraf" "autogen" =
        ((AbstractStore.empty.run ⟨fun _ => none, (· == ·)⟩
            [.create ⟨"cluster", "telegraf", "autogen", true, 1, 2⟩,
              .putDBRPMapping ⟨"cluster", "telegraf", "downsampled", false, 1, 3⟩])
          ("cluster", "telegraf", "autogen")).elim (.error errDBRPMappingNotFound) .ok :=
  ⟨by decide, by decide, by decide,
    @findBy_run_of_triples_nodup _ _ (by decide) (by decide) _ (by decide)
      ("cluster", "telegraf", "autogen") (by decide)⟩

/-! ### Two `Create`s of one triple -/

/-- Where a goroutine making a `Create` of an absent triple is after `n` turns,
when no `Store` came before its `Load`: not started, at its `Store`, then
returned `nil`. -/
def racePc : Nat → Pc
  | 0 => .start
  | 1 => .store
  | _ => .done none

theorem racePc_of_two_le {n : Nat} (h : 2 ≤ n) : racePc n = .done none := by
  obtain ⟨n, rfl⟩ := Nat.exists_eq_add_of_le' h
  rfl

section Race

variable {methods : MappingMethods} {m₁ m₂ : DBRPMapping}

/-- Two goroutines making `Create`s of `m₁` and `m₂`, of one triple, after the
turns `τ`: each is where `racePc` puts it; the key holds nothing while neither
has had two turns, and one of the two mappings once one has. -/
structure Race (m₁ m₂ : DBRPMapping) (τ : List Nat) (w : World) : Prop where
  threads : w.threads = [⟨.create m₁, racePc (τ.count 0)⟩, ⟨.create m₂, racePc (τ.count 1)⟩]
  load_none : τ.count 0 ≤ 1 → τ.count 1 ≤ 1 → w.service.dbrpMappingKV.load m₁.triple.key = none
  load_some : 2 ≤ τ.count 0 ∨ 2 ≤ τ.count 1 →
    w.service.dbrpMappingKV.load m₁.triple.key = some (.mapping m₁) ∨
      w.service.dbrpMappingKV.load m₁.triple.key = some (.mapping m₂)

/-- One turn of a racing `Create`: a `Load` that finds nothing, then the
`Store`, then nothing. -/
theorem step_racePc {s : Service} {m : DBRPMapping} (hv : methods.validate m = none) {n : Nat}
    (hl : n = 0 → s.dbrpMappingKV.load m.triple.key = none) :
    Thread.step methods s ⟨.create m, racePc n⟩ =
      (if n = 1 then s.putDBRPMapping m else s, racePc (n + 1)) := by
  match n with
  | 0 =>
    refine Prod.ext (Thread.step_start_create_fst _ _ _) ?_
    rw [racePc, Thread.step_start_create_snd, hv, hl rfl]
    rfl
  | 1 => rfl
  | n + 2 => simp [racePc]

theorem Race.step (hv₁ : methods.validate m₁ = none) (hv₂ : methods.validate m₂ = none)
    (ht : m₁.triple = m₂.triple) {τ : List Nat} {w : World} (h : Race m₁ m₂ τ w) (i : Nat)
    (hload : i < 2 → τ.count i = 0 → τ.count 0 ≤ 1 ∧ τ.count 1 ≤ 1) :
    Race m₁ m₂ (τ ++ [i]) (w.step methods i) := by
  obtain ⟨hth, hnone, hsome⟩ := h
  match i with
  | 0 =>
    have hl : τ.count 0 = 0 → _ := fun h0 => hnone (hload (by omega) h0).1 (hload (by omega) h0).2
    have hc : (τ ++ [0]).count 0 = τ.count 0 + 1 ∧ (τ ++ [0]).count 1 = τ.count 1 := by
      simp [List.count_append]
    rw [step_of_getElem? (show w.threads[0]? = some ⟨.create m₁, racePc (τ.count 0)⟩ by
      rw [hth]; rfl), step_racePc hv₁ hl, hth]
    refine ⟨by simp [hc.1, hc.2], fun h0 h1 => ?_, fun h2 => ?_⟩
    · rw [hc.1] at h0; rw [hc.2] at h1
      rw [if_neg (by omega)]; exact hnone (by omega) h1
    · rw [hc.1, hc.2] at h2
      split_ifs with h1
      · simp
      · exact hsome (by omega)
  | 1 =>
    have hl : τ.count 1 = 0 → _ := fun h0 => ht ▸ hnone (hload (by omega) h0).1 (hload (by omega) h0).2
    have hc : (τ ++ [1]).count 0 = τ.count 0 ∧ (τ ++ [1]).count 1 = τ.count 1 + 1 := by
      simp [List.count_append]
    rw [step_of_getElem? (show w.threads[1]? = some ⟨.create m₂, racePc (τ.count 1)⟩ by
      rw [hth]; rfl), step_racePc hv₂ hl, hth]
    refine ⟨by simp [hc.1, hc.2], fun h0 h1 => ?_, fun h2 => ?_⟩
    · rw [hc.1] at h0; rw [hc.2] at h1
      rw [if_neg (by omega)]; exact hnone h0 (by omega)
    · rw [hc.1, hc.2] at h2
      split_ifs with h1
      · simp [ht]
      · exact hsome (by omega)
  | i + 2 =>
    rw [step_of_getElem?_none (by simp [hth])]
    have h0 : (τ ++ [i + 2]).count 0 = τ.count 0 := by simp [List.count_append]
    have h1 : (τ ++ [i + 2]).count 1 = τ.count 1 := by simp [List.count_append]
    refine ⟨?_, ?_, ?_⟩ <;> rw [h0, h1] <;> assumption

/-- While no goroutine has had two turns, both are past their `Load` once they
have had one, and the store has not moved. -/
theorem race_loads (hv₁ : methods.validate m₁ = none) (hv₂ : methods.validate m₂ = none)
    (ht : m₁.triple = m₂.triple) {s : Service} (habsent : s.dbrpMappingKV.load m₁.triple.key = none)
    (loads : List Nat) (h0 : loads.count 0 ≤ 1) (h1 : loads.count 1 ≤ 1) :
    Race m₁ m₂ loads ((init s [.create m₁, .create m₂]).run methods loads) := by
  induction loads using List.reverseRecOn with
  | nil => exact ⟨rfl, fun _ _ => habsent, by simp⟩
  | append_singleton τ i ih =>
    simp only [List.count_append] at h0 h1
    rw [run_append]
    exact (ih (by omega) (by omega)).step hv₁ hv₂ ht i fun _ _ => ⟨by omega, by omega⟩

/-- Once both goroutines have had their `Load`, every schedule keeps the race's
shape. -/
theorem Race.run (hv₁ : methods.validate m₁ = none) (hv₂ : methods.validate m₂ = none)
    (ht : m₁.triple = m₂.triple) {loads : List Nat} {w : World} (h : Race m₁ m₂ loads w)
    (h0 : 1 ≤ loads.count 0) (h1 : 1 ≤ loads.count 1) (stores : List Nat) :
    Race m₁ m₂ (loads ++ stores) (w.run methods stores) := by
  induction stores using List.reverseRecOn with
  | nil => simpa [run] using h
  | append_singleton τ i ih =>
    rw [run_append, ← List.append_assoc]
    refine ih.step hv₁ hv₂ ht i fun hi hc => ?_
    simp only [List.count_append] at hc
    obtain rfl | rfl : i = 0 ∨ i = 1 := by omega
    all_goals omega

/-- **`Create` is not atomic**: two goroutines creating mappings of one triple,
when the store does not hold the triple and `Validate` accepts both, under any
schedule in which both `Load`s come before both `Store`s.  Both return `nil`,
and the key ends holding one of the two mappings, so the other is lost.  When
`Equal` tells the two apart, made one after the other, in either order, the
second `Create` returns the conflict error instead. -/
theorem create_race (methods : MappingMethods) (s : Service) {m₁ m₂ : DBRPMapping}
    (hv₁ : methods.validate m₁ = none) (hv₂ : methods.validate m₂ = none)
    (ht : m₁.triple = m₂.triple) (h₁₂ : methods.equal m₁ m₂ = false)
    (h₂₁ : methods.equal m₂ m₁ = false) (habsent : s.dbrpMappingKV.load m₁.triple.key = none)
    {loads stores : List Nat} (hloads : loads.count 0 = 1 ∧ loads.count 1 = 1)
    (hstores : 1 ≤ stores.count 0 ∧ 1 ≤ stores.count 1) :
    ((init s [.create m₁, .create m₂]).run methods (loads ++ stores)).threads =
        [⟨.create m₁, .done none⟩, ⟨.create m₂, .done none⟩] ∧
      (((init s [.create m₁, .create m₂]).run methods (loads ++ stores)).service.dbrpMappingKV.load
          m₁.triple.key = some (.mapping m₁) ∨
        ((init s [.create m₁, .create m₂]).run methods (loads ++ stores)).service.dbrpMappingKV.load
          m₁.triple.key = some (.mapping m₂)) ∧
      (s.callAll methods [.create m₁, .create m₂]).1 =
        [none, some (.platform .eConflict "dbrp mapping already exists")] ∧
      (s.callAll methods [.create m₂, .create m₁]).1 =
        [none, some (.platform .eConflict "dbrp mapping already exists")] := by
  have habsent₂ : s.dbrpMappingKV.load m₂.triple.key = none := ht ▸ habsent
  have hrace := (race_loads hv₁ hv₂ ht habsent loads hloads.1.le hloads.2.le).run hv₁ hv₂ ht
    hloads.1.ge hloads.2.ge stores
  rw [run_append]
  have h0 : 2 ≤ (loads ++ stores).count 0 := by rw [List.count_append]; omega
  have h1 : 2 ≤ (loads ++ stores).count 1 := by rw [List.count_append]; omega
  refine ⟨?_, hrace.load_some (.inl h0), ?_⟩
  · rw [hrace.threads, racePc_of_two_le h0, racePc_of_two_le h1]
  all_goals simp [Service.callAll, Service.call, Service.create_eq, hv₁, hv₂, habsent, habsent₂,
    ht, h₁₂, h₂₁]

end Race

/-- Two `Create`s of `cluster/telegraf/autogen` on the empty store that differ
in the default flag, which `Equal` compares: both `Load`, then the second
`Store`s first. -/
theorem create_race_default_flag :
    (⟨"cluster", "telegraf", "autogen", false, 1, 2⟩ : DBRPMapping) ≠
        ⟨"cluster", "telegraf", "autogen", true, 1, 2⟩ ∧
      ((init Service.empty [.create ⟨"cluster", "telegraf", "autogen", false, 1, 2⟩,
          .create ⟨"cluster", "telegraf", "autogen", true, 1, 2⟩]).run
          ⟨fun _ => none, (· == ·)⟩ ([0, 1] ++ [1, 0])).threads =
        [⟨.create ⟨"cluster", "telegraf", "autogen", false, 1, 2⟩, .done none⟩,
          ⟨.create ⟨"cluster", "telegraf", "autogen", true, 1, 2⟩, .done none⟩] ∧
      (((init Service.empty [.create ⟨"cluster", "telegraf", "autogen", false, 1, 2⟩,
          .create ⟨"cluster", "telegraf", "autogen", true, 1, 2⟩]).run
          ⟨fun _ => none, (· == ·)⟩ ([0, 1] ++ [1, 0])).service.dbrpMappingKV.load
        (DBRPMapping.triple ⟨"cluster", "telegraf", "autogen", false, 1, 2⟩).key =
        some (.mapping ⟨"cluster", "telegraf", "autogen", false, 1, 2⟩) ∨
      ((init Service.empty [.create ⟨"cluster", "telegraf", "autogen", false, 1, 2⟩,
          .create ⟨"cluster", "telegraf", "autogen", true, 1, 2⟩]).run
          ⟨fun _ => none, (· == ·)⟩ ([0, 1] ++ [1, 0])).service.dbrpMappingKV.load
        (DBRPMapping.triple ⟨"cluster", "telegraf", "autogen", false, 1, 2⟩).key =
        some (.mapping ⟨"cluster", "telegraf", "autogen", true, 1, 2⟩)) ∧
      (Service.empty.callAll ⟨fun _ => none, (· == ·)⟩
          [.create ⟨"cluster", "telegraf", "autogen", false, 1, 2⟩,
            .create ⟨"cluster", "telegraf", "autogen", true, 1, 2⟩]).1 =
        [none, some (.platform .eConflict "dbrp mapping already exists")] ∧
      (Service.empty.callAll ⟨fun _ => none, (· == ·)⟩
          [.create ⟨"cluster", "telegraf", "autogen", true, 1, 2⟩,
            .create ⟨"cluster", "telegraf", "autogen", false, 1, 2⟩]).1 =
        [none, some (.platform .eConflict "dbrp mapping already exists")] :=
  ⟨by decide, create_race _ _ rfl rfl (by rfl) (by decide) (by decide) (by rfl) (by decide)
    (by decide)⟩

end World

end Inmem
end Influx
