import Influx.Go.Basic

/-!
# `influx stacks rm` and `influx stacks update`

`stackRemoveRunEFn` and `stackUpdateRunEFn` of `cmd/influx/template.go`.

Removal lists the stacks named by `--stack-id` and deletes each one the user
confirms with exactly `y` (`influx apply` lowers its confirmation first), or
every one under `--force`.  The template service's store is a state the
deletions move; the terminal is the state of `getInput`.

An update turns each `--addResource=Kind=ID` into a resource of the stack.  An
argument with no `=` is collected and reported after the loop; an unknown kind
or an ID that does not decode ends the call at once.  The message for an unknown
kind reads `b.exportOpts.resourceType`, the `--resource-type` flag of `influx
export`, which `stacks update` does not register: the message never names the
kind it rejects.  After an update that adds resources, the command asks up to
three times whether to export the stack; an answer other than `y` or `n` asks
again, and three of them export.

The pieces of `pkger` the two read (`Kinds()`, `Kind.OK()`, the stack service),
`platform.IDFromString`, `ID.String()`, `kit/errors.Wrap` and `strings.EqualFold`
are parameters.

## Main definitions

* `removeLoop` — the loop of `stackRemoveRunEFn` over the stacks.
* `templateKindFold`, `addResources` — the kinds, and the loop over
  `--addResource`.
* `stackUpdateRunEFn`, `confirmExport`.

## Main results

* `removeLoop_of_not_confirmed` — removal deletes nothing the user does not
  confirm.
* `addResources_invalid_kind` — an unknown kind fails with a message that does
  not depend on it.
* `confirmExport_eq_false_iff` — the export is skipped exactly when an `n`
  comes before any `y` in the first three answers.
-/

namespace Influx
namespace Cmd

open Go

variable {τ : Type} (getInput : String → String → τ → String × τ)

/-! ### Removing stacks -/

section remove

variable {S σ : Type} (stackID : S → UInt64) (idString : UInt64 → String)
  (printStack : S → Option String) (deleteStack : UInt64 → UInt64 → σ → Except String Unit × σ)

/-- The confirmation asked before removing the stack with ID `id`. -/
def removalPrompt (id : UInt64) : String :=
  "Confirm removal of the stack[" ++ idString id ++ "] and all associated resources (y/n)"

/-- The loop of `stackRemoveRunEFn` over the listed stacks: print the stack,
ask unless `force`, and delete it on `y`.  `deleteStack orgID id` is the
service's `DeleteStack` on its store. -/
def removeLoop (force : Bool) (orgID : UInt64) : List S → σ × τ → Except String Unit × σ × τ
  | [], (s, t) => (.ok (), s, t)
  | stack :: rest, (s, t) =>
    match printStack stack with
    | some err => (.error err, s, t)
    | none =>
    let (confirmed, t) :=
      if !force then
        let (confirm, t) := getInput (removalPrompt idString (stackID stack)) "n" t
        (confirm == "y", t)
      else (true, t)
    if !confirmed then removeLoop force orgID rest (s, t) else
    match deleteStack orgID (stackID stack) s with
    | (.error err, s) => (.error err, s, t)
    | (.ok (), s) => removeLoop force orgID rest (s, t)

/-- **Nothing unconfirmed is removed.**  Without `--force`, and with a terminal
that never answers exactly `y`, removal deletes nothing, whatever the stacks. -/
theorem removeLoop_of_not_confirmed (hy : ∀ msg d t, (getInput msg d t).1 ≠ "y") (orgID : UInt64)
    (listed : List S) (s : σ) (t : τ) :
    (removeLoop getInput stackID idString printStack deleteStack false orgID listed (s, t)).2.1 = s := by
  induction listed generalizing t with
  | nil => rfl
  | cons stack rest ih =>
    simp only [removeLoop]
    split
    · rfl
    · simp [beq_iff_eq, hy, ih]

/-- Removing the stacks `1` and `2` from a store that holds `1`, `2` and `3`,
with a terminal that answers `n`. -/
theorem removeLoop_answers_n :
    (removeLoop (fun _ _ (t : Unit) => ("n", t)) id toString (fun _ => none)
      (fun _ id s => (.ok (), s.erase id)) false 0 [(1 : UInt64), 2] ([(1 : UInt64), 2, 3], ())).2.1 =
      [1, 2, 3] :=
  removeLoop_of_not_confirmed _ _ _ _ _ (fun _ _ _ => show ("n" : String) ≠ "y" by decide) _ _ _ _

end remove

/-! ### Updating a stack -/

/-- `pkger.StackAdditionalResource`: the kind and ID of a resource added to a
stack.  `APIVersion` is the constant `pkger.APIVersion`. -/
structure StackAdditionalResource where
  kind : String
  id : UInt64
  deriving DecidableEq, Repr

/-- The pieces of `pkger` that `templateKindFold` and the update read:
`Kinds()`, `KindUnknown`, `Kind.OK()` and `strings.EqualFold`. -/
structure KindTable where
  kinds : List String
  kindUnknown : String
  /-- The error of `Kind.OK()`. -/
  ok : String → Option String
  equalFold : String → String → Bool

variable (kt : KindTable) (idFromString : String → Except String UInt64)
  (wrap : String → String → String)

/-- `templateKindFold`: the first kind equal to `resType` up to case, else
`KindUnknown`. -/
def templateKindFold (resType : String) : String :=
  match kt.kinds.find? (fun k => kt.equalFold k resType) with
  | some k => k
  | none => kt.kindUnknown

/-- The loop of `stackUpdateRunEFn` over `--addResource`, with the resources
and the arguments with no `=` so far.  `resourceType` is
`b.exportOpts.resourceType`. -/
def addResources (resourceType : String) :
    List String → List StackAdditionalResource → List String →
      Except String (List StackAdditionalResource × List String)
  | [], acc, failedString => .ok (acc, failedString)
  | res :: rest, acc, failedString =>
    let parts := splitN res '=' 2
    if h : parts.length < 2 then addResources resourceType rest acc (failedString ++ [res]) else
    let kind := templateKindFold kt parts[0]
    let idRaw := parts[1]
    match kt.ok kind with
    | some _ => .error ("resource type is invalid; got: " ++ resourceType)
    | none =>
    match idFromString idRaw with
    | .error err => .error (wrap err (kind ++ " resource id " ++ quote idRaw ++ " is invalid"))
    | .ok id => addResources resourceType rest (acc ++ [⟨kind, id⟩]) failedString

/-- A loop that gets through a prefix goes on from where the prefix left it. -/
theorem addResources_append {resourceType : String} {pre : List String}
    {acc acc' : List StackAdditionalResource} {failed failed' : List String}
    (h : addResources kt idFromString wrap resourceType pre acc failed = .ok (acc', failed'))
    (rest : List String) :
    addResources kt idFromString wrap resourceType (pre ++ rest) acc failed =
      addResources kt idFromString wrap resourceType rest acc' failed' := by
  induction pre generalizing acc failed with
  | nil => cases h; rfl
  | cons res pre ih =>
    simp only [List.cons_append, addResources] at h ⊢
    split at h
    · next hp => rw [dif_pos hp]; exact ih h
    next hp =>
    rw [dif_neg hp]
    split at h
    · cases h
    next hk =>
    split at h
    · cases h
    exact ih h

/-- **An unknown kind is not named.**  After any prefix the loop gets through,
an argument `k=v` whose kind is unknown fails the update with the message
`resource type is invalid; got: ` and the export flag `resourceType`, whatever
`k`, `v` and the rest. -/
theorem addResources_invalid_kind {resourceType : String} {pre : List String} {k v err : String}
    (hpre : ∃ acc' failed', addResources kt idFromString wrap resourceType pre [] [] = .ok (acc', failed'))
    (hk : '=' ∉ k.data) (hkind : kt.ok (templateKindFold kt k) = some err) (rest : List String) :
    addResources kt idFromString wrap resourceType (pre ++ (k ++ "=" ++ v) :: rest) [] [] =
      .error ("resource type is invalid; got: " ++ resourceType) := by
  obtain ⟨acc', failed', h⟩ := hpre
  rw [addResources_append kt idFromString wrap h, addResources]
  simp only [splitN_two_append v rfl hk]
  simp [hkind]

/-- `pkger.StackUpdate`: `nil` pointers are `none`. -/
structure StackUpdate where
  id : UInt64
  name : Option String
  description : Option String
  templateURLs : List String
  additionalResources : List StackAdditionalResource

/-- The flags of `influx stacks update` that `stackUpdateRunEFn` reads.  A name
or description is set when its flag was given; `resourceType` is
`b.exportOpts.resourceType`, which the command does not register and leaves
empty. -/
structure StackUpdateFlags where
  stackID : String
  name : Option String
  description : Option String
  urls : List String
  addResources : List String
  file : String
  resourceType : String

/-- What `stackUpdateRunEFn` calls outside the file. -/
structure StackUpdateServices where
  /-- The error of `b.svcFn()`. -/
  svcFn : Option String
  /-- The error of the service's `UpdateStack`. -/
  updateStack : StackUpdate → Option String
  /-- The error of `b.writeStack(stack)`. -/
  writeStack : Option String
  /-- The error of `b.exportTemplate` with `ExportWithStackID(stackID)`. -/
  exportTemplate : UInt64 → String → Option String

/-- A run of `stackUpdateRunEFn` that returns `nil`: the update sent, and
whether the stack was exported after it. -/
structure StackUpdateOutcome where
  update : StackUpdate
  exported : Bool

/-- The question asked after an update that adds resources. -/
def exportPrompt : String :=
  "\nYour stack now differs from your template. Applying an outdated template will revert\n" ++
    "these updates. Export a new template with these updates to prevent accidental changes? (y/n)"

/-- The `for range make([]struct{}, 3)` loop: `y` exports, `n` does not, and
after `n` other answers the loop falls through to the export. -/
def confirmExport : Nat → τ → Bool × τ
  | 0, t => (true, t)
  | n + 1, t =>
    let (input, t) := getInput exportPrompt "n" t
    if input = "y" then (true, t) else if input = "n" then (false, t) else confirmExport n t

/-- The first `n` answers of the terminal to the export question. -/
def exportAnswers : Nat → τ → List String
  | 0, _ => []
  | n + 1, t => (getInput exportPrompt "n" t).1 :: exportAnswers n (getInput exportPrompt "n" t).2

/-- **The export is skipped only on a clear `n`.**  The loop skips the export
exactly when an `n` comes among the first `n` answers before any `y`. -/
theorem confirmExport_eq_false_iff (n : Nat) (t : τ) :
    (confirmExport getInput n t).1 = false ↔ "n" ∈ (exportAnswers getInput n t).takeWhile (· ≠ "y") := by
  induction n generalizing t with
  | zero => simp [confirmExport, exportAnswers]
  | succ n ih =>
    simp only [confirmExport, exportAnswers]
    by_cases hy : (getInput exportPrompt "n" t).1 = "y"
    · simp [hy]
    · by_cases hn : (getInput exportPrompt "n" t).1 = "n"
      · simp [hy, hn]
      · simp [hy, hn, Ne.symm hn, ih, List.takeWhile_cons]

/-- `stackUpdateRunEFn`. -/
def stackUpdateRunEFn (f : StackUpdateFlags) (svc : StackUpdateServices) (t : τ) :
    Except String StackUpdateOutcome :=
  match svc.svcFn with
  | some err => .error err
  | none =>
  match idFromString f.stackID with
  | .error err => .error (wrap err "required stack id is invalid")
  | .ok stackID =>
  match addResources kt idFromString wrap f.resourceType f.addResources [] [] with
  | .error err => .error err
  | .ok (additionalResources, failedString) =>
  if failedString.length > 0 then
    .error ("invalid \x27resourceType=resourceID\x27 key value pair[s]: " ++
      String.intercalate ";" failedString)
  else
  let update : StackUpdate := ⟨stackID, f.name, f.description, f.urls, additionalResources⟩
  match svc.updateStack update with
  | some err => .error err
  | none =>
  match svc.writeStack with
  | some err => .error err
  | none =>
  if additionalResources.length = 0 then .ok ⟨update, false⟩ else
  if f.file = "" ∧ (confirmExport getInput 3 t).1 = false then .ok ⟨update, false⟩ else
  match svc.exportTemplate stackID f.file with
  | some err => .error err
  | none => .ok ⟨update, true⟩

/-- **`stacks update` does not name the kind it rejects.**  Once the stack ID
decodes, an `--addResource` argument `k=v` with an unknown kind, after any
arguments the loop gets through, fails the update before `UpdateStack` with
`resource type is invalid; got: ` and the flag of another command. -/
theorem stackUpdateRunEFn_invalid_kind {f : StackUpdateFlags} {svc : StackUpdateServices} {t : τ}
    {stackID : UInt64} {pre rest : List String} {k v err : String}
    (hsvc : svc.svcFn = none) (hid : idFromString f.stackID = .ok stackID)
    (hres : f.addResources = pre ++ (k ++ "=" ++ v) :: rest)
    (hpre : ∃ acc failed, addResources kt idFromString wrap f.resourceType pre [] [] = .ok (acc, failed))
    (hk : '=' ∉ k.data) (hkind : kt.ok (templateKindFold kt k) = some err) :
    stackUpdateRunEFn getInput kt idFromString wrap f svc t =
      .error ("resource type is invalid; got: " ++ f.resourceType) := by
  unfold stackUpdateRunEFn
  rw [hsvc, hid, hres, addResources_invalid_kind kt idFromString wrap hpre hk hkind]

/-- `influx stacks update --addResource=Foo=0000000000000002`, with the kinds
`Bucket` and `Dashboard`. -/
theorem stackUpdateRunEFn_invalid_kind_foo :
    stackUpdateRunEFn (fun _ d (t : Unit) => (d, t))
        ⟨["Bucket", "Dashboard"], "", fun k => if k = "" then some "invalid kind" else none,
          fun a b => toLower Char.toLower a == toLower Char.toLower b⟩
        (fun _ => .ok 1) (fun err msg => msg ++ ": " ++ err)
        ⟨"0000000000000001", none, none, [], [] ++ ("Foo" ++ "=" ++ "0000000000000002") :: [], "",
          ""⟩
        ⟨none, fun _ => none, none, fun _ _ => none⟩ () =
      .error "resource type is invalid; got: " :=
  stackUpdateRunEFn_invalid_kind _ _ _ _ rfl rfl rfl ⟨[], [], rfl⟩ (by decide) rfl

end Cmd
end Influx
