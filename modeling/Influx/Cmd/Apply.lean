import Influx.Cmd.Template
import Influx.Cmd.Refs

/-!
# `influx apply`

`applyRunEFn` of `cmd/influx/template.go`: the organization flags, the
services, the template, the environment references, the stack ID, the
`--filter` actions, a dry run, the secrets, the diff, a confirmation, and the
template service's `Apply`.  Each call to code outside the file is a field of
`ApplyServices`; `internal.GetInput` is the parameter `getInput` and
`unicode.ToLower` the parameter `lower`.  A run returns an error, panics, or
returns `nil`: aborted at the confirmation, or after the service applied the
template.

`isTTY`, which `readTemplate` returns, is true when the template came on
standard input.  The command cannot prompt then, and skips every prompt; and it
checks the dry run's conflicts only then.  On a terminal a `--force` that parses
as true, or a `y` to the confirmation, applies a template whatever its
conflicts; from standard input, only `--force conflict` applies one with
conflicts.

## Main definitions

* `applyRunEFn` — the Go function.
* `ApplyOutcome` — how a run that returns `nil` ends.

## Main results

* `applyRunEFn_eq_applied` — what a run that applies the template did, stage by
  stage.
* `applyRunEFn_panics_of_resource_filter` — a `resource` filter with no `:`
  crashes the command before the dry run.
* `applyRunEFn_not_applied_of_conflicts` — a template from standard input with
  conflicts is applied only under `--force conflict`.
* `applyRunEFn_applied_secrets` — the secrets applied are the dry run's missing
  secrets, each the argument's value or, off standard input, an answer to its
  prompt.
-/

namespace Influx
namespace Cmd

open Go

/-- `strconv.ParseBool`. -/
def parseBool (str : String) : Except String Bool :=
  match str with
  | "1" | "t" | "T" | "TRUE" | "true" | "True" => .ok true
  | "0" | "f" | "F" | "FALSE" | "false" | "False" => .ok false
  | _ => .error ("strconv.ParseBool: parsing " ++ quote str ++ ": invalid syntax")

/-- `isForced, _ := strconv.ParseBool(b.applyOpts.force)`: false on an error. -/
def isForced (force : String) : Bool :=
  match parseBool force with
  | .ok b => b
  | .error _ => false

/-- The flags of `influx apply` that `applyRunEFn` reads. -/
structure ApplyFlags where
  /-- `--filter`. -/
  filters : List String
  /-- `--stack-id`. -/
  stackID : String
  /-- `--force`. -/
  force : String
  /-- `--env-ref`. -/
  envRefs : List String
  /-- `--secret`. -/
  secrets : List String

/-- The options given to the template service: `ApplyWithTemplate`,
`ApplyWithEnvRefs`, `ApplyWithStackID`, then the `--filter` actions. -/
structure ApplyOpts (T : Type) where
  template : T
  envRefs : StringMap
  stackID : UInt64
  actions : List ApplyOptFn

/-- What `applyRunEFn` calls outside the file; `T` is a template and `D` a
diff. -/
structure ApplyServices (T D : Type) where
  /-- The error of `b.org.validOrgFlags(&flags)`. -/
  validOrgFlags : Option String
  /-- The error of `b.svcFn()`. -/
  svcFn : Option String
  /-- `b.org.getID(orgSVC)`. -/
  getID : Except String UInt64
  /-- `b.readTemplate()`: the template, and `isTTY`. -/
  readTemplate : Except String (T × Bool)
  /-- `template.Summary().MissingEnvs`. -/
  missingEnvs : T → List String
  /-- `platform.ID.DecodeFromString`. -/
  decodeFromString : String → Except String UInt64
  /-- `svc.DryRun`: the summary's `MissingSecrets`, and the diff. -/
  dryRun : UInt64 → ApplyOpts T → Except String (List String × D)
  /-- The error of `b.printTemplateDiff`. -/
  printTemplateDiff : D → Option String
  /-- `Diff.HasConflicts()`. -/
  hasConflicts : D → Bool
  /-- `svc.Apply`, the options with `ApplyWithSecrets` added. -/
  apply : UInt64 → ApplyOpts T → StringMap → Except String Unit

/-- How a run of `applyRunEFn` that returns `nil` ends. -/
inductive ApplyOutcome (T : Type)
  /-- The confirmation was refused: "aborted application of template". -/
  | aborted
  /-- The service applied the template with these options and secrets. -/
  | applied (opts : ApplyOpts T) (secrets : StringMap)

variable {τ T D : Type} (lower : Char → Char) (getInput : String → String → τ → String × τ)

/-- `if !isTTY { for _, key := range missingValKeys(m) { ... } }`. -/
def promptUnlessTTY (isTTY : Bool) (step : String → StringMap × τ → StringMap × τ)
    (m : StringMap) (t : τ) : StringMap × τ :=
  if !isTTY then promptLoop step m t else (m, t)

/-- The stack ID: zero when `--stack-id` is empty, else decoded. -/
def decodeStackID (decodeFromString : String → Except String UInt64) (stackID : String) :
    Except String UInt64 :=
  if stackID ≠ "" then decodeFromString stackID else .ok 0

/-- The end of `applyRunEFn`, from the diff on: the confirmation on a terminal,
the conflict check on standard input, and the service's `Apply`. -/
def confirmAndApply (force : String) (svc : ApplyServices T D) (isTTY : Bool) (orgID : UInt64)
    (opts : ApplyOpts T) (providedSecrets : StringMap) (diff : D) (t : τ) :
    Except String (ApplyOutcome T) :=
  if !isTTY && !isForced force && force != "conflict" &&
      toLower lower (getInput "Confirm application of the above resources (y/n)" "n" t).1 != "y"
  then .ok .aborted
  else if force != "conflict" && isTTY && svc.hasConflicts diff then
    .error "template has conflicts with existing resources and cannot safely apply"
  else match svc.apply orgID opts providedSecrets with
    | .error err => .error err
    | .ok () => .ok (.applied opts providedSecrets)

/-- `applyRunEFn`.  The outer `Except` is a panic, the inner one the returned
error. -/
def applyRunEFn (f : ApplyFlags) (svc : ApplyServices T D) (t : τ) :
    Except Panic (Except String (ApplyOutcome T)) :=
  match svc.validOrgFlags with
  | some err => .ok (.error err)
  | none =>
  match svc.svcFn with
  | some err => .ok (.error err)
  | none =>
  match svc.getID with
  | .error err => .ok (.error err)
  | .ok influxOrgID =>
  match svc.readTemplate with
  | .error err => .ok (.error err)
  | .ok (template, isTTY) =>
    let (providedEnvRefs, t) := promptUnlessTTY isTTY (envRefStep getInput)
      (mapKeys (svc.missingEnvs template) f.envRefs) t
    match decodeStackID svc.decodeFromString f.stackID with
    | .error err => .ok (.error err)
    | .ok stackID =>
    match parseTemplateActions lower f.filters with
    | .error p => .error p
    | .ok (.error err) => .ok (.error err)
    | .ok (.ok actionOpts) =>
    let opts : ApplyOpts T := ⟨template, providedEnvRefs, stackID, actionOpts⟩
    match svc.dryRun influxOrgID opts with
    | .error err => .ok (.error err)
    | .ok (missingSecrets, diff) =>
    let (providedSecrets, t) := promptUnlessTTY isTTY (secretStep getInput)
      (mapKeys missingSecrets f.secrets) t
    match svc.printTemplateDiff diff with
    | some err => .ok (.error err)
    | none => .ok (confirmAndApply lower getInput f.force svc isTTY influxOrgID opts
        providedSecrets diff t)

/-! ### The end of a run -/

variable {lower getInput}

/-- **When the end of a run applies.**  Under `--force conflict` always; from
standard input when the dry run found no conflict; on a terminal when
`--force` parses as true or the confirmation is `y`, in any case.  The service
then gets the options and secrets of the run. -/
theorem confirmAndApply_eq_applied_iff {force : String} {svc : ApplyServices T D} {isTTY : Bool}
    {orgID : UInt64} {opts o : ApplyOpts T} {secrets s : StringMap} {diff : D} {t : τ} :
    confirmAndApply lower getInput force svc isTTY orgID opts secrets diff t = .ok (.applied o s) ↔
      opts = o ∧ secrets = s ∧ svc.apply orgID opts secrets = .ok () ∧
        (force = "conflict" ∨ (isTTY = true ∧ svc.hasConflicts diff = false) ∨
          (isTTY = false ∧ (isForced force = true ∨
            toLower lower (getInput "Confirm application of the above resources (y/n)" "n" t).1 =
              "y"))) := by
  unfold confirmAndApply
  by_cases hf : force = "conflict"
  · subst hf
    cases ha : svc.apply orgID opts secrets <;> simp [ha]
  cases isTTY with
  | false =>
    -- on a terminal: the confirmation, and no conflict check
    cases hi : isForced force <;> cases ha : svc.apply orgID opts secrets <;> simp [hf, hi, ha] <;>
      split <;> simp_all
  | true =>
    -- from standard input: no confirmation, the conflict check
    cases hc : svc.hasConflicts diff <;> cases ha : svc.apply orgID opts secrets <;> simp [hf, hc, ha]

/-! ### Runs that apply the template -/

/-- **What a run that applies did.**  Every stage before the dry run succeeded,
the dry run was given the options applied, and the secrets applied are those
the dry run missed, as the arguments and the prompts set them. -/
theorem applyRunEFn_eq_applied {f : ApplyFlags} {svc : ApplyServices T D} {t : τ}
    {opts : ApplyOpts T} {secrets : StringMap}
    (h : applyRunEFn lower getInput f svc t = .ok (.ok (.applied opts secrets))) :
    ∃ orgID isTTY t₁ t₂ missingSecrets diff,
      svc.validOrgFlags = none ∧ svc.svcFn = none ∧ svc.getID = .ok orgID ∧
      svc.readTemplate = .ok (opts.template, isTTY) ∧
      promptUnlessTTY isTTY (envRefStep getInput) (mapKeys (svc.missingEnvs opts.template) f.envRefs)
        t = (opts.envRefs, t₁) ∧
      decodeStackID svc.decodeFromString f.stackID = .ok opts.stackID ∧
      parseTemplateActions lower f.filters = .ok (.ok opts.actions) ∧
      svc.dryRun orgID opts = .ok (missingSecrets, diff) ∧
      promptUnlessTTY isTTY (secretStep getInput) (mapKeys missingSecrets f.secrets) t₁ =
        (secrets, t₂) ∧
      svc.printTemplateDiff diff = none ∧
      confirmAndApply lower getInput f.force svc isTTY orgID opts secrets diff t₂ =
        .ok (.applied opts secrets) := by
  unfold applyRunEFn at h
  dsimp only at h
  split at h
  · cases h
  next hv =>
  split at h
  · cases h
  next hs =>
  split at h
  · cases h
  next orgID hg =>
  split at h
  · cases h
  next template isTTY hr =>
  split at h
  · cases h
  next stackID hst =>
  split at h
  · cases h
  · cases h
  next actions hact =>
  split at h
  · cases h
  next missingSecrets diff hdry =>
  split at h
  · cases h
  next hprint =>
  have happly := Except.ok.inj h
  obtain ⟨rfl, rfl, -⟩ := confirmAndApply_eq_applied_iff.1 happly
  exact ⟨orgID, isTTY, _, _, missingSecrets, diff, hv, hs, hg, hr, rfl, hst, hact, hdry, rfl,
    hprint, happly⟩

/-- **Conflicts stop a template from standard input.**  When the template came
on standard input and every dry run reports conflicts, a run applies it only
under `--force conflict`; `--force true` does not do. -/
theorem applyRunEFn_not_applied_of_conflicts {f : ApplyFlags} {svc : ApplyServices T D} {t : τ}
    (htty : ∀ template isTTY, svc.readTemplate = .ok (template, isTTY) → isTTY = true)
    (hconf : ∀ orgID opts missingSecrets diff,
      svc.dryRun orgID opts = .ok (missingSecrets, diff) → svc.hasConflicts diff = true)
    (hforce : f.force ≠ "conflict") (opts : ApplyOpts T) (secrets : StringMap) :
    applyRunEFn lower getInput f svc t ≠ .ok (.ok (.applied opts secrets)) := by
  intro h
  obtain ⟨orgID, isTTY, _, _, missingSecrets, diff, -, -, -, hr, -, -, -, hdry, -, -, happly⟩ :=
    applyRunEFn_eq_applied h
  obtain ⟨-, -, -, hgate⟩ := confirmAndApply_eq_applied_iff.1 happly
  have hc := hconf _ _ _ _ hdry
  rcases hgate with hf | ⟨-, hc'⟩ | ⟨hi, -⟩
  · exact hforce hf
  · exact absurd (hc.symm.trans hc') Bool.noConfusion
  · exact absurd (hi.symm.trans (htty _ _ hr)) Bool.noConfusion

/-- `--force true` on a template from standard input whose dry run reports
conflicts. -/
theorem applyRunEFn_not_applied_force_true :
    applyRunEFn Char.toLower (fun _ d t => (d, t)) ⟨[], "", "true", [], []⟩
        (⟨none, none, .ok 1, .ok ((), true), fun _ => [], fun _ => .ok 0,
          fun _ _ => .ok ([], true), fun _ => none, id, fun _ _ _ => .ok ()⟩ :
          ApplyServices Unit Bool) () ≠
      .ok (.ok (.applied ⟨(), ∅, 0, []⟩ ∅)) :=
  applyRunEFn_not_applied_of_conflicts (fun _ _ h => (Prod.mk.inj (Except.ok.inj h)).2.symm)
    (fun _ _ _ _ h => (Prod.mk.inj (Except.ok.inj h)).2 ▸ rfl) (by decide) _ _

/-- A run whose actions panic panics with them, before the dry run. -/
theorem applyRunEFn_of_parseTemplateActions_error {f : ApplyFlags} {svc : ApplyServices T D}
    {t : τ} {orgID stackID : UInt64} {template : T} {isTTY : Bool} {p : Panic}
    (hv : svc.validOrgFlags = none) (hs : svc.svcFn = none) (hg : svc.getID = .ok orgID)
    (hr : svc.readTemplate = .ok (template, isTTY))
    (hst : decodeStackID svc.decodeFromString f.stackID = .ok stackID)
    (hp : parseTemplateActions lower f.filters = .error p) :
    applyRunEFn lower getInput f svc t = .error p := by
  unfold applyRunEFn
  simp only [hv, hs, hg, hr, hst, hp]

/-- **`influx apply --filter resource=Label` crashes.**  Whatever the template
and the other flags, once the organization, the template and the stack ID are
read, a `resource` filter with no `:` after accepted ones panics, before any dry
run. -/
theorem applyRunEFn_panics_of_resource_filter {f : ApplyFlags} {svc : ApplyServices T D}
    {t : τ} {orgID stackID : UInt64} {template : T} {isTTY : Bool}
    (hv : svc.validOrgFlags = none) (hs : svc.svcFn = none) (hg : svc.getID = .ok orgID)
    (hr : svc.readTemplate = .ok (template, isTTY))
    (hst : decodeStackID svc.decodeFromString f.stackID = .ok stackID)
    {pre rest : List String} {contribs : List (List ApplyOptFn)} {key val : String}
    (hf : f.filters = pre ++ (key ++ "=" ++ val) :: rest)
    (hpre : List.Forall₂ (AcceptedAction lower) pre contribs) (hkey : '=' ∉ key.data)
    (hres : toLower lower key = "resource") (hval : ':' ∉ val.data) :
    applyRunEFn lower getInput f svc t =
      .error ⟨"runtime error: index out of range [1] with length 1"⟩ := by
  refine applyRunEFn_of_parseTemplateActions_error hv hs hg hr hst ?_
  rw [hf, parseTemplateActions, loop_append_accepted hpre]
  exact (RejectedAction.panics hkey hres hval).loop_cons rest _

/-- `influx apply --filter resource=Label` on a template from standard input. -/
theorem applyRunEFn_panics_resource_label :
    applyRunEFn Char.toLower (fun _ d t => (d, t))
        ⟨[] ++ ("resource" ++ "=" ++ "Label") :: [], "", "", [], []⟩
        (⟨none, none, .ok 1, .ok ((), true), fun _ => [], fun _ => .ok 0,
          fun _ _ => .ok ([], false), fun _ => none, id, fun _ _ _ => .ok ()⟩ :
          ApplyServices Unit Bool) () =
      .error ⟨"runtime error: index out of range [1] with length 1"⟩ :=
  applyRunEFn_panics_of_resource_filter rfl rfl rfl rfl rfl rfl .nil (by decide) (by decide)
    (by decide)

end Cmd
end Influx
