import Influx.Go.Basic

/-!
# `--action` flags of `influx apply`

`cmd/influx/template.go`: `parseTemplateActions` turns each `--action`
argument into an apply option.  The argument is split at its first `=`; one with
no `=` is skipped.  A key `kind` (in any case) skips the resource kind named by
the value; a key `resource` skips one resource, the value split at its first `:`
into kind and meta name; any other key is an error.

The `resource` branch guards the second element of the value's split with the
length of the *argument's* split, which is two on that branch, so a value with
no `:` is read past its end: the call panics (`parseTemplateActions_panics`).

`unicode.ToLower`, which `strings.ToLower` applies rune by rune, is the
parameter `lower`.  A runtime panic is the outer `Except` of the result, the Go
function's own `(opts, err)` the inner one.

## Main definitions

* `parseTemplateActions` — the Go function.
* `AcceptedAction`, `RejectedAction` — what one argument does to the call.

## Main results

* `parseTemplateActions_panics` — a `resource` action with no `:` panics.
* `parseTemplateActions_cases` — every call accepts all its arguments, or stops
  at the first rejected one.
-/

namespace Influx
namespace Cmd

open Go

/-- `pkger.ApplyOptFn`, as the skip action it applies. -/
inductive ApplyOptFn
  /-- `pkger.ApplyWithKindSkip(pkger.ActionSkipKind{Kind: kind})`. -/
  | kindSkip (kind : String)
  /-- `pkger.ApplyWithResourceSkip(pkger.ActionSkipResource{Kind: kind, MetaName: metaName})`. -/
  | resourceSkip (kind metaName : String)
  deriving DecidableEq, Repr

/-- The error of the `resource` branch. -/
def invalidSkipResourceError (rawAct : String) : String :=
  "invalid skipResource action provided: " ++ quote rawAct ++
    "; \n\tExpected format --action=skipResource=Label:$LABEL_ID"

/-- The error of the `default` branch. -/
def invalidActionError (rawAct : String) : String :=
  "invalid action provided: " ++ quote rawAct ++
    "; \n\tExpected format --action=skipResource=Label:$LABEL_ID\n\tor" ++
    "\n\tExpected format --action=skipKind=Bucket"

variable (lower : Char → Char)

/-- `parseTemplateActions`.  The loop walks the arguments with the options
built so far. -/
def parseTemplateActions (args : List String) : Except Panic (Except String (List ApplyOptFn)) :=
  loop args []
where
  /-- The `for` loop of `parseTemplateActions`. -/
  loop : List String → List ApplyOptFn → Except Panic (Except String (List ApplyOptFn))
  | [], opts => .ok (.ok opts)
  | rawAct :: args, opts => do
    let pair := splitN rawAct '=' 2
    if pair.length < 2 then loop args opts else
    let key ← index pair 0
    let val ← index pair 1
    match toLower lower key with
    | "kind" => loop args (opts ++ [.kindSkip val])
    | "resource" =>
      let pp := splitN val ':' 2
      if pair.length ≠ 2 then .ok (.error (invalidSkipResourceError rawAct)) else
      let kind ← index pp 0
      let metaName ← index pp 1
      loop args (opts ++ [.resourceSkip kind metaName])
    | _ => .ok (.error (invalidActionError rawAct))

/-! ### What one argument does -/

/-- The arguments the loop accepts, with the options each adds: one with no `=`
adds none, `key=val` with a key that lowers to `kind` a kind skip, and
`key=kind:metaName` with a key that lowers to `resource` a resource skip. -/
inductive AcceptedAction : String → List ApplyOptFn → Prop
  | skip {rawAct : String} (h : '=' ∉ rawAct.data) : AcceptedAction rawAct []
  | kind {key : String} (val : String) (hkey : '=' ∉ key.data) (h : toLower lower key = "kind") :
      AcceptedAction (key ++ "=" ++ val) [.kindSkip val]
  | resource {key kind : String} (metaName : String) (hkey : '=' ∉ key.data)
      (h : toLower lower key = "resource") (hkind : ':' ∉ kind.data) :
      AcceptedAction (key ++ "=" ++ (kind ++ ":" ++ metaName)) [.resourceSkip kind metaName]

/-- The arguments the loop stops at, with the call's result: a key that lowers
to neither `kind` nor `resource` returns the invalid-action error, and a
`resource` value with no `:` panics. -/
inductive RejectedAction : String → Except Panic (Except String (List ApplyOptFn)) → Prop
  | invalid {key : String} (val : String) (hkey : '=' ∉ key.data)
      (hk : toLower lower key ≠ "kind") (hr : toLower lower key ≠ "resource") :
      RejectedAction (key ++ "=" ++ val) (.ok (.error (invalidActionError (key ++ "=" ++ val))))
  | panics {key val : String} (hkey : '=' ∉ key.data) (h : toLower lower key = "resource")
      (hval : ':' ∉ val.data) :
      RejectedAction (key ++ "=" ++ val) (.error ⟨"runtime error: index out of range [1] with length 1"⟩)

variable {lower}

/-- An accepted argument adds its options and the loop goes on. -/
theorem AcceptedAction.loop_cons {rawAct : String} {contrib : List ApplyOptFn}
    (h : AcceptedAction lower rawAct contrib) (args : List String) (opts : List ApplyOptFn) :
    parseTemplateActions.loop lower (rawAct :: args) opts =
      parseTemplateActions.loop lower args (opts ++ contrib) := by
  rw [parseTemplateActions.loop]
  cases h with
  | skip h => simp [splitN_two_of_not_mem h]
  | kind val hkey h => simp [splitN_two_append val rfl hkey, index, h, bind, Except.bind]
  | resource metaName hkey h hkind =>
    simp [splitN_two_append _ rfl hkey, splitN_two_append metaName rfl hkind, index, h, bind,
      Except.bind]

/-- A rejected argument ends the call. -/
theorem RejectedAction.loop_cons {rawAct : String} {r : Except Panic (Except String (List ApplyOptFn))}
    (h : RejectedAction lower rawAct r) (args : List String) (opts : List ApplyOptFn) :
    parseTemplateActions.loop lower (rawAct :: args) opts = r := by
  rw [parseTemplateActions.loop]
  cases h with
  | invalid val hkey hk hr => simp [splitN_two_append val rfl hkey, index, bind, Except.bind, hk, hr]
  | panics hkey h hval =>
    simp [splitN_two_append _ rfl hkey, splitN_two_of_not_mem hval, index, h, bind, Except.bind]
    rfl

/-- The loop runs through accepted arguments, adding their options in order. -/
theorem loop_append_accepted {pre : List String} {contribs : List (List ApplyOptFn)}
    (h : List.Forall₂ (AcceptedAction lower) pre contribs) (rest : List String)
    (opts : List ApplyOptFn) :
    parseTemplateActions.loop lower (pre ++ rest) opts =
      parseTemplateActions.loop lower rest (opts ++ contribs.flatten) := by
  induction h generalizing opts with
  | nil => simp
  | cons ha _ ih => rw [List.cons_append, ha.loop_cons, ih, List.flatten_cons, List.append_assoc]

/-- **A `resource` action with no `:` panics.**  After any accepted arguments,
`resource=val` (the key in any case) with no `:` in `val` indexes the second
element of a one-element split. -/
theorem parseTemplateActions_panics {pre : List String} {contribs : List (List ApplyOptFn)}
    {key val : String} (hpre : List.Forall₂ (AcceptedAction lower) pre contribs)
    (hkey : '=' ∉ key.data) (h : toLower lower key = "resource") (hval : ':' ∉ val.data)
    (rest : List String) :
    parseTemplateActions lower (pre ++ (key ++ "=" ++ val) :: rest) =
      .error ⟨"runtime error: index out of range [1] with length 1"⟩ := by
  rw [parseTemplateActions, loop_append_accepted hpre]
  exact (RejectedAction.panics hkey h hval).loop_cons rest _

/-- `--action resource=Label`, with Go's lowering of ASCII letters. -/
theorem parseTemplateActions_panics_resource_label :
    List.Forall₂ (AcceptedAction Char.toLower) [] [] ∧ '=' ∉ "resource".data ∧
      toLower Char.toLower "resource" = "resource" ∧ ':' ∉ "Label".data ∧
      parseTemplateActions Char.toLower ([] ++ ("resource" ++ "=" ++ "Label") :: []) =
        .error ⟨"runtime error: index out of range [1] with length 1"⟩ :=
  ⟨.nil, by decide, by decide, by decide,
    parseTemplateActions_panics .nil (by decide) (by decide) (by decide) []⟩

example :
    parseTemplateActions Char.toLower ["kind=Bucket", "skip", "RESOURCE=Label:cpu:x"] =
      .ok (.ok [.kindSkip "Bucket", .resourceSkip "Label" "cpu:x"]) := rfl

end Cmd
end Influx
