import Influx.Go.Basic
import Influx.Go.Path

/-!
# Resources to export, and the encoding of a template file

`cmd/influx/template.go`.  `influx export` takes the resources to export as
comma-separated IDs and names, one pair of flags per kind: `toInfluxIDs`
normalizes each ID (lower case, blanks trimmed), skips the empty ones and
reports every one that does not decode, and `newResourcesToClone` adds the IDs,
then the non-empty names, as resources of the kind.  An unset flag adds nothing.

A template is written in the encoding `createTemplateBuf` picks from the output
path's extension, JSON for `.json` and YAML for anything else, and read back by
`influx apply -f` in the encoding `convertFileEncoding` picks: Jsonnet, JSON or
YAML by the extension's prefix, else the `--encoding` flag.  The two agree on
`.json`, `.yml` and `.yaml` files and on no other extension that starts with
`.json`: a template exported to `stack.jsonnet` is written in YAML and read as
Jsonnet.

`platform.IDFromString` is the parameter `idFromString`, `unicode.ToLower`
`lower` and `unicode.IsSpace` `isSpace`.

## Main definitions

* `toInfluxIDs`, `newResourcesToClone` — the Go functions.
* `convertEncoding`, `convertFileEncoding`, `convertURLEncoding`,
  `templateBufEncoding` — the encodings a template is read and written in.

## Main results

* `toInfluxIDs_eq` — the IDs of the arguments in order, or an error naming each
  argument that is not an ID.
* `convertFileEncoding_eq_templateBufEncoding_iff` — when a template file is
  read back in the encoding it was written in.
-/

namespace Influx
namespace Cmd

open Go Go.Path

/-! ### IDs and names -/

variable (lower : Char → Char) (isSpace : Char → Bool)
  (idFromString : String → Except String UInt64)

/-- What the loop of `toInfluxIDs` makes of one argument: nothing for a blank
one, else its ID, or the error line that names it. -/
def decodeArg (arg : String) : Option (Except String UInt64) :=
  let normedArg := trimSpace isSpace (toLower lower arg)
  if normedArg.length = 0 then none else
  match idFromString normedArg with
  | .error _ => some (.error ("arg must provide a valid 16 length ID; got: " ++ arg))
  | .ok id => some (.ok id)

/-- `toInfluxIDs`: the loop collects the IDs and the error lines. -/
def toInfluxIDs (args : List String) : Except String (List UInt64) :=
  let (ids, errs) := args.foldl (fun (acc : List UInt64 × List String) arg =>
    match decodeArg lower isSpace idFromString arg with
    | none => acc
    | some (.error e) => (acc.1, acc.2 ++ [e])
    | some (.ok id) => (acc.1 ++ [id], acc.2)) ([], [])
  if errs.length > 0 then .error (String.intercalate "\n\t" errs) else .ok ids

/-- The error lines among what the loop made of the arguments. -/
def errorLines : List (Except String UInt64) → List String :=
  List.filterMap fun r => match r with
    | .error e => some e
    | .ok _ => none

/-- The loop of `toInfluxIDs` splits what it made of the arguments into IDs and
error lines, each in order. -/
theorem foldl_decodeArg (args : List String) (acc : List UInt64 × List String) :
    args.foldl (fun (acc : List UInt64 × List String) arg =>
      match decodeArg lower isSpace idFromString arg with
      | none => acc
      | some (.error e) => (acc.1, acc.2 ++ [e])
      | some (.ok id) => (acc.1 ++ [id], acc.2)) acc =
      (acc.1 ++ (args.filterMap (decodeArg lower isSpace idFromString)).filterMap Except.toOption,
        acc.2 ++ errorLines ((args.filterMap (decodeArg lower isSpace idFromString)))) := by
  induction args generalizing acc with
  | nil => simp [errorLines]
  | cons arg args ih =>
    rw [List.foldl_cons, ih]
    rcases hd : decodeArg lower isSpace idFromString arg with _ | _ | id <;>
      simp [hd, errorLines, List.filterMap_cons, Except.toOption]

/-- **What `toInfluxIDs` returns.**  With no argument that fails to decode, the
IDs of the non-blank arguments in order; else an error with one line for each
argument that fails, in order. -/
theorem toInfluxIDs_eq (args : List String) :
    toInfluxIDs lower isSpace idFromString args =
      match errorLines (args.filterMap (decodeArg lower isSpace idFromString)) with
      | [] => .ok ((args.filterMap (decodeArg lower isSpace idFromString)).filterMap
          Except.toOption)
      | errs => .error (String.intercalate "\n\t" errs) := by
  rw [toInfluxIDs, foldl_decodeArg]
  cases errorLines (args.filterMap (decodeArg lower isSpace idFromString)) <;> simp

/-! ### Encodings -/

/-- `pkger.Encoding`, the four the command picks from. -/
inductive Encoding
  | json
  | jsonnet
  | source
  | yaml
  deriving DecidableEq, Repr

/-- `convertEncoding`: the `--encoding` flag. -/
def convertEncoding (encoding : String) : Encoding :=
  if encoding = "json" then .json
  else if encoding = "yml" ∨ encoding = "yaml" then .yaml
  else if encoding = "jsonnet" then .jsonnet
  else .source

/-- The `switch` of `convertURLEncoding` and `convertFileEncoding` on an
extension, with the flag as the fallback. -/
def encodingOfExt (encoding ext : String) : Encoding :=
  if hasPrefix ext ".jsonnet" then .jsonnet
  else if hasPrefix ext ".json" then .json
  else if hasPrefix ext ".yml" || hasPrefix ext ".yaml" then .yaml
  else convertEncoding encoding

/-- `convertURLEncoding`: by `path.Ext` of the URL. -/
def convertURLEncoding (encoding url : String) : Encoding := encodingOfExt encoding (ext url)

/-- `convertFileEncoding`: by `filepath.Ext` of the file. -/
def convertFileEncoding (encoding file : String) : Encoding := encodingOfExt encoding (ext file)

/-- The encoding `createTemplateBuf` writes a template in: JSON for a `.json`
output path, YAML for any other. -/
def templateBufEncoding (outPath : String) : Encoding :=
  if ext outPath = ".json" then .json else .yaml

theorem hasPrefix_json_of_jsonnet {e : String} (h : hasPrefix e ".jsonnet") : hasPrefix e ".json" :=
  List.isPrefixOf_iff_prefix.2 ((List.isPrefixOf_iff_prefix.1 (by decide)).trans
    (List.isPrefixOf_iff_prefix.1 h))

/-- **When a template file is read back as it was written.**  `influx apply -f`
reads a file that `influx export -f` wrote in the encoding it was written in
exactly when its extension is `.json`, or does not start with `.json` and starts
with `.yml` or `.yaml`, or the `--encoding` flag names YAML. -/
theorem convertFileEncoding_eq_templateBufEncoding_iff (encoding outPath : String) :
    convertFileEncoding encoding outPath = templateBufEncoding outPath ↔
      ext outPath = ".json" ∨
        (hasPrefix (ext outPath) ".json" = false ∧
          (hasPrefix (ext outPath) ".yml" ∨ hasPrefix (ext outPath) ".yaml" ∨
            convertEncoding encoding = .yaml)) := by
  unfold convertFileEncoding encodingOfExt templateBufEncoding
  generalize ext outPath = e
  by_cases hj : e = ".json"
  · subst hj
    have h₁ : hasPrefix ".json" ".jsonnet" = false := by decide
    have h₂ : hasPrefix ".json" ".json" = true := by decide
    simp [h₁, h₂]
  cases h₁ : hasPrefix e ".jsonnet"
  · cases h₂ : hasPrefix e ".json"
    · cases h₃ : hasPrefix e ".yml" <;> cases h₄ : hasPrefix e ".yaml" <;> simp [hj]
    · simp [hj]
  · simp [hj, hasPrefix_json_of_jsonnet h₁]

example : convertFileEncoding "" "stack.jsonnet" = .jsonnet ∧
    templateBufEncoding "stack.jsonnet" = .yaml := by
  decide

end Cmd
end Influx
