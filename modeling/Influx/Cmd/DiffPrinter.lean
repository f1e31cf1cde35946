import Influx.Go.Basic

/-!
# The diff tables of `influx apply`

`cmd/influx/template.go`.  Before it applies a template, `influx apply` prints
the diff of each kind of resource as a table (`printTemplateDiff`) through a
`diffPrinter`: `SetHeaders` sets the header row, each resource of the kind is one
call of `AppendDiff` with the row of its old value and the row of its new value,
and `Render` adds the footer `TOTAL`, the number of those calls.

`AppendDiff` writes a removed row in red, an added row in green, and a changed
resource as the two rows with the cells that differ coloured.  It compares the
rows column by column over the removed one, reading the added row at the same
column, so it panics when the added row is not empty and shorter than the
removed one (`appendDiff_eq`).  `printTemplateDiff` builds both rows of a
resource with one function of fixed length, so printing a kind never panics and
its footer counts the kind's resources (`printDiffSection_footer`).

The printer's `tablewriter.Table` is the header, footer and rows handed to it; a
row written with `Append` has no colours, one written with `Rich` has one for
each cell.  `pkger.IsNew` and `pkger.IsRemoval` are the parameters `isNew` and
`isRemoval`, a kind's `appendValues` is the parameter `appendValues`, and
`SafeID.String` is `idString`.

## Main definitions

* `DiffPrinter`, `newDiffPrinter` — the printer.
* `DiffPrinter.setHeaders`, `DiffPrinter.appendDiff`, `DiffPrinter.setFooter`,
  `DiffPrinter.render` — its methods.
* `diffRows` — the rows `AppendDiff` writes, stated from the columns that differ.
* `printDiffSection`, `printLabelMappings` — the tables of `printTemplateDiff`.

## Main results

* `DiffPrinter.appendDiff_eq` — `AppendDiff` panics exactly when the added row is
  not empty and shorter than the removed one, and otherwise writes `diffRows`;
  `DiffPrinter.appendDiff_eq_error_iff` states the panic alone.
* `DiffPrinter.foldlM_appendDiff` — a run of `AppendDiff` calls none of which
  panics.
* `printDiffSection_footer`, `printLabelMappings_footer` — the table of a kind
  ends with the number of its resources.
-/

namespace Influx
namespace Cmd

open Go

/-! ### The printer -/

/-- `tablewriter.Colors`: the SGR attributes of a cell. -/
abbrev Colors := List Nat

/-- The `tablewriter` attributes the printer uses, by their SGR codes. -/
def fgRedColor : Nat := 31

def fgCyanColor : Nat := 36

def fgHiGreenColor : Nat := 92

def fgHiBlueColor : Nat := 94

def bold : Nat := 1

/-- A row handed to the printer's `tablewriter.Table`: its cells, and their
colours when it was written with `Rich` rather than `Append`. -/
structure Row where
  cells : List String
  colors : Option (List Colors)
  deriving DecidableEq, Repr

/-- `diffPrinter`, its `tablewriter.Table` as the header, footer and rows set on
it with their colours. -/
structure DiffPrinter where
  header : List String
  headerColors : List Colors
  footer : List String
  footerColors : List Colors
  rows : List Row
  colorAdd : Colors
  colorFooter : Colors
  colorHeaders : Colors
  colorRemove : Colors
  title : String
  appendCalls : Nat
  headerLen : Nat
  deriving DecidableEq, Repr

/-- `newDiffPrinter`: every colour is empty without `hasColor`. -/
def newDiffPrinter (hasColor : Bool) : DiffPrinter :=
  let (colorAdd, colorFooter, colorHeader, colorRemove) : Colors × Colors × Colors × Colors :=
    if hasColor then
      ([fgHiGreenColor, bold], [fgHiBlueColor, bold], [fgCyanColor, bold], [fgRedColor, bold])
    else ([], [], [], [])
  { header := [], headerColors := [], footer := [], footerColors := [], rows := [],
    colorAdd := colorAdd, colorFooter := colorFooter, colorHeaders := colorHeader,
    colorRemove := colorRemove, title := "", appendCalls := 0, headerLen := 0 }

/-- `colorRow`: `i` cells of one colour. -/
def colorRow (color : Colors) (i : Nat) : List Colors := List.replicate i color

/-- `d.prepend(slc, val)`. -/
def prepend (slc : List String) (val : String) : List String := val :: slc

namespace DiffPrinter

/-- `Title`. -/
def setTitle (d : DiffPrinter) (title : String) : DiffPrinter := { d with title := title }

/-- `SetHeaders`: the headers after the sign column, each in the header colour. -/
def setHeaders (d : DiffPrinter) (headers : List String) : DiffPrinter :=
  let headers := prepend headers "+/-"
  { d with
    headerLen := headers.length, header := headers,
    headerColors := List.replicate headers.length d.colorHeaders }

/-- `setFooter`: `TOTAL` and the number of `AppendDiff` calls in the last two
columns, or both in the only one. -/
def setFooter (d : DiffPrinter) : Except Panic DiffPrinter := do
  let footers := List.replicate d.headerLen ""
  let footers ← if d.headerLen > 1 then do
      let footers ← setIndex footers (footers.length - 2) "TOTAL"
      setIndex footers (footers.length - 1) (toString d.appendCalls)
    else setIndex footers 0 ("TOTAL: " ++ toString d.appendCalls)
  let colors := List.replicate d.headerLen ([] : Colors)
  let colors ← if d.headerLen > 1 then do
      let colors ← setIndex colors (colors.length - 2) d.colorFooter
      setIndex colors (colors.length - 1) d.colorFooter
    else setIndex colors 0 d.colorFooter
  pure { d with footer := footers, footerColors := colors }

/-- `d.writer.Append(row)`. -/
def writerAppend (d : DiffPrinter) (row : List String) : DiffPrinter :=
  { d with rows := d.rows ++ [⟨row, none⟩] }

/-- `d.writer.Rich(row, colors)`. -/
def writerRich (d : DiffPrinter) (row : List String) (colors : List Colors) : DiffPrinter :=
  { d with rows := d.rows ++ [⟨row, some colors⟩] }

/-- `appendBufferLine`. -/
def appendBufferLine (d : DiffPrinter) : DiffPrinter := d.writerAppend []

/-- `redRow`. -/
def redRow (d : DiffPrinter) (i : Nat) : List Colors := colorRow d.colorRemove i

/-- `greenRow`. -/
def greenRow (d : DiffPrinter) (i : Nat) : List Colors := colorRow d.colorAdd i

/-- One turn of the loop of `AppendDiff`, at column `i` of `remove`: whether a
cell differs, and the colours of the two rows. -/
def diffColumn (d : DiffPrinter) (remove add : List String)
    (acc : Bool × List Colors × List Colors) (i : Nat) :
    Except Panic (Bool × List Colors × List Colors) := do
  let a ← index add i
  let r ← index remove i
  if a ≠ r then
    let addColors ← setIndex acc.2.1 (i + 1) d.colorAdd
    let removeColors ← setIndex acc.2.2 (i + 1) d.colorRemove
    pure (true, addColors, removeColors)
  else pure acc

/-- `AppendDiff` after its buffer line and before its deferred `appendCalls++`:
the rows it writes. -/
def writeDiff (d : DiffPrinter) (remove add : List String) : Except Panic DiffPrinter :=
  let lenAdd := add.length
  let lenRemove := remove.length
  let preppedAdd := prepend add "+"
  let preppedRemove := prepend remove "-"
  if lenRemove > 0 ∧ lenAdd = 0 then
    .ok (d.writerRich preppedRemove (d.redRow preppedRemove.length))
  else if lenAdd > 0 ∧ lenRemove = 0 then
    .ok (d.writerRich preppedAdd (d.greenRow preppedAdd.length))
  else do
    let (hasDiff, addColors, removeColors) ←
      (List.range lenRemove).foldlM (d.diffColumn remove add)
        (false, List.replicate preppedAdd.length [], List.replicate preppedRemove.length [])
    if !hasDiff then .ok (d.writerAppend (prepend add "")) else do
    let addColors ← setIndex addColors 0 d.colorAdd
    let removeColors ← setIndex removeColors 0 d.colorRemove
    pure ((d.writerRich (prepend remove "-") removeColors).writerRich (prepend add "+") addColors)

/-- `AppendDiff`: a buffer line after the first call, the rows, and the deferred
`appendCalls++`. -/
def appendDiff (d : DiffPrinter) (remove add : List String) : Except Panic DiffPrinter := do
  let d ← (if d.appendCalls > 0 then d.appendBufferLine else d).writeDiff remove add
  pure { d with appendCalls := d.appendCalls + 1 }

/-- `Render`: nothing before a call of `AppendDiff`; else the title line, and
the table with its footer. -/
def render (d : DiffPrinter) : Except Panic (Option DiffPrinter) :=
  if d.appendCalls = 0 then .ok none else do
  let d ← d.setFooter
  pure (some d)

end DiffPrinter

/-! ### What `AppendDiff` writes -/

/-- Whether a cell differs in the columns both rows have. -/
def hasDiffCell (remove add : List String) : Bool :=
  (List.zipWith (fun a r => a != r) add remove).any id

/-- The colours of the columns both rows have: `color` where the cells differ. -/
def diffColors (color : Colors) (remove add : List String) : List Colors :=
  List.zipWith (fun a r => if a = r then [] else color) add remove

/-- The rows `AppendDiff` writes, when it does not panic: the removed row in red,
the added row in green, or, with both rows, the unchanged row or the two rows
with the sign cell and the differing cells coloured. -/
def diffRows (d : DiffPrinter) (remove add : List String) : List Row :=
  if 0 < remove.length ∧ add.length = 0 then
    [⟨"-" :: remove, some (List.replicate (remove.length + 1) d.colorRemove)⟩]
  else if 0 < add.length ∧ remove.length = 0 then
    [⟨"+" :: add, some (List.replicate (add.length + 1) d.colorAdd)⟩]
  else if hasDiffCell remove add then
    [⟨"-" :: remove, some (d.colorRemove :: diffColors d.colorRemove remove add)⟩,
      ⟨"+" :: add, some (d.colorAdd :: diffColors d.colorAdd remove add ++
        List.replicate (add.length - remove.length) [])⟩]
  else [⟨"" :: add, none⟩]

/-- The colours of a row after `k` turns of the loop of `AppendDiff`: the empty
sign cell, the colours of the first `k` columns, and empty cells up to `m`. -/
def loopColors (colors : List Colors) (k m : Nat) : List Colors :=
  [] :: colors.take k ++ List.replicate (m - k) []

theorem loopColors_succ {colors : List Colors} {k : Nat} (hk : k < colors.length) (m : Nat) :
    loopColors colors (k + 1) m =
      [] :: colors.take k ++ colors[k] :: List.replicate (m - (k + 1)) [] := by
  rw [loopColors, List.take_succ, List.getElem?_eq_getElem hk]
  simp only [Option.toList, List.cons_append, List.append_assoc, List.singleton_append,
    List.nil_append]

theorem loopColors_eq {colors : List Colors} {k m : Nat} (hm : k < m) :
    loopColors colors k m = [] :: colors.take k ++ [] :: List.replicate (m - (k + 1)) [] := by
  rw [loopColors, show m - k = m - (k + 1) + 1 by omega, List.replicate_succ]

theorem set_loopColors {colors : List Colors} {k m : Nat} (hk : k ≤ colors.length) (hm : k < m)
    (c : Colors) :
    (loopColors colors k m).set (k + 1) c =
      [] :: colors.take k ++ c :: List.replicate (m - (k + 1)) [] := by
  rw [loopColors_eq hm, List.cons_append, List.set_cons_succ,
    List.set_append_right _ _ (List.length_take_le _ _)]
  simp [Nat.min_eq_left hk]

theorem length_loopColors {colors : List Colors} {k m : Nat} (hk : k ≤ colors.length)
    (hm : k ≤ m) : (loopColors colors k m).length = m + 1 := by
  simp only [loopColors, List.length_cons, List.length_append, List.length_take,
    List.length_replicate]
  omega

namespace DiffPrinter

/-- The loop of `AppendDiff` over the first `k` columns, when both rows have
them: whether one of them differs, and the colours of the differing ones. -/
theorem foldlM_diffColumn (d : DiffPrinter) (remove add : List String) :
    ∀ k, k ≤ remove.length → k ≤ add.length →
    (List.range k).foldlM (d.diffColumn remove add)
      (false, List.replicate (add.length + 1) [], List.replicate (remove.length + 1) []) =
    .ok (((List.zipWith (fun a r => a != r) add remove).take k).any id,
      loopColors (diffColors d.colorAdd remove add) k add.length,
      loopColors (diffColors d.colorRemove remove add) k remove.length)
  | 0, _, _ => by simp [loopColors, List.replicate_succ]
  | k + 1, hr, ha => by
    have hkr : k < remove.length := hr
    have hka : k < add.length := ha
    have hz : k < (List.zipWith (fun a r => a != r) add remove).length := by
      simp only [List.length_zipWith]; omega
    have hc : ∀ c, k < (diffColors c remove add).length := fun c => by
      simp only [diffColors, List.length_zipWith]; omega
    rw [List.range_succ, List.foldlM_append, foldlM_diffColumn d remove add k hkr.le hka.le]
    simp only [List.foldlM_cons, List.foldlM_nil, Except.bind_ok, diffColumn, index_of_lt hkr,
      index_of_lt hka]
    rw [List.take_succ, List.getElem?_eq_getElem hz, loopColors_succ (hc _), loopColors_succ (hc _)]
    by_cases he : add[k] = remove[k]
    · -- the cells agree: the colours stay empty
      simp [he, diffColors, ← loopColors_eq hka, ← loopColors_eq hkr]
    · -- the cells differ: both get their colour
      rw [if_pos he,
        setIndex_of_lt (by rw [length_loopColors (hc _).le hka.le]; omega),
        setIndex_of_lt (by rw [length_loopColors (hc _).le hkr.le]; omega),
        set_loopColors (hc _).le hka, set_loopColors (hc _).le hkr]
      simp [he, diffColors]

/-- The loop of `AppendDiff` panics on the first column the added row lacks. -/
theorem foldlM_diffColumn_error (d : DiffPrinter) {remove add : List String}
    (h : add.length < remove.length) :
    (List.range remove.length).foldlM (d.diffColumn remove add)
      (false, List.replicate (add.length + 1) [], List.replicate (remove.length + 1) []) =
    .error ⟨"runtime error: index out of range [" ++ toString add.length ++ "] with length " ++
      toString add.length⟩ := by
  have hr : List.range remove.length = List.range add.length ++
      (List.range (remove.length - add.length - 1 + 1)).map (add.length + ·) := by
    rw [← List.range_add]; congr 1; omega
  rw [hr, List.foldlM_append, foldlM_diffColumn d remove add _ h.le le_rfl, List.range_succ_eq_map]
  simp [diffColumn, index]

theorem writeDiff_eq (d : DiffPrinter) (remove add : List String) :
    d.writeDiff remove add =
      if 0 < add.length ∧ add.length < remove.length then
        .error ⟨"runtime error: index out of range [" ++ toString add.length ++ "] with length " ++
          toString add.length⟩
      else .ok { d with rows := d.rows ++ diffRows d remove add } := by
  unfold writeDiff diffRows
  by_cases h1 : 0 < remove.length ∧ add.length = 0
  · simp [h1, writerRich, redRow, colorRow, prepend]
  by_cases h2 : 0 < add.length ∧ remove.length = 0
  · simp [h1, h2, writerRich, greenRow, colorRow, prepend]
  simp only [gt_iff_lt, h1, h2, if_false, prepend, List.length_cons]
  by_cases hp : add.length < remove.length
  · have : 0 < add.length := by omega
    simp [hp, this, foldlM_diffColumn_error]
  · have hz : ∀ {β : Type} (f : String → String → β),
        (List.zipWith f add remove).take remove.length = List.zipWith f add remove :=
      fun f => List.take_of_length_le (by simp only [List.length_zipWith]; omega)
    rw [foldlM_diffColumn d remove add remove.length le_rfl (by omega)]
    simp only [loopColors, hz, Except.bind_ok, Nat.sub_self, List.replicate_zero, List.append_nil]
    change (if !hasDiffCell remove add then _ else _) = _
    cases hasDiffCell remove add
    · simp [hp, writerAppend, prepend]
    · simp [hp, setIndex, writerRich, diffColors, hz]

/-- **What `AppendDiff` does.**  It panics, at the first column the added row
lacks, exactly when the added row is not empty and shorter than the removed one.
Otherwise it writes a buffer line after its first call, then `diffRows`, and
counts the call; the rest of the printer is unchanged. -/
theorem appendDiff_eq (d : DiffPrinter) (remove add : List String) :
    d.appendDiff remove add =
      if 0 < add.length ∧ add.length < remove.length then
        .error ⟨"runtime error: index out of range [" ++ toString add.length ++ "] with length " ++
          toString add.length⟩
      else .ok { d with
        rows := d.rows ++ (if 0 < d.appendCalls then [⟨[], none⟩] else []) ++ diffRows d remove add,
        appendCalls := d.appendCalls + 1 } := by
  have hb : diffRows d.appendBufferLine remove add = diffRows d remove add := rfl
  unfold appendDiff
  by_cases h0 : 0 < d.appendCalls <;>
    simp only [gt_iff_lt, h0, if_true, if_false, writeDiff_eq, hb, List.append_nil] <;>
    split <;> rfl

/-- **When `AppendDiff` panics.** -/
theorem appendDiff_eq_error_iff (d : DiffPrinter) (remove add : List String) (p : Panic) :
    d.appendDiff remove add = .error p ↔
      0 < add.length ∧ add.length < remove.length ∧
        p = ⟨"runtime error: index out of range [" ++ toString add.length ++ "] with length " ++
          toString add.length⟩ := by
  rw [appendDiff_eq]
  split_ifs with h
  · simp [h, eq_comm]
  · exact ⟨fun h' => (nomatch h'), fun hp => absurd ⟨hp.1, hp.2.1⟩ h⟩

example : (newDiffPrinter true).appendDiff ["a", "b"] ["a"] =
    .error ⟨"runtime error: index out of range [1] with length 1"⟩ := by
  rfl

/-- **A run of `AppendDiff` calls.**  When no call has an added row that is not
empty and shorter than its removed row, none panics: the calls write their rows,
count themselves, and leave the rest of the printer unchanged. -/
theorem foldlM_appendDiff (diffs : List (List String × List String))
    (h : ∀ x ∈ diffs, x.2 = [] ∨ x.1.length ≤ x.2.length) (d : DiffPrinter) :
    ∃ rows, diffs.foldlM (fun d x => d.appendDiff x.1 x.2) d =
      .ok { d with rows := rows, appendCalls := d.appendCalls + diffs.length } := by
  induction diffs generalizing d with
  | nil => exact ⟨d.rows, rfl⟩
  | cons x diffs ih =>
    have hx : ¬(0 < x.2.length ∧ x.2.length < x.1.length) := by
      rcases h x (List.mem_cons_self _ _) with h | h <;> simp [h]
    obtain ⟨rows, hr⟩ := ih (fun y hy => h y (List.mem_cons_of_mem _ hy)) _
    refine ⟨rows, ?_⟩
    rw [List.foldlM_cons, appendDiff_eq, if_neg hx, Except.bind_ok, hr]
    simp only [List.length_cons, Nat.add_assoc, Nat.add_comm 1]

/-- `setFooter` with at least two columns: `TOTAL` and the count in the last two. -/
theorem setFooter_of_one_lt (d : DiffPrinter) (h : 1 < d.headerLen) :
    d.setFooter = .ok { d with
      footer := List.replicate (d.headerLen - 2) "" ++ ["TOTAL", toString d.appendCalls],
      footerColors := List.replicate (d.headerLen - 2) [] ++ [d.colorFooter, d.colorFooter] } := by
  obtain ⟨n, hn⟩ : ∃ n, d.headerLen = n + 2 := ⟨d.headerLen - 2, by omega⟩
  simp [setFooter, hn, setIndex, List.replicate_add]

end DiffPrinter

/-! ### The tables of `printTemplateDiff` -/

/-- A resource of a kind in a `pkger.Diff`, as `printTemplateDiff` reads it: its
state status, ID and meta name, its old value (none for a new resource) and its
new value. -/
structure DiffEntry (S V : Type) where
  stateStatus : S
  id : UInt64
  metaName : String
  old : Option V
  new : V

/-- `pkger.DiffLabelMapping`: the fields `printTemplateDiff` reads. -/
structure DiffLabelMapping (S : Type) where
  stateStatus : S
  resType : String
  resMetaName : String
  resName : String
  resID : UInt64
  labelMetaName : String
  labelName : String
  labelID : UInt64

section Tables

variable {S V : Type} (isNew isRemoval : S → Bool)

/-- The rows of the `AppendDiff` call `printTemplateDiff` makes for a resource:
the new row of a new resource, the old row of a removed one, else both. -/
def entryDiff (appendValues : UInt64 → String → V → List String) (e : DiffEntry S V) :
    List String × List String :=
  let oldRow := match e.old with
    | some old => appendValues e.id e.metaName old
    | none => []
  let newRow := appendValues e.id e.metaName e.new
  if isNew e.stateStatus then ([], newRow)
  else if isRemoval e.stateStatus then (oldRow, [])
  else (oldRow, newRow)

/-- The rows of the `AppendDiff` call for a label mapping, whose one row stands
for both its values. -/
def mappingDiff (idString : UInt64 → String) (m : DiffLabelMapping S) :
    List String × List String :=
  let newRow := [m.resType, m.resMetaName, m.resName, idString m.resID, m.labelMetaName,
    m.labelName, idString m.labelID]
  if isNew m.stateStatus then ([], newRow)
  else if isRemoval m.stateStatus then (newRow, [])
  else (newRow, newRow)

/-- A table of `printTemplateDiff`: one `AppendDiff` call for each resource, in
order, then `Render`. -/
def printDiffTable (printer : DiffPrinter) (diffs : List (List String × List String)) :
    Except Panic (Option DiffPrinter) := do
  let printer ← diffs.foldlM (fun printer x => printer.appendDiff x.1 x.2) printer
  printer.render

/-- `diffPrinterGen`: a printer with the title, the common headers and `headers`. -/
def diffPrinterGen (hasColor : Bool) (title : String) (headers : List String) : DiffPrinter :=
  ((newDiffPrinter hasColor).setTitle title).setHeaders
    (["Metadata Name", "ID", "Resource Name"] ++ headers)

/-- The table `printTemplateDiff` prints for a kind of resource, with the headers
and the `appendValues` of the kind: none when the diff has no resource of it. -/
def printDiffSection (appendValues : UInt64 → String → V → List String) (hasColor : Bool)
    (title : String) (headers : List String) (entries : List (DiffEntry S V)) :
    Except Panic (Option DiffPrinter) :=
  if entries.length > 0 then
    printDiffTable (diffPrinterGen hasColor title headers)
      (entries.map (entryDiff isNew isRemoval appendValues))
  else .ok none

/-- The table of label associations `printTemplateDiff` prints last. -/
def printLabelMappings (idString : UInt64 → String) (hasColor : Bool)
    (mappings : List (DiffLabelMapping S)) : Except Panic (Option DiffPrinter) :=
  if mappings.length > 0 then
    printDiffTable (((newDiffPrinter hasColor).setTitle "Label Associations").setHeaders
      ["Resource Type", "Resource Meta Name", "Resource Name", "Resource ID",
        "Label Package Name", "Label Name", "Label ID"])
      (mappings.map (mappingDiff isNew isRemoval idString))
  else .ok none

/-- A table whose calls do not panic: its footer counts the calls. -/
theorem printDiffTable_footer (printer : DiffPrinter) (hl : 1 < printer.headerLen)
    (diffs : List (List String × List String)) (hd : diffs ≠ [])
    (h : ∀ x ∈ diffs, x.2 = [] ∨ x.1.length ≤ x.2.length) :
    ∃ p, printDiffTable printer diffs = .ok (some p) ∧ p.title = printer.title ∧
      p.header = printer.header ∧
      p.footer = List.replicate (printer.headerLen - 2) "" ++
        ["TOTAL", toString (printer.appendCalls + diffs.length)] := by
  obtain ⟨rows, hr⟩ := DiffPrinter.foldlM_appendDiff diffs h printer
  have hc : printer.appendCalls + diffs.length ≠ 0 := by
    have := List.length_pos.2 hd; omega
  simp only [printDiffTable, hr, Except.bind_ok, DiffPrinter.render, hc, if_false,
    DiffPrinter.setFooter_of_one_lt, hl]
  exact ⟨_, rfl, rfl, rfl, rfl⟩

/-- **The table of a kind of resource.**  When every row of the kind has the
same length, as each `appendValues` of `printTemplateDiff` builds it, printing a
kind with resources never panics: the table has the title, the sign column, the
common headers and the kind's, and its footer is `TOTAL` and the number of
resources. -/
theorem printDiffSection_footer (appendValues : UInt64 → String → V → List String) (n : Nat)
    (hn : ∀ id metaName v, (appendValues id metaName v).length = n)
    (hasColor : Bool) (title : String) (headers : List String) {entries : List (DiffEntry S V)}
    (he : entries ≠ []) :
    ∃ p, printDiffSection isNew isRemoval appendValues hasColor title headers entries =
        .ok (some p) ∧ p.title = title ∧
      p.header = ["+/-", "Metadata Name", "ID", "Resource Name"] ++ headers ∧
      p.footer = List.replicate (headers.length + 2) "" ++ ["TOTAL", toString entries.length] := by
  have hd : ∀ x ∈ entries.map (entryDiff isNew isRemoval appendValues),
      x.2 = [] ∨ x.1.length ≤ x.2.length := by
    simp only [List.mem_map]
    rintro _ ⟨e, -, rfl⟩
    unfold entryDiff
    split_ifs <;> cases e.old <;> simp [hn]
  obtain ⟨p, hp, ht, hh, hf⟩ := printDiffTable_footer (diffPrinterGen hasColor title headers)
    (by simp [diffPrinterGen, DiffPrinter.setHeaders, prepend]) _ (by simpa using he) hd
  refine ⟨p, by rw [printDiffSection, if_pos (List.length_pos.2 he), hp], ht, hh, ?_⟩
  rw [hf]
  simp [diffPrinterGen, DiffPrinter.setHeaders, DiffPrinter.setTitle, prepend, newDiffPrinter]

theorem printDiffSection_footer_labels :
    ∃ p, printDiffSection (fun _ : Unit => true) (fun _ => false)
        (fun _ metaName (v : String) => [metaName, v]) true "Labels" ["Color"]
        [⟨(), 1, "a", none, "x"⟩] = .ok (some p) ∧ p.title = "Labels" ∧
      p.header = ["+/-", "Metadata Name", "ID", "Resource Name"] ++ ["Color"] ∧
      p.footer = List.replicate 3 "" ++ ["TOTAL", "1"] :=
  printDiffSection_footer _ _ (fun _ metaName (v : String) => [metaName, v]) 2 (fun _ _ _ => rfl)
    true "Labels" ["Color"] (List.cons_ne_nil _ _)

/-- **The table of label associations.**  Printing the label mappings of a
diff, when it has any, never panics, and the footer counts them. -/
theorem printLabelMappings_footer (idString : UInt64 → String) (hasColor : Bool)
    {mappings : List (DiffLabelMapping S)} (hm : mappings ≠ []) :
    ∃ p, printLabelMappings isNew isRemoval idString hasColor mappings = .ok (some p) ∧
      p.title = "Label Associations" ∧
      p.footer = List.replicate 6 "" ++ ["TOTAL", toString mappings.length] := by
  have hd : ∀ x ∈ mappings.map (mappingDiff isNew isRemoval idString),
      x.2 = [] ∨ x.1.length ≤ x.2.length := by
    simp only [List.mem_map]
    rintro _ ⟨m, -, rfl⟩
    unfold mappingDiff
    split_ifs <;> simp
  obtain ⟨p, hp, ht, -, hf⟩ := printDiffTable_footer
    (((newDiffPrinter hasColor).setTitle "Label Associations").setHeaders
      ["Resource Type", "Resource Meta Name", "Resource Name", "Resource ID",
        "Label Package Name", "Label Name", "Label ID"])
    (by simp [DiffPrinter.setHeaders, prepend]) _ (by simpa using hm) hd
  refine ⟨p, by rw [printLabelMappings, if_pos (List.length_pos.2 hm), hp], ht, ?_⟩
  rw [hf]
  simp [DiffPrinter.setHeaders, DiffPrinter.setTitle, newDiffPrinter, prepend]

theorem printLabelMappings_footer_one :
    ∃ p, printLabelMappings (fun _ : Unit => false) (fun _ => false) toString false
        [⟨(), "Bucket", "bkt", "bucket", 1, "lbl", "label", 2⟩] = .ok (some p) ∧
      p.title = "Label Associations" ∧ p.footer = List.replicate 6 "" ++ ["TOTAL", "1"] :=
  printLabelMappings_footer _ _ toString false (List.cons_ne_nil _ _)

end Tables

end Cmd
end Influx
