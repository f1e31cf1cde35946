import Mathlib.Data.List.Basic

/-!
# Go's `path.Join` and `path.Ext`

`path.Join(elem...)` joins its non-empty arguments with slashes and cleans the
result with `path.Clean`, which works segment by segment: empty segments and
`.` go, `..` removes the segment before it (or stays, at the start of a
relative path), and a leading slash is kept.  An empty result is `.`, and a
`Join` of only empty strings is the empty string.

Cleaning is lossy, so `Join` is not injective: `Join("a/b", "c")` and
`Join("a", "b/c")` are both `a/b/c`.  It is injective on names that are
non-empty, are not `.` or `..`, and hold no slash; `join_injective` proves it
for three such names.

## Main definitions

* `clean`, `join` — `path.Clean` and `path.Join`, on character lists.
* `ext` — `path.Ext`.
* `ValidName` — the names on which `join` is injective.
-/

namespace Influx
namespace Go
namespace Path

/-- One segment through `Clean`'s loop; `stack` holds the kept segments, the
last one first. -/
def cleanStep (rooted : Bool) (stack : List (List Char)) (seg : List Char) : List (List Char) :=
  if seg = [] ∨ seg = ['.'] then stack
  else if seg = ['.', '.'] then
    match stack with
    | top :: rest => if top = ['.', '.'] then seg :: stack else rest
    | [] => if rooted then [] else [seg]
  else seg :: stack

/-- `path.Clean`. -/
def clean (path : List Char) : List Char :=
  if path = [] then ['.'] else
  let rooted := path.head? = some '/'
  let body := ['/'].intercalate ((path.splitOn '/').foldl (cleanStep rooted) []).reverse
  let out := if rooted then '/' :: body else body
  if out = [] then ['.'] else out

/-- `path.Join`. -/
def join (elem : List String) : String :=
  if elem.foldl (fun size e => size + e.length) 0 = 0 then "" else
  ⟨clean (['/'].intercalate ((elem.filter (· ≠ "")).map String.toList))⟩

/-- The loop of `path.Ext`, over the characters from the last: `acc` holds
those after the current one. -/
def extLoop : List Char → List Char → List Char
  | [], _ => []
  | c :: rest, acc => if c = '/' then [] else if c = '.' then '.' :: acc else extLoop rest (c :: acc)

/-- `path.Ext`, and `filepath.Ext` on Unix: the suffix of the last element from
its last `.`, or empty. -/
def ext (path : String) : String := ⟨extLoop path.data.reverse []⟩

/-- A segment `Clean` keeps as it is: non-empty, not `.` or `..`, no slash. -/
def ValidSegment (seg : List Char) : Prop :=
  seg ≠ [] ∧ seg ≠ ['.'] ∧ seg ≠ ['.', '.'] ∧ '/' ∉ seg

/-- A name `Join` keeps as one segment. -/
def ValidName (s : String) : Prop := ValidSegment s.toList

instance : DecidablePred ValidName := fun _ =>
  inferInstanceAs (Decidable (_ ∧ _ ∧ _ ∧ _))

/-! ### Joining valid names -/

/-- Valid segments pass through `Clean`'s loop untouched. -/
theorem foldl_cleanStep_valid (rooted : Bool) :
    ∀ (segs stack : List (List Char)), (∀ seg ∈ segs, ValidSegment seg) →
      segs.foldl (cleanStep rooted) stack = segs.reverse ++ stack
  | [], _, _ => rfl
  | seg :: segs, stack, h => by
    obtain ⟨h0, h1, h2, -⟩ := h seg (.head _)
    rw [List.foldl_cons, foldl_cleanStep_valid rooted segs _ fun s hs => h s (.tail _ hs)]
    simp [cleanStep, h0, h1, h2]

/-- A slash-joined list of valid segments is already clean. -/
theorem clean_intercalate_valid {segs : List (List Char)} (hne : segs ≠ [])
    (h : ∀ seg ∈ segs, ValidSegment seg) :
    clean (['/'].intercalate segs) = ['/'].intercalate segs := by
  obtain ⟨seg, segs', rfl⟩ := List.exists_cons_of_ne_nil hne
  obtain ⟨h0, -, -, hslash⟩ := h seg (.head _)
  obtain ⟨c, cs, rfl⟩ := List.exists_cons_of_ne_nil h0
  have hc : c ≠ '/' := fun hc => hslash (by simp [hc])
  have hhead : (['/'].intercalate ((c :: cs) :: segs')).head? = some c := by
    cases segs' <;> simp [List.intercalate]
  have hne' : ['/'].intercalate ((c :: cs) :: segs') ≠ [] := fun h' => by simp [h'] at hhead
  rw [clean, if_neg hne']
  simp only [List.splitOn_intercalate _ '/' (fun s hs => (h s hs).2.2.2) hne,
    foldl_cleanStep_valid _ _ _ h, List.append_nil, List.reverse_reverse, hhead,
    Option.some.injEq, hc, decide_False, if_false, if_neg hne']

/-- `Join` of three valid names is the three names with slashes between. -/
theorem join_valid {a b c : String} (ha : ValidName a) (hb : ValidName b) (hc : ValidName c) :
    join [a, b, c] = ⟨['/'].intercalate [a.toList, b.toList, c.toList]⟩ := by
  have hne : ∀ s : String, ValidName s → s ≠ "" := fun s hs h => hs.1 (by simp [h])
  have hlen : a.length ≠ 0 := by
    obtain ⟨l⟩ := a
    simpa [String.length] using ha.1
  rw [join, if_neg (by simp [hlen]), List.filter_eq_self.2 (by simp [hne _ ha, hne _ hb, hne _ hc])]
  simp only [List.map_cons, List.map_nil]
  rw [clean_intercalate_valid (by simp) (by simpa using ⟨ha, hb, hc⟩)]

/-- **`Join` is injective on valid names.** -/
theorem join_injective {a b c a' b' c' : String} (ha : ValidName a) (hb : ValidName b)
    (hc : ValidName c) (ha' : ValidName a') (hb' : ValidName b') (hc' : ValidName c')
    (h : join [a, b, c] = join [a', b', c']) : a = a' ∧ b = b' ∧ c = c' := by
  rw [join_valid ha hb hc, join_valid ha' hb' hc'] at h
  have hsplit := congrArg (List.splitOn '/') (String.ext_iff.1 h)
  rw [List.splitOn_intercalate _ '/' (by simpa using ⟨ha.2.2.2, hb.2.2.2, hc.2.2.2⟩) (by simp),
    List.splitOn_intercalate _ '/' (by simpa using ⟨ha'.2.2.2, hb'.2.2.2, hc'.2.2.2⟩) (by simp)]
    at hsplit
  simp only [List.cons.injEq, and_true] at hsplit
  exact ⟨String.ext hsplit.1, String.ext hsplit.2.1, String.ext hsplit.2.2⟩

end Path
end Go
end Influx
