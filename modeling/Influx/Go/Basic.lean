import Mathlib.Data.List.Basic

/-!
# Go: the runtime and the standard library

What the modelled functions use of Go beyond their own packages.  A `(value,
error)` result is an `Except`; a runtime panic, which the code never recovers
from, is `Panic`, the outer error of a function that can panic.  Strings are
Lean strings: Go's are byte strings, and the functions here are those whose
meaning on valid UTF-8 is the same character by character.

## Main definitions

* `index`, `setIndex` — `s[i]` and `s[i] = a` on a slice, with their panic.
* `genSplit`, `splitN` — `strings.SplitN` for a one-character separator.
* `toLower`, `trimSpace` — `strings.ToLower` and `strings.TrimSpace`, given
  `unicode.ToLower` and `unicode.IsSpace`.
* `hasPrefix`, `split` — `strings.HasPrefix`, and `strings.Split` for a
  one-character separator.
* `quote` — `strconv.Quote`, the `%q` of a string.
* `bytes` — the bytes of a string, as Go stores them.
-/

namespace Except

variable {ε ε' α β : Type}

@[simp] theorem pure_eq_ok (a : α) : (pure a : Except ε α) = .ok a := rfl

@[simp] theorem bind_ok (a : α) (f : α → Except ε β) : (Except.ok a >>= f) = f a := rfl

@[simp] theorem bind_error (e : ε) (f : α → Except ε β) : (Except.error e >>= f) = .error e :=
  rfl

@[simp] theorem mapError_ok (g : ε → ε') (a : α) :
    (Except.ok a : Except ε α).mapError g = .ok a := rfl

@[simp] theorem mapError_error (g : ε → ε') (e : ε) :
    (Except.error e : Except ε α).mapError g = .error (g e) := rfl

end Except

namespace Influx
namespace Go

/-- A Go runtime panic, with its message. -/
structure Panic where
  message : String
  deriving DecidableEq, Repr

/-- Go's `s[i]` on a slice: the element, or the panic of an index out of range. -/
def index {α : Type} (s : List α) (i : Nat) : Except Panic α :=
  match s.get? i with
  | some a => .ok a
  | none =>
    .error ⟨"runtime error: index out of range [" ++ toString i ++ "] with length " ++
      toString s.length⟩

/-- Go's `s[i] = a` on a slice: the slice with element `i` replaced, or the panic
of an index out of range. -/
def setIndex {α : Type} (s : List α) (i : Nat) (a : α) : Except Panic (List α) :=
  if i < s.length then .ok (s.set i a)
  else .error ⟨"runtime error: index out of range [" ++ toString i ++ "] with length " ++
    toString s.length⟩

theorem index_of_lt {α : Type} {s : List α} {i : Nat} (h : i < s.length) :
    index s i = .ok s[i] := by
  simp [index, h]

theorem setIndex_of_lt {α : Type} {s : List α} {i : Nat} (h : i < s.length) (a : α) :
    setIndex s i a = .ok (s.set i a) :=
  if_pos h

/-- `genSplit` of `strings`, for a one-character separator: at most `n` pieces,
the last one the rest of the string unsplit. -/
def genSplit (sep : Char) : List Char → Nat → List (List Char)
  | _, 0 => []
  | s, 1 => [s]
  | s, n + 2 =>
    match s.span (· != sep) with
    | (before, []) => [before]
    | (before, _ :: after) => before :: genSplit sep after (n + 1)

/-- `strings.SplitN(s, sep, n)`. -/
def splitN (s : String) (sep : Char) (n : Nat) : List String :=
  (genSplit sep s.data n).map String.mk

theorem bne_of_not_mem {sep : Char} {s : List Char} (h : sep ∉ s) : ∀ c ∈ s, (c != sep) = true :=
  fun _ hc => bne_iff_ne.2 fun he => h (he ▸ hc)

theorem genSplit_two_of_not_mem {sep : Char} {s : List Char} (h : sep ∉ s) :
    genSplit sep s 2 = [s] := by
  simp only [genSplit, List.span_eq_take_drop, List.takeWhile_eq_self_iff.2 (bne_of_not_mem h),
    List.dropWhile_eq_nil_iff.2 (bne_of_not_mem h)]

theorem genSplit_two_append {sep : Char} {b : List Char} (a : List Char) (h : sep ∉ b) :
    genSplit sep (b ++ sep :: a) 2 = [b, a] := by
  simp only [genSplit, List.span_eq_take_drop, List.takeWhile_append_of_pos (bne_of_not_mem h),
    List.dropWhile_append_of_pos (bne_of_not_mem h)]
  simp

theorem splitN_two_of_not_mem {s : String} {sep : Char} (h : sep ∉ s.data) :
    splitN s sep 2 = [s] := by
  simp [splitN, genSplit_two_of_not_mem h]

/-- Split at the first separator; `sepS` is the separator as a string. -/
theorem splitN_two_append {b sepS : String} (a : String) {sep : Char} (hs : sepS.data = [sep])
    (h : sep ∉ b.data) : splitN (b ++ sepS ++ a) sep 2 = [b, a] := by
  simp [splitN, hs, genSplit_two_append _ h]

/-- A string either lacks the separator or splits at its first one. -/
theorem not_mem_or_split (sepS : String) {sep : Char} (hs : sepS.data = [sep]) (s : String) :
    sep ∉ s.data ∨ ∃ b a : String, s = b ++ sepS ++ a ∧ sep ∉ b.data := by
  obtain ⟨l⟩ := s
  induction l with
  | nil => exact .inl (List.not_mem_nil sep)
  | cons c l ih =>
    by_cases hc : c = sep
    · exact .inr ⟨"", ⟨l⟩, String.ext (by simp [hs, hc]), List.not_mem_nil sep⟩
    rcases ih with h | ⟨⟨b⟩, a, he, hb⟩
    · exact .inl (by simp [h, Ne.symm hc])
    · refine .inr ⟨⟨c :: b⟩, a, String.ext ?_, by simp [hb, Ne.symm hc]⟩
      simpa using congrArg String.data he

/-- One character as `strconv.Quote` writes it.  Characters outside ASCII are
kept as they are. -/
def quoteChar (c : Char) : String :=
  if c = '"' then "\\\"" else if c = '\\' then "\\\\" else
  match c.toNat with
  | 7 => "\\a"
  | 8 => "\\b"
  | 9 => "\\t"
  | 10 => "\\n"
  | 11 => "\\v"
  | 12 => "\\f"
  | 13 => "\\r"
  | n =>
    if n < 32 ∨ n = 127 then
      "\\x" ++ String.mk (Nat.toDigits 16 (n / 16)) ++ String.mk (Nat.toDigits 16 (n % 16))
    else c.toString

/-- `%q` of a string: `strconv.Quote`. -/
def quote (s : String) : String := "\"" ++ String.join (s.data.map quoteChar) ++ "\""

/-- `strings.ToLower`: `unicode.ToLower`, here `lower`, rune by rune. -/
def toLower (lower : Char → Char) (s : String) : String := ⟨s.data.map lower⟩

/-- `strings.TrimSpace`: the runes `unicode.IsSpace`, here `isSpace`, holds of
trimmed from both ends. -/
def trimSpace (isSpace : Char → Bool) (s : String) : String :=
  ⟨((s.data.dropWhile isSpace).reverse.dropWhile isSpace).reverse⟩

/-- `strings.HasPrefix`. -/
def hasPrefix (s pre : String) : Bool := pre.data.isPrefixOf s.data

/-- `strings.Split` for a one-character separator: every piece. -/
def split (s : String) (sep : Char) : List String := (s.data.splitOn sep).map String.mk

/-! ### Strings as bytes -/

/-- The bytes of a string: its UTF-8 encoding, as `String.toUTF8` has it and as
a Go string holding the same text stores it. -/
def bytes (s : String) : List UInt8 := s.data.flatMap String.utf8EncodeChar

/-- A character is one byte in UTF-8 exactly when it is ASCII. -/
theorem utf8Size_eq_one {c : Char} : c.utf8Size = 1 ↔ c.val ≤ 0x7f := by
  unfold Char.utf8Size
  dsimp only
  split_ifs <;> simp_all

/-- A string of one byte is one ASCII character, and the byte is its code: no
string is the single byte `0x80` or above. -/
theorem bytes_eq_singleton {s : String} {b : UInt8} (h : bytes s = [b]) :
    ∃ c : Char, s = ⟨[c]⟩ ∧ c.val.toNat ≤ 0x7f ∧ b.toNat = c.val.toNat := by
  obtain ⟨_ | ⟨c, _ | ⟨d, ds⟩⟩⟩ := s
  · cases h
  · have hv : c.val ≤ 0x7f := utf8Size_eq_one.1 (by simpa [bytes] using congrArg List.length h)
    have hn : c.val.toNat ≤ 0x7f := UInt32.toNat_le_of_le (by decide) hv
    simp only [bytes, List.flatMap_cons, List.flatMap_nil, List.append_nil, String.utf8EncodeChar,
      if_pos hv, List.cons.injEq, and_true] at h
    refine ⟨c, rfl, hn, ?_⟩
    rw [← h, UInt32.toUInt8, Nat.toUInt8, UInt8.toNat_ofNat_of_lt (hn.trans_lt (by decide))]
  · have hl := congrArg List.length h
    simp only [bytes, List.flatMap_cons, List.length_append, String.length_utf8EncodeChar,
      List.length_singleton] at hl
    have := c.utf8Size_pos; have := d.utf8Size_pos; omega

end Go
end Influx
