/-!
White space is the Unicode property `White_Space`, and trimming removes it at both ends of a text.
Identities of types, layouts and factories are compared after trimming, so the facts kept here are
that a trimmed text has no white space at either end and that trimming it again changes nothing.
-/

set_option autoImplicit false
set_option relaxedAutoImplicit false

namespace Exemplar.Text

/-- The code points with the property `White_Space`, as closed intervals in ascending order. -/
def whiteSpaceRanges : List (Nat × Nat) :=
  [(0x09, 0x0d), (0x20, 0x20), (0x85, 0x85), (0xa0, 0xa0), (0x1680, 0x1680), (0x2000, 0x200a),
    (0x2028, 0x2029), (0x202f, 0x202f), (0x205f, 0x205f), (0x3000, 0x3000)]

/-- Whether a character is white space. -/
def isSpace (c : Char) : Bool :=
  whiteSpaceRanges.any fun range ↦ range.1 ≤ c.toNat && c.toNat ≤ range.2

/-- A text without white space at either end. -/
def Trimmed (text : List Char) : Prop :=
  (∀ c ∈ text.head?, isSpace c = false) ∧ ∀ c ∈ text.getLast?, isSpace c = false

/-- The text without the white space at its beginning. -/
def trimStart (text : List Char) : List Char :=
  text.dropWhile isSpace

/-- The text without the white space at its end. -/
def trimEnd (text : List Char) : List Char :=
  (text.reverse.dropWhile isSpace).reverse

/-- The text without the white space at its ends. -/
def trimChars (text : List Char) : List Char :=
  trimEnd (trimStart text)

/-- The text without the white space at its ends. -/
def trim (text : String) : String :=
  String.ofList (trimChars text.toList)

theorem isSpace_eq_false_of_mem_head?_trimStart {text : List Char} {c : Char}
    (hc : c ∈ (trimStart text).head?) : isSpace c = false := by
  unfold trimStart at hc
  have hnone := List.head?_dropWhile_not isSpace text
  rw [Option.mem_def.1 hc] at hnone
  simpa using hnone

theorem isSpace_eq_false_of_mem_getLast?_trimEnd {text : List Char} {c : Char}
    (hc : c ∈ (trimEnd text).getLast?) : isSpace c = false := by
  rw [trimEnd, List.getLast?_reverse] at hc
  exact isSpace_eq_false_of_mem_head?_trimStart hc

theorem trimEnd_prefix (text : List Char) : trimEnd text <+: text := by
  have hsuffix : text.reverse.dropWhile isSpace <:+ text.reverse := List.dropWhile_suffix isSpace
  simpa [trimEnd] using List.reverse_prefix.2 hsuffix

/-- Trimming leaves no white space at either end. -/
theorem trimmed_trimChars (text : List Char) : Trimmed (trimChars text) := by
  refine ⟨fun c hc ↦ ?_, fun c hc ↦ isSpace_eq_false_of_mem_getLast?_trimEnd hc⟩
  obtain ⟨rest, hrest⟩ := trimEnd_prefix (trimStart text)
  have hstart : c ∈ (trimStart text).head? → isSpace c = false :=
    isSpace_eq_false_of_mem_head?_trimStart
  apply hstart
  rw [← hrest]
  rw [trimChars] at hc
  cases htrim : trimEnd (trimStart text) with
  | nil => simp [htrim] at hc
  | cons d ds => simpa [htrim] using hc

/-- A text without white space at its ends is its own trimming. -/
theorem trimChars_eq_self {text : List Char} (htext : Trimmed text) : trimChars text = text := by
  have hstart : trimStart text = text := by
    cases text with
    | nil => rfl
    | cons c cs => simp [trimStart, htext.1 c (by simp)]
  have hend : trimEnd text = text := by
    rw [trimEnd, List.reverse_eq_iff]
    cases hreverse : text.reverse with
    | nil => rfl
    | cons c cs =>
      have hlast : text.getLast? = some c := by
        rw [← List.head?_reverse, hreverse]
        rfl
      simp [htext.2 c hlast]
  rw [trimChars, hstart, hend]

@[simp]
theorem toList_trim (text : String) : (trim text).toList = trimChars text.toList :=
  String.toList_ofList

/-- A text that has no white space at its ends is its own trimming. -/
theorem trim_eq_self {text : String} (htext : Trimmed text.toList) : trim text = text := by
  rw [trim, trimChars_eq_self htext, String.ofList_toList]

/-- Trimming twice is trimming once. -/
@[simp]
theorem trim_trim (text : String) : trim (trim text) = trim text :=
  trim_eq_self (by rw [toList_trim]; exact trimmed_trimChars text.toList)

end Exemplar.Text
