/-!
# PromptBudget — blank characters

A character is blank when it has the Unicode property White_Space. Trimming takes blanks off both
ends of a text.

Main statements:

* `isBlank_of_isWhitespace` — the blanks of ASCII are among them.
* `trimmed_of_isBlankText` — of a blank text nothing is left.
* `trimEnd_trimEnd` — trimming an end a second time changes nothing.
-/

namespace PromptBudget.Text

/-- The property White_Space of Unicode. -/
def isBlank (c : Char) : Bool :=
  let n := c.toNat
  (9 ≤ n && n ≤ 13) || n == 0x20 || n == 0x85 || n == 0xA0 || n == 0x1680 ||
    (0x2000 ≤ n && n ≤ 0x200A) || n == 0x2028 || n == 0x2029 || n == 0x202F || n == 0x205F || n == 0x3000

/-- A text without the blanks at its end. -/
def trimEnd (text : List Char) : List Char :=
  (text.reverse.dropWhile isBlank).reverse

/-- A text without the blanks at its two ends. -/
def trim (text : List Char) : List Char :=
  trimEnd (text.dropWhile isBlank)

/-- A text without the blanks at its two ends. -/
def trimmed (text : String) : String :=
  String.ofList (trim text.toList)

/-- Whether a text holds nothing but blanks. -/
def isBlankText (text : String) : Bool :=
  text.toList.all isBlank

/-! ## Trimming -/

theorem isBlank_of_isWhitespace (c : Char) (h : c.isWhitespace = true) : isBlank c = true := by
  simp only [Char.isWhitespace, Bool.or_eq_true, decide_eq_true_eq] at h
  rcases h with ((rfl | rfl) | rfl) | rfl <;> decide

theorem dropWhile_dropWhile (p : Char → Bool) (text : List Char) :
    (text.dropWhile p).dropWhile p = text.dropWhile p := by
  induction text with
  | nil => rfl
  | cons c rest ih =>
    cases h : p c with
    | true => simp [h, ih]
    | false => simp [h]

theorem dropWhile_of_all {p : Char → Bool} {text : List Char} (h : text.all p = true) : text.dropWhile p = [] := by
  induction text with
  | nil => rfl
  | cons c rest ih =>
    simp only [List.all_cons, Bool.and_eq_true] at h
    simp [h.1, ih h.2]

theorem trimmed_of_isBlankText {text : String} (h : isBlankText text = true) : trimmed text = "" := by
  simp [trimmed, trim, trimEnd, dropWhile_of_all h]

theorem trimEnd_trimEnd (text : List Char) : trimEnd (trimEnd text) = trimEnd text := by
  simp [trimEnd, dropWhile_dropWhile]

end PromptBudget.Text
