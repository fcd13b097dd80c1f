/-!
# PromptBudget — the first occurrence of a text in a text

`breakOn? needle text` splits `text` in front of the first occurrence of `needle`.

Main statement:

* `append_of_breakOn?` — the two parts are the text, and the second starts with the needle.
-/

namespace PromptBudget.Text

/-- Splits a text in front of the first occurrence of the needle. -/
def breakOn? (needle : List Char) : List Char → Option (List Char × List Char)
  | [] => if needle.isEmpty then some ([], []) else none
  | c :: rest =>
    if needle.isPrefixOf (c :: rest) then some ([], c :: rest)
    else (breakOn? needle rest).map fun (front, back) => (c :: front, back)

/-- Whether a text contains the needle. -/
def contains (needle text : List Char) : Bool :=
  (breakOn? needle text).isSome

theorem append_of_breakOn? {needle text front back : List Char}
    (h : breakOn? needle text = some (front, back)) : text = front ++ back ∧ needle <+: back := by
  induction text generalizing front back with
  | nil =>
    simp only [breakOn?] at h
    split at h
    · next hempty =>
      obtain ⟨rfl, rfl⟩ := Prod.mk.inj (Option.some.inj h)
      simp [List.isEmpty_iff.1 hempty]
    · simp at h
  | cons c rest ih =>
    simp only [breakOn?] at h
    split at h
    · next hstarts =>
      obtain ⟨rfl, rfl⟩ := Prod.mk.inj (Option.some.inj h)
      exact ⟨rfl, List.isPrefixOf_iff_prefix.1 hstarts⟩
    · obtain ⟨⟨f, b⟩, hrest, hpair⟩ := Option.map_eq_some_iff.1 h
      obtain ⟨rfl, rfl⟩ := Prod.mk.inj hpair
      obtain ⟨rfl, hneedle⟩ := ih hrest
      exact ⟨rfl, hneedle⟩

/-- A text without its leading copies of a character. -/
def dropLeading (c : Char) (text : List Char) : List Char :=
  text.dropWhile (· == c)

/-- A text without its trailing copies of a character. -/
def dropTrailing (c : Char) (text : List Char) : List Char :=
  (text.reverse.dropWhile (· == c)).reverse

end PromptBudget.Text
