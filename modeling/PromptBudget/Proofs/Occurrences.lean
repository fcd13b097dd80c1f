import PromptBudget.Text.Find

/-!
# PromptBudget — what a search in a text finds

A search goes through a text from its start and stops in front of the first place where the needle
is. What it finds is said here without going through the text: the text is split in front of a
needle, and no shorter front part leaves one. There is only one such split, so a search that is
sound finds it.

Main results:

* `Text.breakOn?_eq_some_iff` — a search finds a split exactly if it is the first.
* `Text.breakOn?_eq_none_iff` — it finds nothing exactly if the needle is not in the text.
* `Text.FirstOccurrence.unique` — the first split is the only one.
-/

namespace PromptBudget.Text

/-- A text is split in front of the first place where the needle is. -/
structure FirstOccurrence (needle text front back : List Char) : Prop where
  append : text = front ++ back
  starts : needle <+: back
  first : ∀ front' back', text = front' ++ back' → needle <+: back' →
    front.length ≤ front'.length

/-- What is in front of the first needle, or all of a text without a needle. -/
def UpTo (needle text front : List Char) : Prop :=
  (∃ back, FirstOccurrence needle text front back) ∨ ¬ needle <:+: text ∧ front = text

variable {needle text front back : List Char}

theorem FirstOccurrence.isInfix (h : FirstOccurrence needle text front back) :
    needle <:+: text := by
  rw [h.append]
  exact h.starts.isInfix.trans (List.suffix_append front back).isInfix

theorem FirstOccurrence.unique {front' back' : List Char}
    (h : FirstOccurrence needle text front back)
    (h' : FirstOccurrence needle text front' back') : front' = front ∧ back' = back := by
  have hle := h.first front' back' h'.append h'.starts
  have hge := h'.first front back h.append h.starts
  have hlength : front'.length = front.length := Nat.le_antisymm hge hle
  exact List.append_inj (h'.append.symm.trans h.append) hlength

/-- What is added behind a text leaves its first needle where it is. -/
theorem FirstOccurrence.append_right (h : FirstOccurrence needle text front back)
    (more : List Char) : FirstOccurrence needle (text ++ more) front (back ++ more) := by
  refine ⟨by rw [h.append, List.append_assoc], h.starts.trans (List.prefix_append _ _), ?_⟩
  intro front' back' hsplit hstarts
  refine Nat.le_of_not_lt fun hlt => ?_
  have hlength : front'.length + needle.length ≤ text.length := by
    have hneedle := h.starts.length_le
    rw [h.append, List.length_append]
    omega
  -- an earlier needle would end in the text, too
  obtain ⟨middle, rfl⟩ : front' <+: text :=
    List.prefix_of_prefix_length_le ⟨back', hsplit.symm⟩ (List.prefix_append text more) (by omega)
  rw [List.append_assoc, List.append_cancel_left_eq] at hsplit
  rw [← hsplit] at hstarts
  rw [List.length_append] at hlength
  have hmiddle : needle <+: middle :=
    List.prefix_of_prefix_length_le hstarts (List.prefix_append middle more) (by omega)
  exact Nat.not_le_of_lt hlt (h.first front' middle rfl hmiddle)

theorem firstOccurrence_of_breakOn? (h : breakOn? needle text = some (front, back)) :
    FirstOccurrence needle text front back := by
  obtain ⟨happend, hstarts⟩ := append_of_breakOn? h
  refine ⟨happend, hstarts, ?_⟩
  clear happend hstarts
  induction text generalizing front back with
  | nil =>
    intro front' back' hsplit hprefix
    rw [breakOn?] at h
    split at h
    · obtain ⟨rfl, rfl⟩ := Prod.mk.inj (Option.some.inj h)
      exact Nat.zero_le _
    · cases h
  | cons c rest ih =>
    intro front' back' hsplit hprefix
    rw [breakOn?] at h
    split at h
    · obtain ⟨rfl, rfl⟩ := Prod.mk.inj (Option.some.inj h)
      exact Nat.zero_le _
    · next hnot =>
      obtain ⟨⟨f, b⟩, hrest, hpair⟩ := Option.map_eq_some_iff.1 h
      obtain ⟨rfl, rfl⟩ := Prod.mk.inj hpair
      cases front' with
      | nil =>
        -- the needle is not at the start, where the search has looked
        rw [List.nil_append] at hsplit
        rw [← hsplit] at hprefix
        exact absurd (List.isPrefixOf_iff_prefix.2 hprefix) hnot
      | cons c' front' =>
        have hbehind := ih hrest front' back' (List.cons.inj hsplit).2 hprefix
        simp only [List.length_cons]
        omega

theorem not_isInfix_of_breakOn? (h : breakOn? needle text = none) : ¬ needle <:+: text := by
  induction text with
  | nil =>
    rw [breakOn?] at h
    split at h
    · cases h
    · next hne =>
      rw [List.infix_nil]
      intro hnil
      exact hne (List.isEmpty_iff.2 hnil)
  | cons c rest ih =>
    rw [breakOn?] at h
    split at h
    · cases h
    · next hnot =>
      rw [List.infix_cons_iff]
      rintro (hhere | hlater)
      · exact hnot (List.isPrefixOf_iff_prefix.2 hhere)
      · exact ih (Option.map_eq_none_iff.1 h) hlater

theorem breakOn?_eq_some_iff :
    breakOn? needle text = some (front, back) ↔ FirstOccurrence needle text front back := by
  constructor
  · exact firstOccurrence_of_breakOn?
  · intro h
    cases hfound : breakOn? needle text with
    | none => exact absurd h.isInfix (not_isInfix_of_breakOn? hfound)
    | some found =>
      obtain ⟨hfront, hback⟩ := h.unique (firstOccurrence_of_breakOn? hfound)
      rw [← hfront, ← hback]

theorem breakOn?_eq_none_iff : breakOn? needle text = none ↔ ¬ needle <:+: text := by
  constructor
  · exact not_isInfix_of_breakOn?
  · intro h
    cases hfound : breakOn? needle text with
    | none => rfl
    | some found => exact absurd (firstOccurrence_of_breakOn? hfound).isInfix h

/-- A needle that is in a text has a first place there. -/
theorem exists_firstOccurrence (h : needle <:+: text) :
    ∃ front back, FirstOccurrence needle text front back := by
  cases hfound : breakOn? needle text with
  | none => exact absurd h (breakOn?_eq_none_iff.1 hfound)
  | some found => exact ⟨_, _, breakOn?_eq_some_iff.1 hfound⟩

theorem contains_iff : contains needle text = true ↔ needle <:+: text := by
  rw [contains, Option.isSome_iff_ne_none, ne_eq, breakOn?_eq_none_iff, Decidable.not_not]

theorem upTo_iff : UpTo needle text front ↔
    front = ((breakOn? needle text).map (·.1)).getD text := by
  constructor
  · rintro (⟨back, hfirst⟩ | ⟨hnot, rfl⟩)
    · rw [breakOn?_eq_some_iff.2 hfirst, Option.map_some, Option.getD_some]
    · rw [breakOn?_eq_none_iff.2 hnot, Option.map_none, Option.getD_none]
  · rintro rfl
    cases hfound : breakOn? needle text with
    | none => exact Or.inr ⟨breakOn?_eq_none_iff.1 hfound, rfl⟩
    | some found => exact Or.inl ⟨found.2, breakOn?_eq_some_iff.1 hfound⟩

end PromptBudget.Text
