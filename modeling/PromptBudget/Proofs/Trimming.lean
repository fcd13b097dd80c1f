import Mathlib.Data.List.DropRight
import PromptBudget.Text.Blank

/-!
# PromptBudget — what is left of a trimmed text

Trimming goes through a text from both ends. What it leaves is said here without going through the
text: a part of it with nothing but blanks around, that neither starts nor ends with a blank. There
is only one such part.

Main results:

* `Text.trimsTo_iff` — what trimming leaves is this part.
* `Text.trimsTo_empty_iff` — nothing is left exactly of a blank text.
-/

namespace PromptBudget.Text

variable {text core : String}

/-- A text has a part with nothing but blanks around it, that neither starts nor ends with one. -/
structure TrimsTo (text core : String) : Prop where
  around : ∃ front back, text.toList = front ++ (core.toList ++ back) ∧
    (∀ c ∈ front, isBlank c = true) ∧ ∀ c ∈ back, isBlank c = true
  first : ∀ c ∈ core.toList.head?, isBlank c = false
  last : ∀ c ∈ core.toList.getLast?, isBlank c = false

theorem dropWhile_append_of_all {p : Char → Bool} {front rest : List Char}
    (hfront : ∀ c ∈ front, p c = true) (hrest : ∀ c ∈ rest.head?, p c = false) :
    (front ++ rest).dropWhile p = rest := by
  rw [List.dropWhile_append_of_pos hfront]
  cases rest with
  | nil => rfl
  | cons c rest => exact List.dropWhile_cons_of_neg (by simp [hrest c rfl])

theorem trim_append {front middle back : List Char} (hfront : ∀ c ∈ front, isBlank c = true)
    (hback : ∀ c ∈ back, isBlank c = true) (hfirst : ∀ c ∈ middle.head?, isBlank c = false)
    (hlast : ∀ c ∈ middle.getLast?, isBlank c = false) :
    trim (front ++ (middle ++ back)) = middle := by
  by_cases hnone : middle = []
  · -- without a part in between, all of it is blank
    subst hnone
    have hall : (front ++ ([] ++ back)).dropWhile isBlank = [] := by
      refine List.dropWhile_eq_nil_iff.2 fun c hc => ?_
      rw [List.nil_append, List.mem_append] at hc
      exact hc.elim (hfront c) (hback c)
    rw [trim, hall]
    rfl
  · have hstart : (front ++ (middle ++ back)).dropWhile isBlank = middle ++ back := by
      refine dropWhile_append_of_all hfront fun c hc => hfirst c ?_
      rwa [List.head?_append_of_ne_nil _ hnone] at hc
    have hstop : (back.reverse ++ middle.reverse).dropWhile isBlank = middle.reverse := by
      refine dropWhile_append_of_all (fun c hc => hback c (List.mem_reverse.1 hc)) fun c hc => ?_
      rw [List.head?_reverse] at hc
      exact hlast c hc
    rw [trim, hstart, trimEnd, List.reverse_append, hstop, List.reverse_reverse]

theorem isBlank_of_head?_dropWhile {rest : List Char} {c : Char}
    (h : c ∈ (rest.dropWhile isBlank).head?) : isBlank c = false := by
  have hhead := List.head?_dropWhile_not isBlank rest
  rwa [Option.mem_def.1 h] at hhead

theorem trimsTo_trimmed (text : String) : TrimsTo text (trimmed text) := by
  have hcore : (trimmed text).toList = (text.toList.dropWhile isBlank).rdropWhile isBlank := by
    rw [trimmed, String.toList_ofList]
    rfl
  refine ⟨⟨text.toList.takeWhile isBlank, (text.toList.dropWhile isBlank).rtakeWhile isBlank,
    ?_, fun c => List.mem_takeWhile_imp, fun c => List.mem_rtakeWhile_imp⟩, ?_, ?_⟩
  · rw [hcore, List.rdropWhile_append_rtakeWhile, List.takeWhile_append_dropWhile]
  · -- cutting at the end leaves the first character, unless it leaves none
    intro c hc
    rw [hcore] at hc
    obtain ⟨rest, hrest⟩ := List.rdropWhile_prefix isBlank (text.toList.dropWhile isBlank)
    have hkept : c ∈ (text.toList.dropWhile isBlank).head? := by
      rw [← hrest, List.head?_append, Option.mem_def.1 hc]
      rfl
    exact isBlank_of_head?_dropWhile hkept
  · intro c hc
    rw [hcore, List.rdropWhile, List.getLast?_reverse] at hc
    exact isBlank_of_head?_dropWhile hc

/-- What trimming leaves of a text is the part without blanks at its ends, and there is no other. -/
theorem trimsTo_iff : TrimsTo text core ↔ core = trimmed text := by
  constructor
  · intro h
    obtain ⟨front, back, htext, hfront, hback⟩ := h.around
    rw [trimmed, htext, trim_append hfront hback h.first h.last, String.ofList_toList]
  · rintro rfl
    exact trimsTo_trimmed text

theorem trimsTo_empty_iff : TrimsTo text "" ↔ ∀ c ∈ text.toList, isBlank c = true := by
  constructor
  · intro h c hc
    obtain ⟨front, back, htext, hfront, hback⟩ := h.around
    rw [htext, String.toList_empty, List.nil_append, List.mem_append] at hc
    exact hc.elim (hfront c) (hback c)
  · exact fun h => ⟨⟨text.toList, [], by simp, h, nofun⟩, nofun, nofun⟩

end PromptBudget.Text
