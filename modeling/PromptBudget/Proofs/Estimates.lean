import Mathlib.Algebra.Order.BigOperators.Group.List
import Mathlib.Algebra.Order.Floor.Div
import Mathlib.GroupTheory.GroupAction.Ring
import PromptBudget.Proofs.Budget

/-!
# PromptBudget — bytes and characters in estimates

A token is taken to be four bytes, where a text might as well be measured in characters. Every role
has as many bytes as characters, and a text has at least as many, so measured in characters an
estimate is never greater. It is the same exactly if in every message the characters of the text
that take more than one byte do not fill one more group of four. In plain English they do not; three
accented letters do.

Main results:

* `Tokens.countMessages_eq_estimate` — an estimate is the estimate in bytes.
* `Tokens.countMessages_characters_iff` — when it is the estimate in characters.
-/

namespace PromptBudget

-- ---------------------------------------------------------------------------
-- Two measures of a text
-- ---------------------------------------------------------------------------

namespace Text

theorem byteLength_toList (text : String) : byteLength text.toList = text.utf8ByteSize := by
  have hchars (chars : List Char) : byteLength chars = (String.ofList chars).utf8ByteSize := by
    induction chars with
    | nil => rfl
    | cons c rest ih =>
      rw [String.ofList_cons, String.utf8ByteSize_append, String.utf8ByteSize_singleton,
        byteLength_cons, ih]
  rw [hchars, String.ofList_toList]

theorem length_le_utf8ByteSize (text : String) : text.length ≤ text.utf8ByteSize := by
  rw [← byteLength_toList, ← String.length_toList]
  induction text.toList with
  | nil => exact Nat.le_refl 0
  | cons c rest ih =>
    have hc := c.utf8Size_pos
    rw [List.length_cons, byteLength_cons]
    omega

end Text

theorem Role.length_name (role : Role) : role.name.length = role.name.utf8ByteSize := by
  cases role <;> decide

-- ---------------------------------------------------------------------------
-- Estimates by a measure
-- ---------------------------------------------------------------------------

/-- Sums of which one has no greater terms than the other. -/
theorem sum_map_eq_iff {items : List α} {f g : α → Nat} (hle : ∀ a ∈ items, f a ≤ g a) :
    (items.map f).sum = (items.map g).sum ↔ ∀ a ∈ items, f a = g a := by
  constructor
  · intro hsum a ha
    by_contra hne
    have hlt : f a < g a := Nat.lt_of_le_of_ne (hle a ha) hne
    exact (List.sum_lt_sum f g hle ⟨a, ha, hlt⟩).ne hsum
  · exact fun h => congrArg List.sum (List.map_congr_left h)

namespace Tokens

/-- The tokens of a message, if a token is four units of a measure. -/
def estimateOf (size : String → Nat) (m : Message) : Nat :=
  3 + size m.role.name ⌈/⌉ 4 + size m.text ⌈/⌉ 4

/-- The tokens of a list of messages, if a token is four units of a measure. -/
def estimate (size : String → Nat) (messages : List Message) : Nat :=
  3 + (messages.map (estimateOf size)).sum

theorem count_eq_ceilDiv (text : String) : count text = text.utf8ByteSize ⌈/⌉ 4 := by
  rw [count, Text.byteLength_toList]
  rfl

theorem ofMessages_eq_sum (messages : List Message) :
    ofMessages messages = (messages.map (estimateOf String.utf8ByteSize)).sum := by
  induction messages with
  | nil => rfl
  | cons m rest ih =>
    rw [ofMessages_cons, ih, List.map_cons, List.sum_cons, ofMessage, count_eq_ceilDiv,
      count_eq_ceilDiv]
    rfl

/-- An estimate measures texts in bytes. -/
theorem countMessages_eq_estimate {messages : List Message} (hne : messages ≠ []) :
    countMessages messages = estimate String.utf8ByteSize messages := by
  rw [countMessages_of_ne_nil hne, ofMessages_eq_sum, Nat.add_comm]
  rfl

theorem ceilDiv_four_mono {m n : Nat} (h : m ≤ n) : m ⌈/⌉ 4 ≤ n ⌈/⌉ 4 := ofBytes_mono h

/-- In characters a message costs no more. -/
theorem estimateOf_length_le (m : Message) :
    estimateOf String.length m ≤ estimateOf String.utf8ByteSize m := by
  have htext := ceilDiv_four_mono (Text.length_le_utf8ByteSize m.text)
  rw [estimateOf, estimateOf, m.role.length_name]
  omega

/-- A role costs the same in both measures, so the text decides. -/
theorem estimateOf_length_eq_iff (m : Message) :
    estimateOf String.length m = estimateOf String.utf8ByteSize m ↔
      m.text.length ⌈/⌉ 4 = m.text.utf8ByteSize ⌈/⌉ 4 := by
  rw [estimateOf, estimateOf, m.role.length_name]
  omega

/-- An estimate is three tokens and, for each message, three tokens and a token for every four bytes
of its role and of its text, a part of four counted as four. The estimate in characters is not
greater, and it is the same exactly if no text fills more groups of four with its bytes than with
its characters. -/
theorem countMessages_characters_iff {messages : List Message} (hne : messages ≠ []) :
    countMessages messages = estimate String.utf8ByteSize messages ∧
    estimate String.length messages ≤ countMessages messages ∧
    (countMessages messages = estimate String.length messages ↔
      ∀ m ∈ messages, m.text.length ⌈/⌉ 4 = m.text.utf8ByteSize ⌈/⌉ 4) := by
  have hbytes := countMessages_eq_estimate hne
  have hle : ∀ m ∈ messages, estimateOf String.length m ≤ estimateOf String.utf8ByteSize m :=
    fun m _ => estimateOf_length_le m
  refine ⟨hbytes, ?_, ?_⟩
  · rw [hbytes]
    exact Nat.add_le_add_left (List.sum_le_sum hle) 3
  · rw [hbytes, eq_comm, estimate, estimate, Nat.add_left_cancel_iff, sum_map_eq_iff hle]
    exact forall₂_congr fun m _ => estimateOf_length_eq_iff m

/-- A text over two blocks around an image, with one accented letter. -/
theorem countMessages_characters_iff_accent :
    let messages : List Message := [.system (.plain "Be brief."),
      .user (.blocks [.ofText "naïve", { kind := .image, text := "é" }, .ofText " idea"])]
    messages ≠ [] ∧ countMessages messages = estimate String.length messages ∧
      countMessages messages = 18 := by
  intro messages
  have hne : messages ≠ [] := List.cons_ne_nil _ _
  obtain ⟨-, -, hsame⟩ := countMessages_characters_iff hne
  refine ⟨hne, hsame.2 ?_, by decide⟩
  intro m hm
  simp only [messages, List.mem_cons, List.not_mem_nil, or_false] at hm
  rcases hm with rfl | rfl
  all_goals decide

/-- Three accented letters are one token in characters and two in bytes. -/
theorem not_countMessages_characters :
    let messages : List Message := [.user (.plain "ééé")]
    countMessages messages = 9 ∧ estimate String.length messages = 8 ∧
    ¬ ∀ messages : List Message, messages ≠ [] →
      countMessages messages = estimate String.length messages := by
  intro messages
  have hbytes : countMessages messages = 9 := by decide
  have hcharacters : estimate String.length messages = 8 := by decide
  refine ⟨hbytes, hcharacters, fun hsame => ?_⟩
  have heq := hsame messages (List.cons_ne_nil _ _)
  rw [hbytes, hcharacters] at heq
  exact absurd heq (by decide)

end Tokens

end PromptBudget
