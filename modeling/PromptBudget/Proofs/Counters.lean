import PromptBudget.Chat.Tokens

/-!
# PromptBudget — counters that charge for messages one by one

Requests are measured by a counter that is given from outside, so what is said of costs has to say
what is asked of it. Most needs nothing. Some needs a counter that charges messages one by one: each
a fee for its role and the tokens of its text, and a list that is not empty something more. Some
needs in addition that two texts in one cost no more than both apart, and no less than the first.

The heuristic counter is such a counter: the fee is for the name of the role and three tokens more.

Main results:

* `TokenCounter.charges_heuristic`, `TokenCounter.subadditive_heuristic` — the heuristic counter
  charges messages one by one and rounds up.
* `TokenCounter.cost_le_push`, `TokenCounter.cost_push_le` — what a text adds to a message costs
  something, but no more than the text.
-/

namespace PromptBudget

namespace TokenCounter

variable {counter : TokenCounter} {fee : Role → Nat} {base : Nat}

/-- What a message costs, if there is a fee for its role. -/
def cost (counter : TokenCounter) (fee : Role → Nat) (m : Message) : Nat :=
  fee m.role + counter.count m.text

/-- What some messages cost, one by one. -/
def costs (counter : TokenCounter) (fee : Role → Nat) (messages : List Message) : Nat :=
  messages.foldr (fun m n => counter.cost fee m + n) 0

/-- A counter that charges messages one by one, and a list of them something more. -/
structure Charges (counter : TokenCounter) (fee : Role → Nat) (base : Nat) : Prop where
  nil : counter.countMessages [] = 0
  of_ne_nil : ∀ messages, messages ≠ [] →
    counter.countMessages messages = counter.costs fee messages + base

/-- A counter that counts no more for two texts in one than for both apart, and no less than for the
first. -/
structure Subadditive (counter : TokenCounter) : Prop where
  empty : counter.count "" = 0
  le_append : ∀ s t, counter.count s ≤ counter.count (s ++ t)
  append_le : ∀ s t, counter.count (s ++ t) ≤ counter.count s + counter.count t

-- ---------------------------------------------------------------------------
-- Lists of messages
-- ---------------------------------------------------------------------------

@[simp] theorem costs_nil : counter.costs fee [] = 0 := rfl

@[simp] theorem costs_cons (m : Message) (rest : List Message) :
    counter.costs fee (m :: rest) = counter.cost fee m + counter.costs fee rest := rfl

@[simp] theorem costs_append (messages more : List Message) :
    counter.costs fee (messages ++ more) =
      counter.costs fee messages + counter.costs fee more := by
  induction messages with
  | nil => exact (Nat.zero_add _).symm
  | cons m rest ih => rw [List.cons_append, costs_cons, ih, costs_cons, Nat.add_assoc]

theorem Charges.le (h : counter.Charges fee base) (messages : List Message) :
    counter.countMessages messages ≤ counter.costs fee messages + base := by
  cases messages with
  | nil =>
    rw [h.nil]
    exact Nat.zero_le _
  | cons m rest => exact Nat.le_of_eq (h.of_ne_nil _ (List.cons_ne_nil m rest))

end TokenCounter

-- ---------------------------------------------------------------------------
-- Texts
-- ---------------------------------------------------------------------------

namespace Message

theorem text_push_ofText (m : Message) (text : String) :
    (m.push (.ofText text)).text = m.text ++ text := by
  rw [← String.toList_inj, text_push, String.toList_append]
  rfl

/-- What is pushed to a message makes its text longer. -/
theorem exists_text_push (m : Message) (b : Block) : ∃ more, (m.push b).text = m.text ++ more := by
  refine ⟨String.ofList b.chars, ?_⟩
  rw [← String.toList_inj, text_push, String.toList_append, String.toList_ofList]

theorem text_of_isEmpty {m : Message} (h : m.content.isEmpty = true) : m.text = "" := by
  unfold Message.text
  cases hcontent : m.content with
  | plain s =>
    rw [hcontent] at h
    exact String.isEmpty_iff.1 h
  | blocks bs =>
    rw [hcontent] at h
    rw [← String.toList_inj, Content.toList_text_blocks, List.isEmpty_iff.1 h]
    rfl

end Message

namespace TokenCounter

variable {counter : TokenCounter} {fee : Role → Nat}

theorem cost_le_push (h : counter.Subadditive) (m : Message) (b : Block) :
    counter.cost fee m ≤ counter.cost fee (m.push b) := by
  obtain ⟨more, htext⟩ := m.exists_text_push b
  rw [cost, cost, htext]
  exact Nat.add_le_add_left (h.le_append m.text more) _

theorem cost_push_le (h : counter.Subadditive) (m : Message) (text : String) :
    counter.cost fee (m.push (.ofText text)) ≤ counter.cost fee m + counter.count text := by
  rw [cost, cost, m.text_push_ofText, Nat.add_assoc]
  exact Nat.add_le_add_left (h.append_le m.text text) _

/-- A message without content costs its fee. -/
theorem cost_of_isEmpty (h : counter.Subadditive) {m : Message}
    (hempty : m.content.isEmpty = true) :
    counter.cost fee m = fee m.role := by
  rw [cost, Message.text_of_isEmpty hempty, h.empty, Nat.add_zero]

end TokenCounter

-- ---------------------------------------------------------------------------
-- The heuristic counter
-- ---------------------------------------------------------------------------

namespace Tokens

theorem ofBytes_add_le (m n : Nat) : ofBytes (m + n) ≤ ofBytes m + ofBytes n := by
  unfold ofBytes
  omega

theorem ofBytes_mono {m n : Nat} (h : m ≤ n) : ofBytes m ≤ ofBytes n := by
  unfold ofBytes
  omega

theorem countMessages_of_ne_nil {messages : List Message} (hne : messages ≠ []) :
    countMessages messages = ofMessages messages + overhead := by
  cases messages with
  | nil => exact absurd rfl hne
  | cons m rest => rfl

/-- What a message costs beside its text. -/
def fee (role : Role) : Nat := overhead + count role.name

theorem ofMessages_eq_costs (messages : List Message) :
    ofMessages messages = TokenCounter.heuristic.costs fee messages := by
  induction messages with
  | nil => rfl
  | cons m rest ih =>
    rw [ofMessages_cons, TokenCounter.costs_cons, ih]
    rfl

end Tokens

namespace TokenCounter

theorem charges_heuristic : heuristic.Charges Tokens.fee Tokens.overhead where
  nil := rfl
  of_ne_nil messages hne := by
    rw [← Tokens.ofMessages_eq_costs]
    exact Tokens.countMessages_of_ne_nil hne

theorem subadditive_heuristic : heuristic.Subadditive where
  empty := by decide
  le_append s t := by
    show Tokens.ofBytes _ ≤ Tokens.ofBytes _
    rw [String.toList_append, Text.byteLength_append]
    exact Tokens.ofBytes_mono (Nat.le_add_right _ _)
  append_le s t := by
    show Tokens.ofBytes _ ≤ Tokens.ofBytes _ + Tokens.ofBytes _
    rw [String.toList_append, Text.byteLength_append]
    exact Tokens.ofBytes_add_le _ _

end TokenCounter

end PromptBudget
