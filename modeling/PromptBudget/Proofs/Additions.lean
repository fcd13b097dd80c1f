import PromptBudget.Proofs.Atomicity
import PromptBudget.Proofs.Consultations

/-!
# PromptBudget — a block more in one message

Stages add a block to the last user message or to the system message. `Conversation.Gains` says what
this does to a conversation, by the position of the message: there is this message with the block
after those that it had, and no other message, no position and nothing else is touched.

There is not always a last user message to add to. But a conversation without one has never had one,
so it has no older part either, and nothing was asked in it.

Main results:

* `Conversation.gains_appendToLastUser`, `Conversation.gains_appendToSystem` — adding a block does
  this.
* `Conversation.Reachable.older_eq_nil`, `Conversation.Reachable.query_eq_empty` — what there is not
  without a last user message.
-/

namespace PromptBudget

-- ---------------------------------------------------------------------------
-- Adding a block
-- ---------------------------------------------------------------------------

/-- A conversation has one block more, at the end of the message that a target names: of the last
user message, or of the system message or its stand-in. -/
inductive Conversation.Gains (c : Conversation) (b : Block) :
    InjectionTarget → Conversation → Prop where
  | lastUser {i : Nat} {m : Message} (hi : c.lastUserIndex = some i) (hm : c.messages[i]? = some m) :
      Gains c b .lastUser { c with messages := c.messages.set i (m.push b) }
  | system {i : Nat} {m : Message} (hi : c.systemIndex = some i) (hm : c.messages[i]? = some m) :
      Gains c b .system { c with messages := c.messages.set i (m.push b) }
  | standIn (hnone : c.systemIndex = none) :
      Gains c b .system { c with standIn := c.standIn.push b }

theorem Conversation.Gains.diagnostics {c d : Conversation} {b : Block} {target : InjectionTarget}
    (h : c.Gains b target d) : d.diagnostics = c.diagnostics := by
  cases h <;> rfl

theorem modify_eq_set {messages : List Message} {i : Nat} {m : Message} (h : messages[i]? = some m)
    (f : Message → Message) : messages.modify i f = messages.set i (f m) := by
  rw [List.modify_eq_set, h, Option.getD_some]

namespace Conversation

variable {c : Conversation}

theorem gains_appendToLastUser {m : Message} (h : c.lastUser? = some m) (b : Block) :
    ∃ d, c.appendToLastUser b = .ok d ∧ c.Gains b .lastUser d := by
  obtain ⟨i, hi, hm⟩ := Option.bind_eq_some_iff.1 h
  refine ⟨_, ?_, .lastUser hi hm⟩
  rw [appendToLastUser, editLastUser?, hi, Option.map_some, modify_eq_set hm]

theorem gains_appendToSystem (hsystem : ∀ i, c.systemIndex = some i → ∃ m, c.messages[i]? = some m)
    (b : Block) : c.Gains b .system (c.appendToSystem b) := by
  unfold appendToSystem editSystem
  split
  · next i hi =>
    obtain ⟨m, hm⟩ := hsystem i hi
    rw [modify_eq_set hm]
    exact .system hi hm
  · next hnone => exact .standIn hnone

end Conversation

-- ---------------------------------------------------------------------------
-- What there is to add to
-- ---------------------------------------------------------------------------

/-- No edit touches the query, brings a last user message or takes it away. -/
theorem Edit.query_of_outline? {o o' : Outline} {e : Edit} (h : e.outline? o = some o') :
    o'.query = o.query ∧ o'.lastUser?.isSome = o.lastUser?.isSome := by
  cases e with
  | setSystemText text =>
    obtain rfl := Option.some.inj h
    exact ⟨rfl, by rw [Outline.lastUser?_editSystem]⟩
  | removeSystemText start stop =>
    obtain ⟨content, -, rfl⟩ := Option.map_eq_some_iff.1 h
    exact ⟨rfl, by rw [Outline.lastUser?_editSystem]⟩
  | appendToSystem b =>
    obtain rfl := Option.some.inj h
    exact ⟨rfl, by rw [Outline.lastUser?_editSystem]⟩
  | appendToLastUser b =>
    obtain rfl := Option.some.inj h
    exact ⟨o.query_editLastUser _, by rw [Outline.lastUser?_editLastUser, Option.isSome_map]⟩
  | editLastUser f =>
    obtain rfl := Option.some.inj h
    exact ⟨o.query_editLastUser _, by rw [Outline.lastUser?_editLastUser, Option.isSome_map]⟩
  | replaceOlder m =>
    obtain rfl := Option.some.inj h
    split <;> exact ⟨rfl, rfl⟩
  | setDiagnostics d =>
    obtain rfl := Option.some.inj h
    exact ⟨rfl, rfl⟩

namespace Conversation

variable {c : Conversation}

namespace Reachable

theorem getElem?_systemIndex (hc : c.Reachable) {i : Nat} (hi : c.systemIndex = some i) :
    ∃ m, c.messages[i]? = some m := by
  obtain ⟨o, rfl⟩ := hc.exists_outline
  have hlength := o.opening.length_messages
  rw [Outline.systemIndex_conversation] at hi
  rw [hi, Option.elim_some] at hlength
  refine ⟨_, List.getElem?_eq_getElem ?_⟩
  rw [Outline.messages_conversation, List.append_assoc, List.length_append]
  omega

/-- Where there is an older part, there is a user message after it. -/
theorem older_eq_nil (hc : c.Reachable) (hnone : c.lastUser? = none) : c.older = [] := by
  obtain ⟨o, rfl, ho⟩ := hc.exists_outline_sound
  rw [Outline.lastUser?_conversation] at hnone
  rw [Outline.older_conversation]
  exact (ho hnone).older_eq_nil (Outline.marked_of_lastUser? hnone)

/-- Without a last user message there was none at first, so nothing was asked. -/
theorem query_eq_empty (hc : c.Reachable) (hnone : c.lastUser? = none) : c.query = "" := by
  induction hc with
  | fresh h => rw [query_ofMessages? h, hnone, Option.elim_none]
  | edited hc e h ih =>
    obtain ⟨o, rfl⟩ := hc.exists_outline
    rw [Edit.perform?_conversation] at h
    obtain ⟨o', hedit, rfl⟩ := Option.map_eq_some_iff.1 h
    obtain ⟨hquery, hlast⟩ := Edit.query_of_outline? hedit
    rw [Outline.lastUser?_conversation] at hnone ih
    rw [hnone, Option.isSome_none, eq_comm, Option.isSome_eq_false_iff, Option.isNone_iff_eq_none] at hlast
    rw [Outline.query_conversation, hquery]
    exact ih hlast
  | staged hc k context now ih =>
    obtain ⟨o, rfl⟩ := hc.exists_outline
    cases k.effect o context now with
    | kept _ hconversation =>
      rw [hconversation] at hnone ⊢
      exact ih hnone
    | changed o' _ hchanges hconversation =>
      rw [hconversation, Outline.lastUser?_conversation] at hnone
      rw [Outline.lastUser?_conversation] at ih
      rw [hconversation, Outline.query_conversation, hchanges.query]
      exact ih (hchanges.lastUser?_of_none hnone)

end Reachable

end Conversation

end PromptBudget
