import PromptBudget.Proofs.Frame

/-!
# PromptBudget — which messages are old

A request is divided when it is read: what follows its first system message is its history, and the
recent part of the history starts with a user message, so that it has as many user messages as the
window asks for. If the history has too few of them, all of it is recent. User messages before the
system message count as well, but the recent part does not start before the history.

Main results:

* `Conversation.recentStart_ofMessages?` — where the recent part starts, by the position of the
  user message.
* `Conversation.older_prefix_older` — a larger window leaves less that is old.
* `Conversation.ofMessages?_divides` — how a request is divided, for every window.
-/

namespace PromptBudget

namespace Conversation

/-- Where the history of a request starts: behind its first system message. -/
def historyStart (messages : List Message) : Nat :=
  (messages.findIdx? (·.isSystem)).elim 0 (· + 1)

/-- How a request is divided whose recent part has so many user messages. -/
structure Divides (messages : List Message) (k : Nat) (c : Conversation) : Prop where
  parts : messages = c.lead ++ c.real?.toList ++ c.older ++ c.recent
  start : (c.lead ++ c.real?.toList).length = historyStart messages
  /-- The user message with which the recent part starts is in the history. -/
  enough : ∀ position, IsUserFromEnd messages k position → historyStart messages ≤ position →
    c.older = (messages.drop (historyStart messages)).take (position - historyStart messages) ∧
    c.recent = messages.drop position ∧
    countUsers c.recent = k ∧ ∃ m rest, c.recent = m :: rest ∧ m.isUser = true
  /-- It is before the history, or there is none. -/
  few : (∀ position, IsUserFromEnd messages k position → position ≤ historyStart messages) →
    c.older = [] ∧ c.recent = messages.drop (historyStart messages)

section Parsed

variable {messages : List Message} {window : Nat} {c : Conversation}

theorem olderStart_ofMessages? (h : ofMessages? messages window = .ok c) :
    c.olderStart = historyStart messages := by
  unfold ofMessages? at h
  split at h
  · cases h
  · obtain rfl := Except.ok.inj h
    rfl

theorem recentStart_ofMessages? (h : ofMessages? messages window = .ok c) :
    c.recentStart = (userFromEnd? messages (max window 1)).elim (historyStart messages)
      (max · (historyStart messages)) := by
  unfold ofMessages? at h
  split at h
  · cases h
  · obtain rfl := Except.ok.inj h
    rfl

theorem recentStart_of_isUserFromEnd (h : ofMessages? messages window = .ok c) {position : Nat}
    (hposition : IsUserFromEnd messages (max window 1) position) :
    c.recentStart = max position (historyStart messages) := by
  have hfound := (userFromEnd?_eq_some_iff (Nat.le_max_right window 1)).2 hposition
  rw [recentStart_ofMessages? h, hfound, Option.elim_some]

theorem recentStart_of_few (h : ofMessages? messages window = .ok c)
    (hfew : ∀ position, IsUserFromEnd messages (max window 1) position →
      position ≤ historyStart messages) :
    c.recentStart = historyStart messages := by
  rw [recentStart_ofMessages? h]
  cases hfound : userFromEnd? messages (max window 1) with
  | none => rfl
  | some position =>
    have hposition := (userFromEnd?_eq_some_iff (Nat.le_max_right window 1)).1 hfound
    rw [Option.elim_some]
    exact Nat.max_eq_right (hfew position hposition)

/-- A larger window does not start later. -/
theorem recentStart_le_recentStart {larger : Nat} {d : Conversation}
    (h : ofMessages? messages window = .ok c) (h' : ofMessages? messages larger = .ok d)
    (hle : window ≤ larger) : d.recentStart ≤ c.recentStart := by
  have hk : max window 1 ≤ max larger 1 := by omega
  rw [recentStart_ofMessages? h']
  cases hfound : userFromEnd? messages (max larger 1) with
  | none =>
    rw [Option.elim_none, recentStart_ofMessages? h]
    cases userFromEnd? messages (max window 1) with
    | none => exact Nat.le_refl _
    | some position => exact Nat.le_max_right position _
  | some earlier =>
    -- with enough user messages for the larger window there are enough for this one
    have hearlier := (userFromEnd?_eq_some_iff (Nat.le_max_right larger 1)).1 hfound
    have henough : max larger 1 ≤ countUsers messages := by
      obtain ⟨front, m, back, rfl, -, -, hcount⟩ := hearlier
      rw [countUsers_append]
      omega
    have hsome := userFromEnd?_eq messages (Nat.le_max_right window 1)
    rw [if_pos (Nat.le_trans hk henough)] at hsome
    have hposition := (userFromEnd?_eq_some_iff (Nat.le_max_right window 1)).1 hsome
    have hle' := hposition.le hearlier hk
    rw [recentStart_of_isUserFromEnd h hposition, Option.elim_some]
    omega

theorem older_prefix_older {larger : Nat} {d : Conversation}
    (h : ofMessages? messages window = .ok c) (h' : ofMessages? messages larger = .ok d)
    (hle : window ≤ larger) : d.older <+: c.older := by
  have hstart := recentStart_le_recentStart h h' hle
  unfold older
  rw [messages_ofMessages? h, messages_ofMessages? h', olderStart_ofMessages? h,
    olderStart_ofMessages? h']
  exact List.take_prefix_take_left (Nat.sub_le_sub_right hstart _)

end Parsed

end Conversation

/-- What comes before the older part ends where the history starts. -/
theorem Outline.length_lead_real? {o : Outline} (ho : o.Sound) :
    (o.conversation.lead ++ o.conversation.real?.toList).length = o.conversation.olderStart := by
  rw [lead_conversation, ho.real?_conversation, ← Opening.messages_eq, olderStart_conversation]

namespace Conversation

/-- How a request is divided. The user message with which its recent part starts is looked for from
the end; the messages before it, back to the system message, are old. If it is not found in the
history, nothing is old. With a larger window the older part ends earlier. -/
theorem ofMessages?_divides {messages : List Message} (hne : messages ≠ []) (window : Nat) :
    ∃ c, ofMessages? messages window = .ok c ∧ Divides messages (max window 1) c ∧
      ∀ larger, window ≤ larger →
        ∃ d, ofMessages? messages larger = .ok d ∧ d.older <+: c.older := by
  have hparse := Outline.ofMessages?_eq hne window
  have ho := Outline.sound_ofMessages messages window
  have hparts := Outline.messages_parts ho
  rw [Outline.messages_ofMessages] at hparts
  have hlength := Outline.length_lead_real? ho
  generalize (Outline.ofMessages messages window).conversation = c at hparse hparts hlength
  have hmessages := messages_ofMessages? hparse
  have hstart := olderStart_ofMessages? hparse
  refine ⟨c, hparse, ⟨hparts, hlength.trans hstart, ?_, ?_⟩, ?_⟩
  · intro position hposition hle
    have hrecent := recentStart_of_isUserFromEnd hparse hposition
    rw [Nat.max_eq_left hle] at hrecent
    have hdrop : c.recent = messages.drop position := by
      rw [recent, hmessages, hrecent]
    refine ⟨by rw [older, hmessages, hstart, hrecent], hdrop, ?_⟩
    obtain ⟨front, m, back, hsplit, hfront, hm, hcount⟩ := hposition
    rw [hsplit, List.drop_left' hfront] at hdrop
    rw [hdrop]
    exact ⟨hcount, m, back, rfl, hm⟩
  · intro hfew
    have hrecent := recentStart_of_few hparse hfew
    constructor
    · rw [older, hstart, hrecent, Nat.sub_self, List.take_zero]
    · rw [recent, hmessages, hrecent]
  · intro larger hle
    have hparse' := Outline.ofMessages?_eq hne larger
    exact ⟨_, hparse', older_prefix_older hparse hparse' hle⟩

/-- The window counts the user message before the system message only if the history has too few. -/
theorem ofMessages?_divides_late_system :
    ([.user (.plain "Hi"), .system (.plain "Rules"), .assistant (.plain "So."),
      .user (.plain "Go"), .assistant (.plain "Done"), .user (.plain "Why?")] :
        List Message) ≠ [] ∧
      ∃ c d, ofMessages? [.user (.plain "Hi"), .system (.plain "Rules"), .assistant (.plain "So."),
          .user (.plain "Go"), .assistant (.plain "Done"), .user (.plain "Why?")] 2 = .ok c ∧
        ofMessages? [.user (.plain "Hi"), .system (.plain "Rules"), .assistant (.plain "So."),
          .user (.plain "Go"), .assistant (.plain "Done"), .user (.plain "Why?")] 3 = .ok d ∧
        c.older = [.assistant (.plain "So.")] ∧ countUsers c.recent = 2 ∧ d.older <+: c.older := by
  have hne : ([.user (.plain "Hi"), .system (.plain "Rules"), .assistant (.plain "So."),
      .user (.plain "Go"), .assistant (.plain "Done"), .user (.plain "Why?")] :
        List Message) ≠ [] := List.cons_ne_nil _ _
  obtain ⟨c, hc, hdivides, hlarger⟩ := ofMessages?_divides hne 2
  obtain ⟨d, hd, hprefix⟩ := hlarger 3 (by decide)
  have hposition : IsUserFromEnd [.user (.plain "Hi"), .system (.plain "Rules"),
      .assistant (.plain "So."), .user (.plain "Go"), .assistant (.plain "Done"),
      .user (.plain "Why?")] 2 3 :=
    ⟨[.user (.plain "Hi"), .system (.plain "Rules"), .assistant (.plain "So.")],
      .user (.plain "Go"), [.assistant (.plain "Done"), .user (.plain "Why?")], rfl, rfl, rfl, rfl⟩
  obtain ⟨holder, -, hcount, -⟩ := hdivides.enough 3 hposition (by decide)
  exact ⟨hne, c, d, hc, hd, holder, hcount, hprefix⟩

end Conversation

end PromptBudget
