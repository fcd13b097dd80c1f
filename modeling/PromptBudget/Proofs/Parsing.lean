import PromptBudget.Proofs.Outline

/-!
# PromptBudget — the outline of some messages

A conversation is made from some messages by finding positions in them. The same conversation is
joined from the outline of the messages: they are cut at the first system message, and what follows
it in front of the user message with which the recent part starts.

Main results:

* `Outline.ofMessages?_eq` — the conversation of some messages is joined from their outline.
* `Outline.sound_ofMessages` — this outline is sound.
-/

namespace PromptBudget

open Conversation (userFromEnd? countUsers splitAtUser)

namespace Outline

/-- The outline of a history with what comes before it. -/
def ofHistory (opening : Opening) (history : List Message) (window : Nat) : Outline :=
  let o : Outline := {
    opening
    older := (splitAtUser (max window 1) history).1
    recent := .ofMessages (splitAtUser (max window 1) history).2
    query := "" }
  { o with query := o.lastUser?.elim "" (·.text) }

/-- The outline of some messages, of which the recent part has so many user messages, and at least
one. -/
def ofMessages (messages : List Message) (window : Nat) : Outline :=
  match messages.dropWhile (!·.isSystem) with
  | [] => ofHistory (.standIn (.system (.plain ""))) messages window
  | m :: history =>
    ofHistory (.real (.ofMessages (messages.takeWhile (!·.isSystem))) m) history window

section History

variable (opening : Opening) (history : List Message) (window : Nat)

theorem messages_ofHistory :
    (ofHistory opening history window).conversation.messages = opening.messages ++ history := by
  simp [ofHistory, Segment.messages_ofMessages, Conversation.append_splitAtUser]

theorem sound_ofHistory (hopening : opening.Sound)
    (halone : opening.systemIndex = none → .system ∉ roles history) :
    (ofHistory opening history window).Sound where
  opening := hopening
  alone h := by
    simp only [ofHistory, Segment.messages_ofMessages, Conversation.append_splitAtUser]
    exact halone h
  recent := Segment.marksLastUser_ofMessages _
  older h := by
    have henough := Conversation.le_countUsers_of_splitAtUser h
    obtain ⟨m, rest, heq, hm⟩ := Conversation.head_splitAtUser (Nat.le_max_right window 1) henough
    simp only [Message.isUser, beq_iff_eq] at hm
    simp [ofHistory, Segment.messages_ofMessages, heq, roles, hm]

/-- The recent part starts at the user message looked for, but not before the history. -/
theorem recentStart_ofHistory :
    (userFromEnd? (opening.messages ++ history) (max window 1)).elim opening.messages.length
      (max · opening.messages.length) =
        (ofHistory opening history window).conversation.recentStart := by
  have hk : 1 ≤ max window 1 := Nat.le_max_right window 1
  simp only [recentStart_conversation, ofHistory, List.length_append]
  rw [Conversation.userFromEnd?_append _ _ hk, Conversation.userFromEnd?_eq _ hk]
  by_cases h : max window 1 ≤ countUsers history
  · -- the user message is in the history, where the cut is made
    simp only [if_pos h, Option.map_some, Option.elim_some]
    omega
  · rw [if_neg h, Conversation.userFromEnd?_eq _ (by omega),
      Conversation.splitAtUser_of_few (by omega : countUsers history < max window 1)]
    split
    · -- the user message is before the history
      have hlength := congrArg List.length
        (Conversation.append_splitAtUser (max window 1 - countUsers history) opening.messages)
      rw [List.length_append] at hlength
      simp only [Option.elim_some, List.length_nil]
      omega
    · -- there are not enough user messages at all
      rfl

theorem ofMessages?_history (hopening : opening.Sound)
    (halone : opening.systemIndex = none → .system ∉ roles history)
    (hstandIn : opening.standInMessage = .system (.plain ""))
    (hne : opening.messages ++ history ≠ []) :
    Conversation.ofMessages? (opening.messages ++ history) window =
      .ok (ofHistory opening history window).conversation := by
  -- soundness says that what the marks give is what a search finds
  have hsound := sound_ofHistory opening history window hopening halone
  have hmessages := messages_ofHistory opening history window
  have hsystem := hsound.systemIndex_eq
  have huser := hsound.lastUserIndex_eq
  rw [hmessages] at hsystem huser
  have hstart := recentStart_ofHistory opening history window
  have hquery := lastUser?_conversation (ofHistory opening history window)
  rw [Conversation.lastUser?, huser, hmessages] at hquery
  have hempty : (opening.messages ++ history).isEmpty = false := by
    simpa [List.isEmpty_eq_false_iff] using hne
  simp only [Conversation.ofMessages?, hempty, Bool.false_eq_true, if_false, Except.ok.injEq]
  have hopened : (ofHistory opening history window).opening = opening := rfl
  rw [← hsystem, systemIndex_conversation, hquery, hopened, ← Opening.length_messages, hstart,
    ← huser, ← hstandIn, ← hmessages]
  rfl

end History

/-- Some messages have no system message, or they are cut at the first one. -/
theorem takeWhile_not_isSystem (messages : List Message) :
    .system ∉ roles (messages.takeWhile (!·.isSystem)) := by
  intro h
  obtain ⟨m, hm, hrole⟩ := List.mem_map.1 h
  have := List.all_eq_true.1 List.all_takeWhile m hm
  simp [Message.isSystem, hrole] at this

theorem ofMessages_cases (messages : List Message) (window : Nat) :
    ∃ opening history, messages = opening.messages ++ history ∧ opening.Sound ∧
      (opening.systemIndex = none → .system ∉ roles history) ∧
      opening.standInMessage = .system (.plain "") ∧
      ofMessages messages window = ofHistory opening history window := by
  have happend := List.takeWhile_append_dropWhile (p := (!·.isSystem)) (l := messages)
  have hnone := takeWhile_not_isSystem messages
  unfold ofMessages
  split
  · next hdrop =>
    rw [hdrop, List.append_nil] at happend
    rw [happend] at hnone
    exact ⟨.standIn (.system (.plain "")), messages, rfl, rfl, fun _ => hnone, rfl, rfl⟩
  · next m history hdrop =>
    have hm : m.role = .system := by
      have := List.head?_dropWhile_not (fun x : Message => !x.isSystem) messages
      rw [hdrop] at this
      simpa [Message.isSystem] using this
    refine ⟨.real (.ofMessages (messages.takeWhile (!·.isSystem))) m, history, ?_, ⟨hm, ?_, ?_⟩,
      by simp [Opening.systemIndex], rfl, rfl⟩
    · rw [Opening.messages, Segment.messages_ofMessages, List.append_assoc, List.singleton_append,
        ← hdrop, happend]
    · rwa [Segment.messages_ofMessages]
    · exact Segment.marksLastUser_ofMessages _

/-- The conversation of some messages is joined from their outline. -/
theorem ofMessages?_eq {messages : List Message} (hne : messages ≠ []) (window : Nat) :
    Conversation.ofMessages? messages window = .ok (ofMessages messages window).conversation := by
  obtain ⟨opening, history, rfl, hopening, halone, hstandIn, heq⟩ :=
    ofMessages_cases messages window
  rw [heq]
  exact ofMessages?_history opening history window hopening halone hstandIn hne

theorem messages_ofMessages (messages : List Message) (window : Nat) :
    (ofMessages messages window).conversation.messages = messages := by
  obtain ⟨opening, history, hmessages, -, -, -, heq⟩ := ofMessages_cases messages window
  rw [heq, messages_ofHistory, ← hmessages]

theorem diagnostics_ofMessages (messages : List Message) (window : Nat) :
    (ofMessages messages window).diagnostics = {} := by
  obtain ⟨opening, history, -, -, -, -, heq⟩ := ofMessages_cases messages window
  rw [heq]
  rfl

theorem sound_ofMessages (messages : List Message) (window : Nat) :
    (ofMessages messages window).Sound := by
  obtain ⟨opening, history, -, hopening, halone, -, heq⟩ := ofMessages_cases messages window
  rw [heq]
  exact sound_ofHistory opening history window hopening halone

end Outline

namespace Conversation

variable {messages : List Message} {window : Nat} {c : Conversation}

theorem messages_ofMessages? (h : ofMessages? messages window = .ok c) : c.messages = messages := by
  unfold ofMessages? at h
  split at h
  · cases h
  · rw [← Except.ok.inj h]

theorem standIn_ofMessages? (h : ofMessages? messages window = .ok c) :
    c.standIn = .system (.plain "") := by
  unfold ofMessages? at h
  split at h
  · cases h
  · rw [← Except.ok.inj h]

/-- Messages are sent as they are until they are edited: the stand-in holds nothing. -/
theorem assembled_ofMessages? (h : ofMessages? messages window = .ok c) :
    c.assembled = messages := by
  have hempty : c.standIn.content.isEmpty = true := by
    rw [standIn_ofMessages? h]
    rfl
  rw [assembled, hempty, messages_ofMessages? h, Bool.not_true, Bool.and_false]
  rfl

end Conversation

end PromptBudget
