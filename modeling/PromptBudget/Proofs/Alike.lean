import PromptBudget.Chat.Tokens
import PromptBudget.Conversation.Basic

/-!
# PromptBudget — conversations that read the same

Two messages may say the same in different forms: as a plain text, or as blocks with the text spread
over them in any way, with images in between, with cache hints and other fields. What a message says
is its role and its text.

Two conversations are alike if their messages say the same, one by one, and everything else about
them is equal. Every edit of a conversation keeps them alike, if the edits of the two say the same.

Main results:

* `Tokens.countMessages_congr` — messages that say the same have the same tokens.
* `Conversation.ofMessages?_alike` — messages that say the same make conversations that are alike.
* `Conversation.Alike.editSystem`, `Conversation.Alike.editLastUser?`,
  `Conversation.Alike.replaceOlder` — edits keep conversations alike.
* `Conversation.Alike.assembled` — what is sent says the same.
-/

namespace PromptBudget

/-- What a message says: its role and its text. -/
def Message.said (m : Message) : Role × String := (m.role, m.text)

/-- What some messages say, one by one. -/
def spoken (messages : List Message) : List (Role × String) := messages.map (·.said)

@[simp] theorem spoken_nil : spoken [] = [] := rfl

@[simp] theorem spoken_cons (m : Message) (rest : List Message) :
    spoken (m :: rest) = m.said :: spoken rest :=
  rfl

@[simp] theorem spoken_append (a b : List Message) :
    spoken (a ++ b) = spoken a ++ spoken b :=
  List.map_append

theorem length_spoken (messages : List Message) :
    (spoken messages).length = messages.length :=
  List.length_map _

theorem isEmpty_spoken (messages : List Message) :
    (spoken messages).isEmpty = messages.isEmpty :=
  List.isEmpty_map

theorem spoken_take (messages : List Message) (n : Nat) :
    spoken (messages.take n) = (spoken messages).take n :=
  List.map_take

theorem spoken_drop (messages : List Message) (n : Nat) :
    spoken (messages.drop n) = (spoken messages).drop n :=
  List.map_drop

theorem spoken_getElem? (messages : List Message) (i : Nat) :
    (messages[i]?).map (·.said) = (spoken messages)[i]? :=
  (List.getElem?_map ..).symm

/-- An edit in the same place keeps what is said the same, if the edits say the same. -/
theorem spoken_modify {a b : List Message} (h : spoken a = spoken b) (i : Nat)
    {f g : Message → Message} (hfg : ∀ m m', m.said = m'.said → (f m).said = (g m').said) :
    spoken (a.modify i f) = spoken (b.modify i g) := by
  induction a generalizing b i with
  | nil =>
    cases b with
    | nil => simp only [List.modify_nil]
    | cons m rest => cases h
  | cons m rest ih =>
    cases b with
    | nil => cases h
    | cons m' rest' =>
      rw [spoken_cons, spoken_cons] at h
      obtain ⟨hm, hrest⟩ := List.cons.inj h
      cases i with
      | zero =>
        rw [List.modify_zero_cons, List.modify_zero_cons, spoken_cons, spoken_cons,
          hfg m m' hm, hrest]
      | succ i =>
        rw [List.modify_succ_cons, List.modify_succ_cons, spoken_cons, spoken_cons, hm, ih hrest i]

theorem Message.said_push {m m' : Message} (h : m.said = m'.said) (b : Block) :
    (m.push b).said = (m'.push b).said := by
  obtain ⟨hrole, htext⟩ := Prod.mk.inj h
  have hpushed : (m.push b).text = (m'.push b).text := by
    rw [← String.toList_inj, text_push, text_push, htext]
  exact Prod.ext hrole hpushed

-- ---------------------------------------------------------------------------
-- Tokens
-- ---------------------------------------------------------------------------

theorem Tokens.ofMessages_congr {a b : List Message} (h : spoken a = spoken b) :
    ofMessages a = ofMessages b := by
  have hsaid (messages : List Message) : ofMessages messages =
      (spoken messages).foldr (fun s n => overhead + count s.1.name + count s.2 + n) 0 := by
    rw [spoken, List.foldr_map]
    rfl
  rw [hsaid, hsaid, h]

theorem Tokens.countMessages_congr {a b : List Message} (h : spoken a = spoken b) :
    countMessages a = countMessages b := by
  rw [countMessages, countMessages, ← isEmpty_spoken, ← isEmpty_spoken, h, ofMessages_congr h]

namespace Conversation

-- ---------------------------------------------------------------------------
-- Positions
-- ---------------------------------------------------------------------------

theorem userPositions_congr {a b : List Message} (h : spoken a = spoken b) :
    userPositions a = userPositions b := by
  have hsaid (messages : List Message) : userPositions messages =
      ((spoken messages).zipIdx.filter (·.1.1 == .user)).map (·.2) := by
    rw [spoken, List.zipIdx_map, List.filter_map, List.map_map]
    rfl
  rw [hsaid, hsaid, h]

theorem userFromEnd?_congr {a b : List Message} (h : spoken a = spoken b) (k : Nat) :
    userFromEnd? a k = userFromEnd? b k := by
  rw [userFromEnd?, userFromEnd?, userPositions_congr h]

theorem findIdx?_isSystem_congr {a b : List Message} (h : spoken a = spoken b) :
    a.findIdx? (·.isSystem) = b.findIdx? (·.isSystem) := by
  have hsaid (messages : List Message) :
      messages.findIdx? (·.isSystem) = (spoken messages).findIdx? (·.1 == .system) := by
    rw [spoken, List.findIdx?_map]
    rfl
  rw [hsaid, hsaid, h]

-- ---------------------------------------------------------------------------
-- Conversations
-- ---------------------------------------------------------------------------

/-- Two conversations that say the same, and in which everything else is equal. -/
structure Alike (c d : Conversation) : Prop where
  messages : spoken c.messages = spoken d.messages
  systemIndex : c.systemIndex = d.systemIndex
  standIn : c.standIn = d.standIn
  recentStart : c.recentStart = d.recentStart
  lastUserIndex : c.lastUserIndex = d.lastUserIndex
  query : c.query = d.query
  diagnostics : c.diagnostics = d.diagnostics

theorem ofMessages?_alike {a b : List Message} (h : spoken a = spoken b) (hne : a ≠ [])
    (window : Nat) :
    ∃ c d, ofMessages? a window = .ok c ∧ ofMessages? b window = .ok d ∧ c.Alike d := by
  have hempty : a.isEmpty = false := List.isEmpty_eq_false_iff.2 hne
  have hempty' : b.isEmpty = false := by rw [← isEmpty_spoken, ← h, isEmpty_spoken, hempty]
  simp only [ofMessages?, hempty, hempty', Bool.false_eq_true, if_false, Except.ok.injEq]
  refine ⟨_, _, rfl, rfl, h, findIdx?_isSystem_congr h, rfl, ?_, userFromEnd?_congr h 1, ?_, rfl⟩
  · simp only [findIdx?_isSystem_congr h, userFromEnd?_congr h]
  · have hquery (messages : List Message) (i : Option Nat) :
        (i.bind (messages[·]?)).elim "" (·.text) =
        (i.bind ((spoken messages)[·]?)).elim "" (·.2) := by
      cases i with
      | none => rfl
      | some i =>
        rw [Option.bind_some, Option.bind_some, ← spoken_getElem?]
        cases messages[i]? <;> rfl
    simp only [hquery, userFromEnd?_congr h, h]

namespace Alike

variable {c d : Conversation}

theorem olderStart (h : c.Alike d) : c.olderStart = d.olderStart := by
  rw [Conversation.olderStart, Conversation.olderStart, h.systemIndex]

theorem older (h : c.Alike d) : spoken c.older = spoken d.older := by
  have hsaid (c : Conversation) :
      spoken c.older =
        ((spoken c.messages).drop c.olderStart).take (c.recentStart - c.olderStart) := by
    rw [Conversation.older, spoken_take, spoken_drop]
  rw [hsaid, hsaid, h.messages, h.olderStart, h.recentStart]

theorem systemMessage (h : c.Alike d) : c.systemMessage.said = d.systemMessage.said := by
  have hsaid (c : Conversation) :
      c.systemMessage.said =
        (c.systemIndex.bind ((spoken c.messages)[·]?)).getD c.standIn.said := by
    unfold Conversation.systemMessage
    cases c.systemIndex with
    | none => rfl
    | some i =>
      rw [Option.bind_some, Option.bind_some, ← spoken_getElem?]
      cases c.messages[i]? <;> rfl
  rw [hsaid, hsaid, h.systemIndex, h.standIn, h.messages]

theorem assembled (h : c.Alike d) : spoken c.assembled = spoken d.assembled := by
  unfold Conversation.assembled hasSystemMessage
  rw [h.systemIndex, h.standIn]
  split
  · rw [spoken_cons, spoken_cons, h.messages]
  · exact h.messages

/-- The system messages are edited in ways that say the same, and a stand-in in one way. -/
theorem editSystem (h : c.Alike d) {f g : Message → Message}
    (hfg : ∀ m m', m.said = m'.said → (f m).said = (g m').said)
    (hstandIn : c.systemIndex = none → f c.standIn = g d.standIn) :
    (c.editSystem f).Alike (d.editSystem g) := by
  unfold Conversation.editSystem
  rw [← h.systemIndex]
  cases hindex : c.systemIndex with
  | none => exact { h with systemIndex := rfl, standIn := hstandIn hindex }
  | some i => exact { h with systemIndex := rfl, messages := spoken_modify h.messages i hfg }

/-- The last user messages are edited in ways that say the same, or there are none. -/
theorem editLastUser? (h : c.Alike d) {f g : Message → Message}
    (hfg : ∀ m m', m.said = m'.said → (f m).said = (g m').said) :
    c.editLastUser? f = none ∧ d.editLastUser? g = none ∨
      ∃ c' d', c.editLastUser? f = some c' ∧ d.editLastUser? g = some d' ∧ c'.Alike d' := by
  unfold Conversation.editLastUser?
  rw [← h.lastUserIndex]
  cases c.lastUserIndex with
  | none => exact Or.inl ⟨rfl, rfl⟩
  | some i =>
    refine Or.inr ⟨_, _, rfl, rfl, ?_⟩
    exact { h with lastUserIndex := rfl, messages := spoken_modify h.messages i hfg }

theorem replaceOlder (h : c.Alike d) (m : Message) :
    (c.replaceOlder m).1 = (d.replaceOlder m).1 ∧
      (c.replaceOlder m).2.Alike (d.replaceOlder m).2 := by
  simp only [Conversation.replaceOlder, ← h.recentStart, ← h.olderStart]
  split
  · exact ⟨rfl, h⟩
  · -- the same positions are replaced, so the rest says the same on both sides of the replacement
    have hindex := h.lastUserIndex
    refine ⟨rfl, { h with messages := ?_, recentStart := rfl, lastUserIndex := by rw [hindex] }⟩
    simp only [spoken_append, spoken_cons, spoken_take, spoken_drop, h.messages]

end Alike

end Conversation

end PromptBudget
