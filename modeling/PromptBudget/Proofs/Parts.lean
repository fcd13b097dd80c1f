import PromptBudget.Proofs.Windows

/-!
# PromptBudget — segments and openings

The parts that a conversation is made of. A `Segment` is some messages of which one may be marked,
so that the last user message is known without counting. An `Opening` is what comes before the
history: the messages before the system message with the system message, or a stand-in if there is
none.

Main results:

* `Segment.messages_ofMessages`, `Segment.marksLastUser_ofMessages` — the last user message of some
  messages can be marked.
* `Segment.MarksLastUser.userFromEnd?_eq` — where it is marked, it is found by position.
-/

namespace PromptBudget

open Conversation (userFromEnd? countUsers)

/-- Who speaks in some messages, one after another. -/
def roles (messages : List Message) : List Role := messages.map (·.role)

@[simp] theorem roles_append (a b : List Message) :
    roles (a ++ b) = roles a ++ roles b :=
  List.map_append

theorem isSystem_eq_false_of_roles {messages : List Message} (h : .system ∉ roles messages) :
    ∀ m ∈ messages, m.isSystem = false := by
  intro m hm
  simp only [Message.isSystem, beq_eq_false_iff_ne]
  exact fun heq => h (List.mem_map.2 ⟨m, hm, heq⟩)

-- ---------------------------------------------------------------------------
-- Segments
-- ---------------------------------------------------------------------------

/-- Some messages of which one may be marked. -/
structure Segment where
  /-- The messages before the marked one. -/
  before : List Message
  /-- The marked message. -/
  marked : Option Message
  /-- The messages after the marked one. -/
  after : List Message

namespace Segment

/-- The messages in order. -/
def messages (s : Segment) : List Message := s.before ++ s.marked.toList ++ s.after

/-- The segment with its marked message edited. -/
def edit (f : Message → Message) (s : Segment) : Segment := { s with marked := s.marked.map f }

/-- Some messages with the last user message marked. -/
def ofMessages : List Message → Segment
  | [] => { before := [], marked := none, after := [] }
  | m :: rest =>
    if (ofMessages rest).marked.isSome || !m.isUser then
      { ofMessages rest with before := m :: (ofMessages rest).before }
    else { before := [], marked := some m, after := rest }

/-- The marked message is the last one of the user. -/
structure MarksLastUser (s : Segment) : Prop where
  marked : ∀ m ∈ s.marked, m.isUser = true
  after : ∀ m ∈ s.after, m.isUser = false
  before : s.marked = none → ∀ m ∈ s.before, m.isUser = false

theorem messages_ofMessages (messages : List Message) :
    (ofMessages messages).messages = messages := by
  induction messages with
  | nil => rfl
  | cons m rest ih =>
    unfold ofMessages
    split
    · simpa only [Segment.messages, List.cons_append, List.cons.injEq, true_and] using ih
    · rfl

theorem marksLastUser_ofMessages (messages : List Message) :
    (ofMessages messages).MarksLastUser := by
  induction messages with
  | nil => exact ⟨by simp [ofMessages], by simp [ofMessages], by simp [ofMessages]⟩
  | cons m rest ih =>
    unfold ofMessages
    split
    · next h =>
      refine ⟨ih.marked, ih.after, fun hnone x hx => ?_⟩
      rcases List.mem_cons.1 hx with rfl | hx
      · simpa [show (ofMessages rest).marked = none from hnone] using h
      · exact ih.before hnone x hx
    · next h =>
      -- no message after `m` is marked, so all of them are before the mark of the rest
      simp only [Bool.or_eq_true, Bool.not_eq_true', not_or, Bool.not_eq_true, Bool.not_eq_false,
        Option.isSome_eq_false_iff, Option.isNone_iff_eq_none] at h
      have hrest : ∀ x ∈ rest, x.isUser = false := by
        intro x hx
        rw [← messages_ofMessages rest] at hx
        simp only [Segment.messages, h.1, Option.toList_none, List.append_nil,
          List.mem_append] at hx
        exact hx.elim (ih.before h.1 x) (ih.after x)
      exact ⟨by simp [h.2], hrest, by simp⟩

theorem MarksLastUser.one_le_countUsers {s : Segment} (hs : s.MarksLastUser) :
    1 ≤ countUsers s.messages ↔ s.marked.isSome = true := by
  obtain ⟨before, marked, after⟩ := s
  cases marked with
  | none =>
    have hbefore := Conversation.countUsers_eq_zero.2 (hs.before rfl)
    have hafter := Conversation.countUsers_eq_zero.2 hs.after
    simp [messages] at hbefore hafter ⊢
    omega
  | some m =>
    have hm : m.isUser = true := hs.marked m rfl
    simp [messages, Conversation.countUsers_cons, hm]
    omega

theorem MarksLastUser.userFromEnd?_eq {s : Segment} (hs : s.MarksLastUser) :
    userFromEnd? s.messages 1 = s.marked.map fun _ => s.before.length := by
  have hafter := Conversation.countUsers_eq_zero.2 hs.after
  rw [messages, Conversation.userFromEnd?_append _ _ (Nat.le_refl 1), hafter, if_neg (by omega)]
  cases hmarked : s.marked with
  | none =>
    have hbefore := Conversation.countUsers_eq_zero.2 (hs.before hmarked)
    rw [Option.toList_none, List.append_nil, Conversation.userFromEnd?_eq _ (by omega), hbefore,
      if_neg (by omega)]
    rfl
  | some m =>
    have hm : countUsers [m] = 1 := by
      simp [Conversation.countUsers_cons, hs.marked m (hmarked ▸ rfl)]
    rw [Option.toList_some, Conversation.userFromEnd?_append _ _ (by omega),
      Conversation.userFromEnd?_singleton m (by omega), hm, if_pos (by omega), if_pos (by omega)]
    simp

theorem edit_id (s : Segment) : s.edit id = s := by
  rw [edit, Option.map_id_fun, id]

theorem edit_of_none {s : Segment} (h : s.marked = none) (f : Message → Message) :
    s.edit f = s := by
  obtain ⟨before, marked, after⟩ := s
  simp only at h
  rw [h]
  rfl

theorem MarksLastUser.edit {s : Segment} (hs : s.MarksLastUser) {f : Message → Message}
    (hf : ∀ m, (f m).role = m.role) : (s.edit f).MarksLastUser where
  marked m hm := by
    obtain ⟨x, hx, rfl⟩ := Option.map_eq_some_iff.1 hm
    have := hs.marked x hx
    simpa only [Message.isUser, hf] using this
  after := hs.after
  before h := hs.before (Option.map_eq_none_iff.1 h)

/-- Editing the marked message and keeping its role keeps all roles. -/
theorem roles_edit (s : Segment) {f : Message → Message} (hf : ∀ m, (f m).role = m.role) :
    roles (s.edit f).messages = roles s.messages := by
  obtain ⟨before, marked, after⟩ := s
  cases marked <;> simp [messages, Segment.edit, roles, hf]

end Segment

-- ---------------------------------------------------------------------------
-- What comes before the history
-- ---------------------------------------------------------------------------

/-- What comes before the history of a conversation. -/
inductive Opening where
  /-- There is no system message; an empty one stands in for it. -/
  | standIn (m : Message)
  /-- The messages before the system message, and the system message. -/
  | real (lead : Segment) (m : Message)

namespace Opening

/-- The messages in order. -/
def messages : Opening → List Message
  | standIn _ => []
  | real lead m => lead.messages ++ [m]

/-- The messages before the system message. -/
def lead : Opening → List Message
  | standIn _ => []
  | real lead _ => lead.messages

/-- The system message, if it is real. -/
def real? : Opening → Option Message
  | standIn _ => none
  | real _ m => some m

/-- The system message, or the one that stands in for it. -/
def systemMessage : Opening → Message
  | standIn m => m
  | real _ m => m

/-- The stand-in. A conversation with a system message has one as well, which nothing touches. -/
def standInMessage : Opening → Message
  | standIn m => m
  | real _ _ => .system (.plain "")

/-- The stand-in if it is to be sent. -/
def sent : Opening → List Message
  | standIn m => if m.content.isEmpty then [] else [m]
  | real _ _ => []

/-- Where the system message is. -/
def systemIndex : Opening → Option Nat
  | standIn _ => none
  | real lead _ => some lead.messages.length

/-- The marked message. -/
def marked? : Opening → Option Message
  | standIn _ => none
  | real lead _ => lead.marked

/-- Where the marked message is. -/
def markedIndex : Opening → Option Nat
  | standIn _ => none
  | real lead _ => lead.marked.map fun _ => lead.before.length

/-- The opening with its system message edited. -/
def editSystem (f : Message → Message) : Opening → Opening
  | standIn m => standIn (f m)
  | real lead m => real lead (f m)

/-- The opening with its marked message edited. -/
def editMarked (f : Message → Message) : Opening → Opening
  | standIn m => standIn m
  | real lead m => real (lead.edit f) m

/-- The system message is the first one, and the last user message before it is marked. -/
def Sound : Opening → Prop
  | standIn m => m.role = .system
  | real lead m => m.role = .system ∧ .system ∉ roles lead.messages ∧ lead.MarksLastUser

theorem length_messages (opening : Opening) :
    opening.messages.length = opening.systemIndex.elim 0 (· + 1) := by
  cases opening <;> simp [messages, systemIndex]

theorem messages_eq (opening : Opening) :
    opening.messages = opening.lead ++ opening.real?.toList := by
  cases opening <;> rfl

theorem systemIndex_editSystem (f : Message → Message) (opening : Opening) :
    (opening.editSystem f).systemIndex = opening.systemIndex := by
  cases opening <;> rfl

/-- The edited message stays where it is, and so does what is behind it. -/
theorem systemIndex_editMarked (f : Message → Message) (opening : Opening) :
    (opening.editMarked f).systemIndex = opening.systemIndex := by
  cases opening with
  | standIn m => rfl
  | real lead m =>
    obtain ⟨before, marked, after⟩ := lead
    cases marked <;> simp [editMarked, systemIndex, Segment.messages, Segment.edit]

/-- Without a system message the stand-in takes its place. -/
theorem systemMessage_of_none {opening : Opening} (h : opening.systemIndex = none) :
    opening.systemMessage = opening.standInMessage := by
  cases opening with
  | standIn m => rfl
  | real lead m => cases h

theorem Sound.role_systemMessage {opening : Opening} (h : opening.Sound) :
    opening.systemMessage.role = .system := by
  cases opening with
  | standIn m => exact h
  | real lead m => exact h.1

theorem editMarked_of_none {opening : Opening} (h : opening.marked? = none)
    (f : Message → Message) :
    opening.editMarked f = opening := by
  cases opening with
  | standIn m => rfl
  | real lead m =>
    have hlead : lead.marked.map f = lead.marked := by
      rw [show lead.marked = none from h, Option.map_none]
    simp only [editMarked, Segment.edit, hlead]

theorem Sound.editSystem {opening : Opening} (h : opening.Sound) {f : Message → Message}
    (hf : ∀ m, (f m).role = m.role) : (opening.editSystem f).Sound := by
  cases opening with
  | standIn m => exact (hf m).trans h
  | real lead m => exact ⟨(hf m).trans h.1, h.2⟩

theorem Sound.editMarked {opening : Opening} (h : opening.Sound) {f : Message → Message}
    (hf : ∀ m, (f m).role = m.role) : (opening.editMarked f).Sound := by
  cases opening with
  | standIn m => exact h
  | real lead m => exact ⟨h.1, by rw [Segment.roles_edit lead hf]; exact h.2.1, h.2.2.edit hf⟩

end Opening

end PromptBudget
