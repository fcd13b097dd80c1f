import PromptBudget.Proofs.Parts

/-!
# PromptBudget — a conversation without positions

A `Conversation` is one list with positions in it. An `Outline` keeps its parts apart: what comes
before the history with the system message, the older part, and the recent part; the last user
message is marked where it stands. An edit of an outline touches the part that it names and nothing
else, and no position has to be shifted.

`Outline.conversation` joins the parts and computes the positions. Every operation of a
conversation on joined parts is the operation of the outline, joined again, so whatever is to be
shown of conversations can be shown of outlines.

Main results:

* `Outline.editSystem_conversation`, `Outline.editLastUser?_conversation`,
  `Outline.replaceOlder_conversation` — the edits of a conversation are those of its outline.
* `Outline.assembled_conversation` — the messages to send, part by part.
* `Outline.Sound.systemIndex_eq`, `Outline.Sound.lastUserIndex_eq` — in a sound outline the
  positions are those of the first system message and of the last user message.
-/

namespace PromptBudget

open Conversation (userFromEnd? countUsers)

theorem modify_append_cons (front : List α) (x : α) (back : List α) (f : α → α) :
    (front ++ x :: back).modify front.length f = front ++ f x :: back := by
  induction front with
  | nil => rfl
  | cons y front ih => simp only [List.cons_append, List.length_cons, List.modify_succ_cons, ih]

-- ---------------------------------------------------------------------------
-- Outlines
-- ---------------------------------------------------------------------------

/-- A conversation in its parts. -/
structure Outline where
  /-- What comes before the history, with the system message. -/
  opening : Opening
  /-- The older part. -/
  older : List Message
  /-- The recent part. -/
  recent : Segment
  /-- What the user asked last, before anything was added to it. -/
  query : String
  /-- What is known about the stages that ran. -/
  diagnostics : Diagnostics := {}

namespace Outline

/-- The conversation of the parts. If messages are marked before and after the older part, the last
user message is the one after it. -/
def conversation (o : Outline) : Conversation where
  messages := o.opening.messages ++ o.older ++ o.recent.messages
  systemIndex := o.opening.systemIndex
  standIn := o.opening.standInMessage
  recentStart := (o.opening.messages ++ o.older).length
  lastUserIndex :=
    match o.recent.marked with
    | some _ => some ((o.opening.messages ++ o.older).length + o.recent.before.length)
    | none => o.opening.markedIndex
  query := o.query
  diagnostics := o.diagnostics

/-- The last user message. -/
def lastUser? (o : Outline) : Option Message :=
  match o.recent.marked with
  | some m => some m
  | none => o.opening.marked?

/-- The messages to send. -/
def assembled (o : Outline) : List Message :=
  o.opening.sent ++ o.opening.messages ++ o.older ++ o.recent.messages

/-- The outline with its system message edited. -/
def editSystem (f : Message → Message) (o : Outline) : Outline :=
  { o with opening := o.opening.editSystem f }

/-- The outline with its last user message edited. -/
def editLastUser (f : Message → Message) (o : Outline) : Outline :=
  match o.recent.marked with
  | some _ => { o with recent := o.recent.edit f }
  | none => { o with opening := o.opening.editMarked f }

/-- The outline with one message in the place of its older part. -/
def replaceOlder (m : Message) (o : Outline) : Outline := { o with older := [m] }

/-- The outline with other diagnostics. -/
def withDiagnostics (d : Diagnostics) (o : Outline) : Outline := { o with diagnostics := d }

-- ---------------------------------------------------------------------------
-- Reading the parts of a conversation
-- ---------------------------------------------------------------------------

variable (o : Outline)

@[simp] theorem messages_conversation :
    o.conversation.messages = o.opening.messages ++ o.older ++ o.recent.messages := rfl

@[simp] theorem systemIndex_conversation : o.conversation.systemIndex = o.opening.systemIndex := rfl

@[simp] theorem standIn_conversation : o.conversation.standIn = o.opening.standInMessage := rfl

@[simp] theorem recentStart_conversation :
    o.conversation.recentStart = (o.opening.messages ++ o.older).length := rfl

@[simp] theorem query_conversation : o.conversation.query = o.query := rfl

@[simp] theorem diagnostics_conversation : o.conversation.diagnostics = o.diagnostics := rfl

@[simp] theorem olderStart_conversation : o.conversation.olderStart = o.opening.messages.length :=
  (Opening.length_messages o.opening).symm

@[simp] theorem older_conversation : o.conversation.older = o.older := by
  simp [Conversation.older, List.append_assoc]

@[simp] theorem recent_conversation : o.conversation.recent = o.recent.messages := by
  simp only [Conversation.recent, recentStart_conversation, messages_conversation, List.drop_left]

@[simp] theorem systemMessage_conversation :
    o.conversation.systemMessage = o.opening.systemMessage := by
  cases h : o.opening <;> simp [Conversation.systemMessage, h, Opening.systemIndex,
    Opening.systemMessage, Opening.messages, Opening.standInMessage]

@[simp] theorem assembled_conversation : o.conversation.assembled = o.assembled := by
  cases h : o.opening with
  | standIn m =>
    have hnone : o.conversation.hasSystemMessage = false := by
      simp [Conversation.hasSystemMessage, h, Opening.systemIndex]
    simp only [Conversation.assembled, hnone, standIn_conversation, messages_conversation,
      assembled, h, Opening.standInMessage, Opening.sent, Opening.messages]
    cases m.content.isEmpty <;> rfl
  | real lead m =>
    have hsome : o.conversation.hasSystemMessage = true := by
      simp [Conversation.hasSystemMessage, h, Opening.systemIndex]
    simp only [Conversation.assembled, hsome, assembled, h, Opening.sent, messages_conversation]
    rfl

theorem lastUserIndex_of_none (h : o.lastUser? = none) : o.conversation.lastUserIndex = none := by
  unfold lastUser? at h
  split at h
  · cases h
  · next hrecent =>
    cases hopening : o.opening with
    | standIn m => simp only [conversation, hrecent, hopening, Opening.markedIndex]
    | real lead m =>
      rw [hopening] at h
      simp only [conversation, hrecent, hopening, Opening.markedIndex, Option.map_eq_none_iff]
      exact h

/-- The last user message stands somewhere in the list, at the position that the conversation has
for it, and editing it changes nothing else there. -/
theorem exists_split_of_lastUser? {m : Message} (h : o.lastUser? = some m) :
    ∃ front back, o.conversation.messages = front ++ m :: back ∧
      o.conversation.lastUserIndex = some front.length ∧
      ∀ f, (o.editLastUser f).conversation =
        { o.conversation with messages := front ++ f m :: back } := by
  unfold lastUser? at h
  split at h
  · next x hrecent =>
    obtain rfl := Option.some.inj h
    refine ⟨o.opening.messages ++ o.older ++ o.recent.before, o.recent.after, ?_, ?_, fun f => ?_⟩
    · simp [Segment.messages, hrecent]
    · simp [conversation, hrecent, Nat.add_assoc]
    · simp [conversation, editLastUser, hrecent, Segment.edit, Segment.messages]
  · next hrecent =>
    -- then it is before the history
    cases hopening : o.opening with
    | standIn x => rw [hopening] at h; cases h
    | real lead x =>
      rw [hopening] at h
      have hlead : lead.marked = some m := h
      refine ⟨lead.before, lead.after ++ x :: o.older ++ o.recent.messages, ?_, ?_, fun f => ?_⟩
      · simp [hopening, Opening.messages, Segment.messages, hlead]
      · simp [conversation, hrecent, hopening, Opening.markedIndex, hlead]
      · simp [conversation, editLastUser, hrecent, hopening, Opening.editMarked, Opening.messages,
          Opening.systemIndex, Opening.standInMessage, Opening.markedIndex, Segment.edit,
          Segment.messages, hlead]

@[simp] theorem lastUser?_conversation : o.conversation.lastUser? = o.lastUser? := by
  cases h : o.lastUser? with
  | none => simp only [Conversation.lastUser?, lastUserIndex_of_none o h, Option.bind_none]
  | some m =>
    obtain ⟨front, back, hmessages, hindex, -⟩ := exists_split_of_lastUser? o h
    simp [Conversation.lastUser?, hindex, hmessages, -messages_conversation]

-- ---------------------------------------------------------------------------
-- Editing the parts of a conversation
-- ---------------------------------------------------------------------------

theorem editSystem_conversation (f : Message → Message) :
    o.conversation.editSystem f = (o.editSystem f).conversation := by
  cases h : o.opening with
  | standIn m =>
    simp [Conversation.editSystem, conversation, editSystem, h, Opening.systemIndex,
      Opening.editSystem, Opening.messages, Opening.standInMessage, Opening.markedIndex]
  | real lead m =>
    have hmessages :
        o.conversation.messages = lead.messages ++ m :: (o.older ++ o.recent.messages) := by
      simp [h, Opening.messages]
    rw [Conversation.editSystem, systemIndex_conversation, h, hmessages]
    simp only [Opening.systemIndex, modify_append_cons]
    simp [conversation, editSystem, h, Opening.systemIndex, Opening.editSystem, Opening.messages,
      Opening.standInMessage, Opening.markedIndex]

theorem editLastUser?_conversation (f : Message → Message) :
    o.conversation.editLastUser? f = o.lastUser?.map fun _ => (o.editLastUser f).conversation := by
  cases h : o.lastUser? with
  | none => simp only [Conversation.editLastUser?, lastUserIndex_of_none o h, Option.map_none]
  | some m =>
    obtain ⟨front, back, hmessages, hindex, hedit⟩ := exists_split_of_lastUser? o h
    simp only [Conversation.editLastUser?, hindex, Option.map_some, hedit, hmessages,
      modify_append_cons]

/-- Editing the last user message leaves the system message alone. -/
theorem systemMessage_editLastUser (f : Message → Message) :
    (o.editLastUser f).opening.systemMessage = o.opening.systemMessage := by
  unfold editLastUser
  split
  · rfl
  · cases h : o.opening <;> rfl

theorem older_editLastUser (f : Message → Message) : (o.editLastUser f).older = o.older := by
  unfold editLastUser
  split <;> rfl

theorem query_editLastUser (f : Message → Message) : (o.editLastUser f).query = o.query := by
  unfold editLastUser
  split <;> rfl

theorem diagnostics_editLastUser (f : Message → Message) :
    (o.editLastUser f).diagnostics = o.diagnostics := by
  unfold editLastUser
  split <;> rfl

theorem isSome_lastUserIndex : o.conversation.lastUserIndex.isSome = o.lastUser?.isSome := by
  cases h : o.lastUser? with
  | none => rw [lastUserIndex_of_none o h]; rfl
  | some m =>
    obtain ⟨front, back, -, hindex, -⟩ := exists_split_of_lastUser? o h
    rw [hindex]
    rfl

theorem editLastUser_of_none (h : o.lastUser? = none) (f : Message → Message) :
    o.editLastUser f = o := by
  unfold lastUser? at h
  unfold editLastUser
  split at h
  · cases h
  · simp only [Opening.editMarked_of_none h]

/-- Adding to the last user message edits it, or fails if there is none. -/
theorem appendToLastUser_conversation (b : Block) :
    o.conversation.appendToLastUser b =
      if o.lastUser?.isSome then .ok (o.editLastUser (·.push b)).conversation
      else .error (.degraded "no user message to append to") := by
  rw [Conversation.appendToLastUser, editLastUser?_conversation]
  cases o.lastUser? <;> rfl

/-- A record only touches the diagnostics. -/
theorem addRecord_conversation (r : StageRecord) :
    o.conversation.addRecord r = (o.withDiagnostics (o.diagnostics.add r)).conversation := rfl

/-- The mark before the history is before the older part. -/
theorem lt_of_markedIndex {opening : Opening} {i : Nat} (h : opening.markedIndex = some i) :
    i < opening.messages.length := by
  cases opening with
  | standIn m => cases h
  | real lead m =>
    obtain ⟨x, hx, rfl⟩ := Option.map_eq_some_iff.1 h
    simp [Opening.messages, Segment.messages, hx]

/-- The last user message is not in the older part. -/
theorem lastUserIndex_outside {i : Nat} (h : o.conversation.lastUserIndex = some i) :
    i < o.opening.messages.length ∨ (o.opening.messages ++ o.older).length ≤ i := by
  simp only [conversation] at h
  split at h
  · obtain rfl := Option.some.inj h
    exact Or.inr (Nat.le_add_right _ _)
  · exact Or.inl (lt_of_markedIndex h)

/-- An older part that is replaced has a new place for each position after it. -/
theorem lastUserIndex_replaceOlder (m : Message) :
    (o.replaceOlder m).conversation.lastUserIndex = o.conversation.lastUserIndex.bind fun i =>
      if (o.opening.messages ++ o.older).length ≤ i then some (i + 1 - o.older.length)
      else if i < o.opening.messages.length then some i else none := by
  cases hrecent : o.recent.marked with
  | some x =>
    simp [conversation, replaceOlder, hrecent]
    omega
  | none =>
    cases hindex : o.opening.markedIndex with
    | none => simp [conversation, replaceOlder, hrecent, hindex]
    | some i =>
      have hlt := lt_of_markedIndex hindex
      simp [conversation, replaceOlder, hrecent, hindex, hlt]
      omega

theorem replaceOlder_conversation (m : Message) :
    o.conversation.replaceOlder m =
      (o.older.length,
        if o.older = [] then o.conversation else (o.replaceOlder m).conversation) := by
  have hreplaced : o.conversation.recentStart - o.conversation.olderStart = o.older.length := by
    simp
  unfold Conversation.replaceOlder
  rw [hreplaced]
  by_cases hnone : o.older = []
  · -- an empty part is not replaced
    simp [hnone]
  · have hpos : o.older.length ≠ 0 := fun h => hnone (List.length_eq_zero_iff.1 h)
    have hindex := lastUserIndex_replaceOlder o m
    simp only [if_neg hnone, if_neg hpos, Prod.mk.injEq, true_and]
    rw [olderStart_conversation, recentStart_conversation, ← hindex]
    simp [conversation, replaceOlder]

-- ---------------------------------------------------------------------------
-- Sound outlines
-- ---------------------------------------------------------------------------

/-- The marks of an outline say what the positions of a conversation are to say. -/
structure Sound : Prop where
  /-- What comes before the history is sound. -/
  opening : o.opening.Sound
  /-- The stand-in is the only system message if there is one. -/
  alone : o.opening.systemIndex = none → .system ∉ roles (o.older ++ o.recent.messages)
  /-- The last user message of the recent part is marked. -/
  recent : o.recent.MarksLastUser
  /-- A recent part after an older part starts with a user message. -/
  older : o.older ≠ [] → (roles o.recent.messages).head? = some .user

variable {o}

theorem Sound.systemIndex_eq (ho : o.Sound) :
    o.conversation.systemIndex = o.conversation.messages.findIdx? (·.isSystem) := by
  cases hopening : o.opening with
  | standIn m =>
    -- everything is in the history, and no message there is a system message
    have halone := ho.alone (by rw [hopening]; rfl)
    rw [systemIndex_conversation, hopening]
    refine (List.findIdx?_eq_none_iff.2 fun x hx => ?_).symm
    refine isSystem_eq_false_of_roles halone x ?_
    simpa [hopening, Opening.messages] using hx
  | real lead m =>
    -- the search passes the messages before it and stops at the system message
    obtain ⟨hm, hlead, -⟩ := hopening ▸ ho.opening
    have hnone : lead.messages.findIdx? (·.isSystem) = none :=
      List.findIdx?_eq_none_iff.2 (isSystem_eq_false_of_roles hlead)
    have hm : m.isSystem = true := by simp [Message.isSystem, hm]
    simp [hopening, Opening.systemIndex, Opening.messages, hnone, List.findIdx?_cons, hm]

/-- There is no older part without a user message after it. -/
theorem Sound.older_eq_nil (ho : o.Sound) (h : o.recent.marked = none) : o.older = [] := by
  by_cases holder : o.older = []
  · exact holder
  · have hhead := ho.older holder
    have hnone : countUsers o.recent.messages = 0 := by
      have := mt ho.recent.one_le_countUsers.1 (by simp [h])
      omega
    cases hrecent : o.recent.messages with
    | nil => simp [hrecent, roles] at hhead
    | cons m rest =>
      simp only [hrecent, roles, List.map_cons, List.head?_cons, Option.some.injEq] at hhead
      have := Conversation.countUsers_eq_zero.1 hnone m (by simp [hrecent])
      simp [Message.isUser, hhead] at this

theorem Sound.lastUserIndex_eq (ho : o.Sound) :
    o.conversation.lastUserIndex = userFromEnd? o.conversation.messages 1 := by
  rw [messages_conversation, Conversation.userFromEnd?_append _ _ (Nat.le_refl 1),
    ho.recent.userFromEnd?_eq]
  cases hrecent : o.recent.marked with
  | some m =>
    rw [if_pos (ho.recent.one_le_countUsers.2 (by simp [hrecent]))]
    simp [conversation, hrecent]
    omega
  | none =>
    -- without a user message in the recent part there is no older part either, so the search
    -- goes on before the history
    have hfew := mt ho.recent.one_le_countUsers.1 (by simp [hrecent])
    have hzero : countUsers o.recent.messages = 0 := by omega
    rw [if_neg hfew, hzero, ho.older_eq_nil hrecent, List.append_nil]
    cases hopening : o.opening with
    | standIn m => simp [conversation, hrecent, hopening, Opening.markedIndex, Opening.messages,
        Conversation.userFromEnd?, Conversation.userPositions]
    | real lead m =>
      obtain ⟨hm, -, hlead⟩ := hopening ▸ ho.opening
      have hm : countUsers [m] = 0 := by simp [Conversation.countUsers_cons, Message.isUser, hm]
      simp only [conversation, hrecent, hopening, Opening.markedIndex, Opening.messages]
      rw [Conversation.userFromEnd?_append _ _ (by omega), hm, if_neg (by omega),
        hlead.userFromEnd?_eq]

theorem Sound.editSystem (ho : o.Sound) {f : Message → Message} (hf : ∀ m, (f m).role = m.role) :
    (o.editSystem f).Sound where
  opening := ho.opening.editSystem hf
  alone h := ho.alone ((o.opening.systemIndex_editSystem f).symm.trans h)
  recent := ho.recent
  older := ho.older

theorem Sound.editLastUser (ho : o.Sound) {f : Message → Message} (hf : ∀ m, (f m).role = m.role) :
    (o.editLastUser f).Sound := by
  unfold Outline.editLastUser
  split
  · exact {
      opening := ho.opening
      alone := fun h => by simpa [Segment.roles_edit _ hf] using ho.alone h
      recent := ho.recent.edit hf
      older := fun h => by simpa [Segment.roles_edit _ hf] using ho.older h }
  · exact {
      opening := ho.opening.editMarked hf
      alone := fun h => ho.alone ((o.opening.systemIndex_editMarked f).symm.trans h)
      recent := ho.recent
      older := ho.older }

theorem Sound.replaceOlder (ho : o.Sound) (holder : o.older ≠ []) {m : Message}
    (hm : m.role ≠ .system) : (o.replaceOlder m).Sound where
  opening := ho.opening
  alone h := by
    have := ho.alone h
    simp only [roles_append, List.mem_append, not_or] at this
    simpa [Outline.replaceOlder, roles, hm.symm] using this.2
  recent := ho.recent
  older _ := ho.older holder

theorem Sound.withDiagnostics (ho : o.Sound) (d : Diagnostics) : (o.withDiagnostics d).Sound :=
  ⟨ho.opening, ho.alone, ho.recent, ho.older⟩

end Outline

end PromptBudget
