import PromptBudget.Proofs.Cutting
import PromptBudget.Proofs.Parsing

/-!
# PromptBudget — positions stay right

A conversation is edited in any order: its system message is rewritten, cut or added to, its last
user message is added to or rewritten, and its older part is replaced by one message, perhaps more
than once. Through all of this the positions keep pointing where they are to point.

The proof does not follow positions. One edit of a sound outline gives a sound outline
(`Edit.outline?_follows`); a list of edits does so by induction (`Edit.run?_follows`); and what a
sound outline says of its conversation is read off at the end (`Outline.Follows.keepsPositions`).

Main results:

* `Edit.perform?_conversation` — an edit of joined parts is the edit of the outline, joined again.
* `Edit.run?_keepsPositions` — edits that fit never fail and keep the positions right.
-/

namespace PromptBudget

open Conversation (countUsers)

-- ---------------------------------------------------------------------------
-- Edits
-- ---------------------------------------------------------------------------

/-- An edit of a conversation. -/
inductive Edit where
  | setSystemText (text : String)
  | removeSystemText (start stop : Nat)
  | appendToSystem (b : Block)
  | appendToLastUser (b : Block)
  | editLastUser (f : Message → Message)
  | replaceOlder (m : Message)
  | setDiagnostics (d : Diagnostics)

namespace Edit

/-- The conversation after an edit; `none` if bytes are to be removed that are no part of the text.
Without a user message there is nothing to add to or to edit. -/
def perform? (c : Conversation) : Edit → Option Conversation
  | setSystemText text => some (c.setSystemText text)
  | removeSystemText start stop => c.removeSystemText? start stop
  | appendToSystem b => some (c.appendToSystem b)
  | appendToLastUser b => some ((c.appendToLastUser b).toOption.getD c)
  | editLastUser f => some ((c.editLastUser? f).getD c)
  | replaceOlder m => some (c.replaceOlder m).2
  | setDiagnostics d => some { c with diagnostics := d }

/-- The conversation after some edits, one after another. -/
def run? (c : Conversation) (edits : List Edit) : Option Conversation := edits.foldlM perform? c

/-- What an edit has to respect: removed bytes are a part of the system text, an edited message
keeps its role, and no system message takes the place of the older part. -/
def Fits (c : Conversation) : Edit → Prop
  | removeSystemText start stop => Text.IsPart start stop c.systemMessage.text.toList
  | editLastUser f => ∀ m, (f m).role = m.role
  | replaceOlder m => m.role ≠ .system
  | _ => True

/-- Each of some edits fits the conversation that those before it leave. -/
def AllFit (c : Conversation) : List Edit → Prop
  | [] => True
  | e :: edits => e.Fits c ∧ ∀ d, e.perform? c = some d → AllFit d edits

/-- The outline after an edit. -/
def outline? (o : Outline) : Edit → Option Outline
  | setSystemText text => some (o.editSystem fun m => { m with content := .plain text })
  | removeSystemText start stop =>
    (o.opening.systemMessage.content.removeText? start stop).map fun content =>
      o.editSystem fun m => { m with content }
  | appendToSystem b => some (o.editSystem (·.push b))
  | appendToLastUser b => some (o.editLastUser (·.push b))
  | editLastUser f => some (o.editLastUser f)
  | replaceOlder m => some (if o.older = [] then o else o.replaceOlder m)
  | setDiagnostics d => some (o.withDiagnostics d)

end Edit

/-- Edits of joined parts are edits of the outline. -/
theorem Edit.perform?_conversation (o : Outline) (e : Edit) :
    e.perform? o.conversation = (e.outline? o).map Outline.conversation := by
  cases e with
  | setSystemText text => exact congrArg some (o.editSystem_conversation _)
  | removeSystemText start stop =>
    simp only [perform?, outline?, Conversation.removeSystemText?,
      Outline.systemMessage_conversation, Outline.editSystem_conversation, Option.map_map]
    rfl
  | appendToSystem b => exact congrArg some (o.editSystem_conversation _)
  | appendToLastUser b =>
    -- without a user message neither side changes anything
    simp only [perform?, outline?, Outline.appendToLastUser_conversation, Option.map_some]
    cases h : o.lastUser? with
    | none => rw [o.editLastUser_of_none h]; rfl
    | some m => rfl
  | editLastUser f =>
    simp only [perform?, outline?, Outline.editLastUser?_conversation, Option.map_some]
    cases h : o.lastUser? with
    | none => rw [o.editLastUser_of_none h]; rfl
    | some m => rfl
  | replaceOlder m =>
    simp only [perform?, outline?, Outline.replaceOlder_conversation, Option.map_some]
    split <;> rfl
  | setDiagnostics d => rfl

-- ---------------------------------------------------------------------------
-- What edits keep
-- ---------------------------------------------------------------------------

namespace Outline

theorem countUsers_eq_count_roles (messages : List Message) :
    countUsers messages = (roles messages).count .user := by
  simp [countUsers, roles, List.count, List.countP_map, Message.isUser, Function.comp_def]

/-- A sound outline that has come out of another by edits that fit: it has a last user message if
the other has one, as many user messages in its recent part, and the same query. -/
structure Follows (o o' : Outline) : Prop where
  sound : o'.Sound
  lastUser? : o'.lastUser?.isSome = o.lastUser?.isSome
  countUsers : countUsers o'.recent.messages = countUsers o.recent.messages
  query : o'.query = o.query

theorem Follows.refl {o : Outline} (ho : o.Sound) : o.Follows o := ⟨ho, rfl, rfl, rfl⟩

theorem Follows.trans {o₁ o₂ o₃ : Outline} (h : o₁.Follows o₂) (h' : o₂.Follows o₃) :
    o₁.Follows o₃ :=
  ⟨h'.sound, h'.lastUser?.trans h.lastUser?, h'.countUsers.trans h.countUsers,
    h'.query.trans h.query⟩

theorem lastUser?_editSystem (o : Outline) (f : Message → Message) :
    (o.editSystem f).lastUser? = o.lastUser? := by
  cases h : o.opening <;> simp [lastUser?, editSystem, h, Opening.editSystem, Opening.marked?]

theorem lastUser?_editLastUser (o : Outline) (f : Message → Message) :
    (o.editLastUser f).lastUser? = o.lastUser?.map f := by
  cases hrecent : o.recent.marked with
  | some m => simp [lastUser?, editLastUser, hrecent, Segment.edit]
  | none =>
    cases h : o.opening <;> simp [lastUser?, editLastUser, hrecent, h, Opening.editMarked,
      Opening.marked?, Segment.edit]

theorem roles_recent_editLastUser (o : Outline) {f : Message → Message}
    (hf : ∀ m, (f m).role = m.role) :
    roles (o.editLastUser f).recent.messages = roles o.recent.messages := by
  unfold editLastUser
  split
  · exact Segment.roles_edit o.recent hf
  · rfl

theorem Sound.follows_editSystem {o : Outline} (ho : o.Sound) {f : Message → Message}
    (hf : ∀ m, (f m).role = m.role) : o.Follows (o.editSystem f) :=
  ⟨ho.editSystem hf, by rw [lastUser?_editSystem], rfl, rfl⟩

theorem Sound.follows_editLastUser {o : Outline} (ho : o.Sound) {f : Message → Message}
    (hf : ∀ m, (f m).role = m.role) : o.Follows (o.editLastUser f) where
  sound := ho.editLastUser hf
  lastUser? := by rw [lastUser?_editLastUser, Option.isSome_map]
  countUsers := by
    rw [countUsers_eq_count_roles, roles_recent_editLastUser o hf, ← countUsers_eq_count_roles]
  query := query_editLastUser o f

end Outline

/-- An edit that fits succeeds and keeps an outline sound. -/
theorem Edit.outline?_follows {o : Outline} (ho : o.Sound) {e : Edit} (he : e.Fits o.conversation) :
    ∃ o', e.outline? o = some o' ∧ o.Follows o' := by
  cases e with
  | setSystemText text => exact ⟨_, rfl, ho.follows_editSystem fun _ => rfl⟩
  | removeSystemText start stop =>
    simp only [Edit.Fits, Outline.systemMessage_conversation] at he
    obtain ⟨content, hcontent⟩ := Content.removeText?_of_isPart he
    exact ⟨o.editSystem fun m => { m with content },
      by simp only [Edit.outline?, hcontent, Option.map_some], ho.follows_editSystem fun _ => rfl⟩
  | appendToSystem b => exact ⟨_, rfl, ho.follows_editSystem fun _ => rfl⟩
  | appendToLastUser b => exact ⟨_, rfl, ho.follows_editLastUser fun _ => rfl⟩
  | editLastUser f => exact ⟨_, rfl, ho.follows_editLastUser he⟩
  | replaceOlder m =>
    by_cases holder : o.older = []
    · exact ⟨o, by simp only [Edit.outline?, if_pos holder], .refl ho⟩
    · exact ⟨_, by simp only [Edit.outline?, if_neg holder],
        ho.replaceOlder holder he, rfl, rfl, rfl⟩
  | setDiagnostics d => exact ⟨_, rfl, ho.withDiagnostics d, rfl, rfl, rfl⟩

/-- Edits that fit succeed and keep an outline sound. -/
theorem Edit.run?_follows {o : Outline} (ho : o.Sound) {edits : List Edit}
    (hedits : Edit.AllFit o.conversation edits) :
    ∃ o', Edit.run? o.conversation edits = some o'.conversation ∧ o.Follows o' := by
  induction edits generalizing o with
  | nil => exact ⟨o, rfl, .refl ho⟩
  | cons e edits ih =>
    -- soundness carries the induction: the next edit fits what this one has left
    obtain ⟨o₁, hstep, hfollows⟩ := Edit.outline?_follows ho hedits.1
    have hone : e.perform? o.conversation = some o₁.conversation := by
      rw [Edit.perform?_conversation, hstep]; rfl
    obtain ⟨o₂, hrun, hrest⟩ := ih hfollows.sound (hedits.2 _ hone)
    refine ⟨o₂, ?_, hfollows.trans hrest⟩
    rw [Edit.run?, List.foldlM_cons, hone]
    exact hrun

-- ---------------------------------------------------------------------------
-- Positions
-- ---------------------------------------------------------------------------

/-- The positions of a conversation point where they are to point, and its recent part is still that
of the conversation `c` that it came from. -/
structure Conversation.KeepsPositions (c d : Conversation) : Prop where
  olderStart_le : d.olderStart ≤ d.recentStart
  recentStart_le : d.recentStart ≤ d.messages.length
  /-- The system message is the first one, or the stand-in exactly if there is none. -/
  systemMessage : d.systemMessage = (d.messages.find? (·.isSystem)).getD d.standIn
  hasSystemMessage : d.hasSystemMessage = d.messages.any (·.isSystem)
  /-- The last user message is the last one of the user, and no other comes after its position. -/
  lastUser? : d.lastUser? = d.messages.reverse.find? (·.isUser)
  lastUserIndex : ∀ i, d.lastUserIndex = some i → ∀ m ∈ d.messages.drop (i + 1), m.isUser = false
  /-- There is one exactly if there was one at first. -/
  lastUser?_eq_none : d.lastUser? = none ↔ ∀ m ∈ c.messages, m.isUser = false
  /-- It is not in the older part, so replacing the older part does not lose it. -/
  outside : ∀ i, d.lastUserIndex = some i → i < d.olderStart ∨ d.recentStart ≤ i
  /-- Behind the older part it has room to move up by what is replaced. -/
  room : ∀ i, d.lastUserIndex = some i → d.recentStart ≤ i → d.recentStart - d.olderStart ≤ i + 1
  replaceOlder : ∀ m, (d.replaceOlder m).2.lastUserIndex.isSome = d.lastUserIndex.isSome
  /-- A recent part after an older part starts with a user message. -/
  recent : d.older ≠ [] → ∃ m rest, d.recent = m :: rest ∧ m.isUser = true
  countUsers_recent : countUsers d.recent = countUsers c.recent
  query : d.query = c.query

namespace Outline

/-- A conversation without a marked message has no user message. -/
theorem Sound.no_users {o : Outline} (ho : o.Sound) (h : o.lastUser? = none) :
    ∀ m ∈ o.conversation.messages, m.isUser = false := by
  have hindex := lastUserIndex_of_none o h
  rw [ho.lastUserIndex_eq, Conversation.userFromEnd?_eq _ (Nat.le_refl 1)] at hindex
  refine Conversation.countUsers_eq_zero.1 ?_
  split at hindex
  · cases hindex
  · omega

/-- The marked message is a user message, and no other comes after it. -/
theorem Sound.exists_split {o : Outline} (ho : o.Sound) {m : Message} (h : o.lastUser? = some m) :
    ∃ front back, o.conversation.messages = front ++ m :: back ∧
      o.conversation.lastUserIndex = some front.length ∧
      m.isUser = true ∧ ∀ x ∈ back, x.isUser = false := by
  obtain ⟨front, back, hmessages, hindex, -⟩ := exists_split_of_lastUser? o h
  have hposition := hindex
  rw [ho.lastUserIndex_eq] at hposition
  obtain ⟨front', m', back', hsplit, hlength, huser, hlast⟩ :=
    Conversation.exists_split_of_userFromEnd?_one hposition
  obtain ⟨rfl, htail⟩ := List.append_inj (hmessages.symm.trans hsplit) hlength.symm
  obtain ⟨rfl, rfl⟩ := List.cons.inj htail
  exact ⟨front, back, hmessages, hindex, huser, hlast⟩

theorem Sound.lastUser?_eq_none {o : Outline} (ho : o.Sound) :
    o.lastUser? = none ↔ ∀ m ∈ o.conversation.messages, m.isUser = false := by
  refine ⟨ho.no_users, fun hnone => ?_⟩
  cases h : o.lastUser? with
  | none => rfl
  | some m =>
    obtain ⟨front, back, hmessages, -, hm, -⟩ := ho.exists_split h
    rw [hnone m (by rw [hmessages]; simp)] at hm
    cases hm

/-- What a sound outline that comes from another says of the positions. -/
theorem Follows.keepsPositions {o o' : Outline} (ho : o.Sound) (h : o.Follows o') :
    o.conversation.KeepsPositions o'.conversation where
  olderStart_le := by simp
  recentStart_le := by simp
  systemMessage := by
    rw [Conversation.systemMessage, h.sound.systemIndex_eq, List.find?_eq_bind_findIdx?_getElem?]
  hasSystemMessage := by
    rw [Conversation.hasSystemMessage, h.sound.systemIndex_eq, List.findIdx?_isSome]
  lastUser? := by
    rw [lastUser?_conversation]
    cases hlast : o'.lastUser? with
    | none =>
      refine (List.find?_eq_none.2 fun m hm => ?_).symm
      rw [h.sound.no_users hlast m (List.mem_reverse.1 hm)]
      exact Bool.false_ne_true
    | some m =>
      obtain ⟨front, back, hmessages, -, hm, hback⟩ := h.sound.exists_split hlast
      have hnone : back.reverse.find? (·.isUser) = none :=
        List.find?_eq_none.2 fun x hx => by
          rw [hback x (List.mem_reverse.1 hx)]
          exact Bool.false_ne_true
      simp [hmessages, List.find?_append, hnone, hm, -messages_conversation]
  lastUserIndex i hi := by
    cases hlast : o'.lastUser? with
    | none => rw [lastUserIndex_of_none o' hlast] at hi; cases hi
    | some m =>
      obtain ⟨front, back, hmessages, hindex, -, hback⟩ := h.sound.exists_split hlast
      obtain rfl := Option.some.inj (hindex.symm.trans hi)
      intro x hx
      rw [hmessages, ← List.singleton_append, ← List.append_assoc, List.drop_left' (by simp)] at hx
      exact hback x hx
  lastUser?_eq_none := by
    rw [lastUser?_conversation, ← ho.lastUser?_eq_none, ← Option.not_isSome_iff_eq_none,
      h.lastUser?, Option.not_isSome_iff_eq_none]
  outside i hi := by
    simpa using lastUserIndex_outside o' hi
  room i _ hle := by omega
  replaceOlder m := by
    rw [replaceOlder_conversation]
    split
    · rfl
    · rw [isSome_lastUserIndex, isSome_lastUserIndex]
      rfl
  recent hne := by
    rw [older_conversation] at hne
    have hhead := h.sound.older hne
    rw [recent_conversation]
    cases hrecent : o'.recent.messages with
    | nil => simp [hrecent, roles] at hhead
    | cons m rest =>
      refine ⟨m, rest, rfl, ?_⟩
      simp only [hrecent, roles, List.map_cons, List.head?_cons, Option.some.injEq] at hhead
      simp [Message.isUser, hhead]
  countUsers_recent := by
    rw [recent_conversation, recent_conversation, h.countUsers]
  query := h.query

end Outline

/-- Whatever edits are made one after another, as long as each fits the conversation that it finds:
none of them fails, and the positions of the conversation that they leave are right. -/
theorem Edit.run?_keepsPositions {messages : List Message} (hne : messages ≠ []) (window : Nat) :
    ∃ c, Conversation.ofMessages? messages window = .ok c ∧ c.messages = messages ∧
      ∀ edits, Edit.AllFit c edits → ∃ d, Edit.run? c edits = some d ∧ c.KeepsPositions d := by
  have ho := Outline.sound_ofMessages messages window
  refine ⟨_, Outline.ofMessages?_eq hne window, Outline.messages_ofMessages messages window,
    fun edits hedits => ?_⟩
  obtain ⟨o, hrun, hfollows⟩ := Edit.run?_follows ho hedits
  exact ⟨o.conversation, hrun, hfollows.keepsPositions ho⟩

/-- Edits of a request whose system message is not the first. The older part is replaced a second
time. -/
theorem Edit.run?_keepsPositions_twice :
    ([.user (.plain "Hi"), .system (.plain "Rules"), .user (.plain "Go"),
      .assistant (.plain "Done"), .user (.plain "Why?")] : List Message) ≠ [] ∧
      ∃ c d, Conversation.ofMessages? [.user (.plain "Hi"), .system (.plain "Rules"),
        .user (.plain "Go"), .assistant (.plain "Done"), .user (.plain "Why?")] 1 = .ok c ∧
        Edit.run? c [.removeSystemText 0 1, .replaceOlder (.user (.plain "Summary")),
          .appendToLastUser (.ofText "Docs"), .replaceOlder (.assistant (.plain "Shorter"))] =
          some d ∧ c.KeepsPositions d := by
  refine ⟨List.cons_ne_nil _ _, ?_⟩
  obtain ⟨c, hc, -, hrun⟩ :=
    @Edit.run?_keepsPositions [.user (.plain "Hi"), .system (.plain "Rules"), .user (.plain "Go"),
      .assistant (.plain "Done"), .user (.plain "Why?")] (List.cons_ne_nil _ _) 1
  have hpart : Text.IsPart 0 1 c.systemMessage.text.toList := by
    obtain rfl := Except.ok.inj hc
    exact ⟨[], ['R'], "ules".toList, rfl, rfl, rfl⟩
  obtain ⟨d, hd, hkeeps⟩ := hrun [.removeSystemText 0 1, .replaceOlder (.user (.plain "Summary")),
    .appendToLastUser (.ofText "Docs"), .replaceOlder (.assistant (.plain "Shorter"))]
    ⟨hpart, fun _ _ => ⟨nofun, fun _ _ => ⟨trivial, fun _ _ => ⟨nofun, fun _ _ => trivial⟩⟩⟩⟩
  exact ⟨c, d, hc, hd, hkeeps⟩

end PromptBudget
