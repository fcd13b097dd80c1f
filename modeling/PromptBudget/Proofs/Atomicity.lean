import PromptBudget.Proofs.Edits
import PromptBudget.Proofs.StageEffects

/-!
# PromptBudget — stages do all or nothing

A stage that fails, or that says that it did not change the conversation, leaves the conversation as
it found it, in every part. A stage that says that it changed it has changed what is sent. This
holds of every conversation that edits and stages can lead to, not only of fresh ones: such a
conversation is always joined from parts (`Conversation.Reachable.exists_outline`), and on parts the
effect of a stage is known (`Stage.Kind.effect`). That a stage which fails has done nothing is due
to the order in which it does things: no edit is taken back when a later one fails.

Main results:

* `Conversation.Reachable.exists_outline` — what edits and stages lead to is joined from parts.
* `Conversation.Reachable.no_users` — without a last user message there is no user message.
* `Stage.Kind.Changes.assembled_ne` — the edits of a stage change what is sent.
* `Conversation.Reachable.run_atomic` — a stage keeps the whole conversation or changes what is
  sent.
-/

namespace PromptBudget

-- ---------------------------------------------------------------------------
-- Reachable conversations
-- ---------------------------------------------------------------------------

/-- A conversation that edits and stages, in any order, lead to. -/
inductive Conversation.Reachable : Conversation → Prop where
  | fresh {messages : List Message} {window : Nat} {c : Conversation}
      (h : Conversation.ofMessages? messages window = .ok c) : Reachable c
  | edited {c d : Conversation} (hc : Reachable c) (e : Edit) (h : e.perform? c = some d) :
      Reachable d
  | staged {c : Conversation} (hc : Reachable c) (k : Stage.Kind) (context : RequestContext)
      (now : Moment) :
      Reachable (k.stage.run c context now).conversation

theorem Outline.marked_of_lastUser? {o : Outline} (h : o.lastUser? = none) :
    o.recent.marked = none := by
  unfold lastUser? at h
  split at h
  · cases h
  · assumption

/-- Without a user message an edit has nothing to lose: the outline stays sound, whether the edit
fits or not. -/
theorem Edit.sound_of_outline? {o o' : Outline} {e : Edit} (h : e.outline? o = some o')
    (ho : o.lastUser? = none → o.Sound) (hnone : o'.lastUser? = none) : o'.Sound := by
  have hsystem {f : Message → Message} (hf : ∀ m, (f m).role = m.role)
      (hnone : (o.editSystem f).lastUser? = none) : (o.editSystem f).Sound := by
    rw [Outline.lastUser?_editSystem] at hnone
    exact (ho hnone).editSystem hf
  have hlast {f : Message → Message} (hnone : (o.editLastUser f).lastUser? = none) :
      (o.editLastUser f).Sound := by
    rw [Outline.lastUser?_editLastUser, Option.map_eq_none_iff] at hnone
    rw [o.editLastUser_of_none hnone]
    exact ho hnone
  cases e with
  | setSystemText text =>
    obtain rfl := Option.some.inj h
    exact hsystem (fun _ => rfl) hnone
  | removeSystemText start stop =>
    obtain ⟨content, -, rfl⟩ := Option.map_eq_some_iff.1 h
    exact hsystem (fun _ => rfl) hnone
  | appendToSystem b =>
    obtain rfl := Option.some.inj h
    exact hsystem (fun _ => rfl) hnone
  | appendToLastUser b =>
    obtain rfl := Option.some.inj h
    exact hlast hnone
  | editLastUser f =>
    obtain rfl := Option.some.inj h
    exact hlast hnone
  | replaceOlder m =>
    obtain rfl := Option.some.inj h
    by_cases holder : o.older = []
    · rw [if_pos holder] at hnone ⊢
      exact ho hnone
    · -- an older part has a user message after it
      rw [if_neg holder] at hnone
      exact absurd ((ho hnone).older_eq_nil (Outline.marked_of_lastUser? hnone)) holder
  | setDiagnostics d =>
    obtain rfl := Option.some.inj h
    exact (ho hnone).withDiagnostics d

theorem Stage.Kind.Changes.lastUser?_of_none {k : Stage.Kind} {o o' : Outline}
    (h : k.Changes o o') (hnone : o'.lastUser? = none) : o.lastUser? = none := by
  cases h with
  | toolDocs =>
    rwa [Outline.lastUser?_editSystem, Outline.lastUser?_editLastUser,
      Option.map_eq_none_iff] at hnone
  | loopBreak => rwa [Outline.lastUser?_editLastUser, Option.map_eq_none_iff] at hnone
  | passagesToUser passages =>
    have hedited : (o.editLastUser (·.push (Passages.block passages))).lastUser? = none := hnone
    rwa [Outline.lastUser?_editLastUser, Option.map_eq_none_iff] at hedited
  | passagesToSystem passages =>
    have hedited : (o.editSystem (·.push (Passages.block passages))).lastUser? = none := hnone
    rwa [Outline.lastUser?_editSystem] at hedited
  | summary => exact hnone

/-- A fresh conversation is joined from sound parts. -/
theorem Conversation.exists_sound_of_ofMessages? {messages : List Message} {window : Nat}
    {c : Conversation} (h : ofMessages? messages window = .ok c) :
    ∃ o : Outline, c = o.conversation ∧ o.Sound := by
  have hne : messages ≠ [] := by
    rintro rfl
    rw [ofMessages?_nil] at h
    cases h
  rw [Outline.ofMessages?_eq hne] at h
  exact ⟨_, (Except.ok.inj h).symm, Outline.sound_ofMessages messages window⟩

/-- What edits and stages lead to is joined from parts. An edit can change who speaks in the last
user message, so the parts need not be sound; without such a message they are. -/
theorem Conversation.Reachable.exists_outline_sound {c : Conversation} (hc : c.Reachable) :
    ∃ o : Outline, c = o.conversation ∧ (o.lastUser? = none → o.Sound) := by
  induction hc with
  | fresh h =>
    obtain ⟨o, hjoined, ho⟩ := exists_sound_of_ofMessages? h
    exact ⟨o, hjoined, fun _ => ho⟩
  | edited _ e h ih =>
    obtain ⟨o, rfl, ho⟩ := ih
    rw [Edit.perform?_conversation] at h
    obtain ⟨o', hedit, rfl⟩ := Option.map_eq_some_iff.1 h
    exact ⟨o', rfl, Edit.sound_of_outline? hedit ho⟩
  | staged _ k context now ih =>
    obtain ⟨o, rfl, ho⟩ := ih
    cases k.effect o context now with
    | kept _ hconversation => exact ⟨o, hconversation, ho⟩
    | changed o' _ hchanges hconversation =>
      exact ⟨o', hconversation, fun hnone => hchanges.sound (ho (hchanges.lastUser?_of_none hnone))⟩

theorem Conversation.Reachable.exists_outline {c : Conversation} (hc : c.Reachable) :
    ∃ o : Outline, c = o.conversation := by
  obtain ⟨o, hjoined, -⟩ := hc.exists_outline_sound
  exact ⟨o, hjoined⟩

/-- Without a last user message no message at all is from the user. -/
theorem Conversation.Reachable.no_users {c : Conversation} (hc : c.Reachable)
    (h : c.lastUser? = none) : ∀ m ∈ c.messages, m.isUser = false := by
  obtain ⟨o, rfl, ho⟩ := hc.exists_outline_sound
  rw [Outline.lastUser?_conversation] at h
  exact (ho h).no_users h

-- ---------------------------------------------------------------------------
-- What is sent changes
-- ---------------------------------------------------------------------------

theorem Message.push_ne (m : Message) (b : Block) : m.push b ≠ m := by
  intro h
  have hcontent : m.content.pushed b = m.content := congrArg Message.content h
  cases hm : m.content with
  | plain s => rw [hm] at hcontent; cases hcontent
  | blocks bs =>
    rw [hm] at hcontent
    have hlength := congrArg List.length (Content.blocks.inj hcontent)
    simp [Content.toBlocks] at hlength

namespace Outline

theorem lastUserIndex_editLastUser (f : Message → Message) (o : Outline) :
    (o.editLastUser f).conversation.lastUserIndex = o.conversation.lastUserIndex := by
  cases h : o.lastUser? with
  | none => rw [o.editLastUser_of_none h]
  | some m =>
    obtain ⟨front, back, -, -, hedit⟩ := exists_split_of_lastUser? o h
    rw [hedit]

theorem lastUserIndex_editSystem (f : Message → Message) (o : Outline) :
    (o.editSystem f).conversation.lastUserIndex = o.conversation.lastUserIndex := by
  rw [← editSystem_conversation, Conversation.editSystem]
  split <;> rfl

theorem length_messages_editLastUser (f : Message → Message) (o : Outline) :
    (o.editLastUser f).conversation.messages.length = o.conversation.messages.length := by
  cases h : o.lastUser? with
  | none => rw [o.editLastUser_of_none h]
  | some m =>
    obtain ⟨front, back, hmessages, -, hedit⟩ := exists_split_of_lastUser? o h
    rw [hedit, hmessages]
    simp

theorem length_messages_editSystem (f : Message → Message) (o : Outline) :
    (o.editSystem f).conversation.messages.length = o.conversation.messages.length := by
  rw [← editSystem_conversation, Conversation.editSystem]
  split
  · exact List.length_modify ..
  · rfl

/-- Edits in place that change the last user message change what is sent: a stand-in in front cannot
make up for it, since no message has come or gone behind it. -/
theorem assembled_ne_of_lastUser? {o o' : Outline}
    (hlength : o'.conversation.messages.length = o.conversation.messages.length)
    (hindex : o'.conversation.lastUserIndex = o.conversation.lastUserIndex)
    (hlast : o'.lastUser? ≠ o.lastUser?) : o'.assembled ≠ o.assembled := by
  intro h
  have hsent (o : Outline) : o.assembled = o.opening.sent ++ o.conversation.messages := by
    simp [assembled]
  rw [hsent, hsent] at h
  have hmessages : o'.conversation.messages = o.conversation.messages :=
    (List.append_inj' h hlength).2
  refine hlast ?_
  rw [← lastUser?_conversation, ← lastUser?_conversation, Conversation.lastUser?,
    Conversation.lastUser?, hindex, hmessages]

/-- A block for the system message is sent, be it with a stand-in that was not sent before. -/
theorem assembled_ne_of_push (o : Outline) (b : Block) :
    (o.editSystem (·.push b)).assembled ≠ o.assembled := by
  intro h
  unfold assembled at h
  cases hopening : o.opening with
  | standIn m =>
    have hholds : (m.push b).content.isEmpty = false := by
      simp [Message.push, Content.pushed, Content.isEmpty]
    simp only [editSystem, hopening, Opening.editSystem, Opening.sent, Opening.messages, hholds,
      Bool.false_eq_true, if_false, List.append_nil, List.append_cancel_right_eq] at h
    split at h
    · cases h
    · exact m.push_ne b (List.cons.inj h).1
  | real lead m =>
    simp only [editSystem, hopening, Opening.editSystem, Opening.sent, Opening.messages,
      List.nil_append, List.append_cancel_right_eq, List.append_cancel_left_eq] at h
    exact m.push_ne b (List.cons.inj h).1

theorem assembled_ne_of_replaceOlder (o : Outline) (m : Message) (h : o.older ≠ [m]) :
    (o.replaceOlder m).assembled ≠ o.assembled := by
  intro heq
  simp only [assembled, replaceOlder, List.append_cancel_right_eq,
    List.append_cancel_left_eq] at heq
  exact h heq.symm

end Outline

namespace Stage.Kind

/-- The edits of a stage change what is sent. For a summary the older part must not hold one yet: it
might be the same. -/
theorem Changes.assembled_ne {k : Kind} {o o' : Outline} (h : k.Changes o o')
    (hsummary : k.replacesOlder = true → ∀ m ∈ o.older, m.isSummary = false) :
      o'.assembled ≠ o.assembled := by
  -- an edited last user message is another message
  have hlast {b : Block} (hsome : o.lastUser?.isSome = true) :
      o.lastUser?.map (·.push b) ≠ o.lastUser? := by
    obtain ⟨m, hm⟩ := Option.isSome_iff_exists.1 hsome
    rw [hm, Option.map_some]
    exact fun heq => m.push_ne b (Option.some.inj heq)
  have huser (b : Block) (hsome : o.lastUser?.isSome = true) :
      (o.editLastUser (·.push b)).assembled ≠ o.assembled :=
    Outline.assembled_ne_of_lastUser? (o.length_messages_editLastUser _)
      (o.lastUserIndex_editLastUser _)
      (by rw [Outline.lastUser?_editLastUser]; exact hlast hsome)
  cases h with
  | toolDocs found content hsome =>
    refine Outline.assembled_ne_of_lastUser? ?_ ?_ ?_
    · rw [Outline.length_messages_editSystem, Outline.length_messages_editLastUser]
    · rw [Outline.lastUserIndex_editSystem, Outline.lastUserIndex_editLastUser]
    · rw [Outline.lastUser?_editSystem, Outline.lastUser?_editLastUser]
      exact hlast hsome
  | loopBreak hsome => exact huser _ hsome
  | passagesToUser passages hsome => exact huser _ hsome
  | passagesToSystem passages => exact o.assembled_ne_of_push _
  | summary summary stats =>
    refine o.assembled_ne_of_replaceOlder _ fun holder => ?_
    have hfresh := hsummary rfl (Summary.summaryMessage summary)
      (by rw [holder]; exact List.mem_singleton.2 rfl)
    rw [Summary.origin_summaryMessage] at hfresh
    cases hfresh

end Stage.Kind

/-- A stage that fails or that says that it changed nothing has left the whole conversation alone,
with its positions and its diagnostics. A stage that says that it changed something has changed what
is sent, unless it replaced a summary by a summary. -/
theorem Conversation.Reachable.run_atomic {c : Conversation} (hc : c.Reachable) (k : Stage.Kind)
    (context : RequestContext) (now : Moment) :
    ((∃ e, (k.stage.run c context now).result = .error e) ∨
      (k.stage.run c context now).result = .ok false →
      (k.stage.run c context now).conversation = c) ∧
    ((k.stage.run c context now).result = .ok true →
      (k.replacesOlder = true → ∀ m ∈ c.older, m.isSummary = false) →
        (k.stage.run c context now).conversation.assembled ≠ c.assembled) := by
  obtain ⟨o, rfl⟩ := hc.exists_outline
  cases k.effect o context now with
  | kept hresult hconversation =>
    refine ⟨fun _ => hconversation, fun hchanged => ?_⟩
    rcases hresult with hresult | ⟨e, hresult, -⟩ <;> rw [hresult] at hchanged <;> cases hchanged
  | changed o' hresult hchanges hconversation =>
    constructor
    · rintro (⟨e, hfailed⟩ | hfailed)
      · rw [hresult] at hfailed; cases hfailed
      · rw [hresult] at hfailed; cases hfailed
    · intro _ hsummary
      rw [hconversation, Outline.assembled_conversation, Outline.assembled_conversation]
      refine hchanges.assembled_ne ?_
      rwa [Outline.older_conversation] at hsummary

/-- A conversation over its budget stays as it is if the generator takes no requests, and gets
shorter if it answers. Documentation stays in the system message if there is nobody to give it
to. -/
theorem Conversation.Reachable.run_atomic_summary :
    let refusing : Stage.Kind := .summary ⟨fun _ _ _ _ => .refused .rateLimited⟩ 0 60 .heuristic
    let answering : Stage.Kind :=
      .summary ⟨fun _ _ _ _ => { answer := some { after := 1, result := .ok "Short" } }⟩ 0 60
        .heuristic
    let moving : Stage.Kind := .toolDocs { start := "[", stop := "]" }
    (∃ c, Conversation.ofMessages? [.user (.plain "Go"), .assistant (.plain "Done"),
        .user (.plain "Why?")] 1 = .ok c ∧
      c.Reachable ∧
      (refusing.stage.run c {} 0).result = .error (.service .rateLimited) ∧
      (refusing.stage.run c {} 0).conversation = c ∧
      (answering.stage.run c {} 0).result = .ok true ∧ (∀ m ∈ c.older, m.isSummary = false) ∧
      (answering.stage.run c {} 0).conversation.assembled ≠ c.assembled) ∧
    ∃ c, Conversation.ofMessages? [.system (.plain "Use [cut] it")] 1 = .ok c ∧
      (moving.stage.run c {} 0).result = .error (.degraded "no user message to append to") ∧
      (moving.stage.run c {} 0).conversation = c := by
  intro refusing answering moving
  constructor
  · obtain ⟨c, hc⟩ : ∃ c, Conversation.ofMessages?
        [.user (.plain "Go"), .assistant (.plain "Done"), .user (.plain "Why?")] 1 = .ok c :=
      ⟨_, rfl⟩
    have hfailed : (refusing.stage.run c {} 0).result = .error (.service .rateLimited) := by
      obtain rfl := Except.ok.inj hc
      rfl
    have hchanged : (answering.stage.run c {} 0).result = .ok true := by
      obtain rfl := Except.ok.inj hc
      rfl
    have hfresh : ∀ m ∈ c.older, m.isSummary = false := by
      obtain rfl := Except.ok.inj hc
      decide
    exact ⟨c, hc, .fresh hc, hfailed,
      (run_atomic (.fresh hc) refusing {} 0).1 (Or.inl ⟨_, hfailed⟩), hchanged, hfresh,
      (run_atomic (.fresh hc) answering {} 0).2 hchanged fun _ => hfresh⟩
  · obtain ⟨c, hc⟩ : ∃ c,
        Conversation.ofMessages? [.system (.plain "Use [cut] it")] 1 = .ok c := ⟨_, rfl⟩
    have hfailed : (moving.stage.run c {} 0).result =
        .error (.degraded "no user message to append to") := by
      obtain rfl := Except.ok.inj hc
      rfl
    exact ⟨c, hc, hfailed, (run_atomic (.fresh hc) moving {} 0).1 (Or.inl ⟨_, hfailed⟩)⟩

end PromptBudget
