import PromptBudget.Proofs.Edits
import PromptBudget.Proofs.Plans

/-!
# PromptBudget — tool results stay with their calls

The result of a tool means nothing without the call before it. So if each tool message stands right
after a message of the assistant, or after another tool message, it still does when the request has
been arranged, and after the same message.

Three kinds of edits could break this. Messages are edited, but only those of the user and of the
system, which no tool message stands after. The older part is cut out, but what comes after it
starts with a user message (`Outline.Sound.older`). And a system message may come in front, where no
tool message can be first.

Main results:

* `ResultsFollow.toolResults_edit` — tool messages do not stand after what is edited.
* `Stage.Kind.Changes.keepsResults` — no stage parts a tool message from what is before it.
* `arrange_toolResults` — nor does a whole request: it only leaves out results with their calls.
-/

namespace PromptBudget

-- ---------------------------------------------------------------------------
-- Tool messages and what is before them
-- ---------------------------------------------------------------------------

/-- Whether a tool message may stand right after a message with this role. -/
def Role.precedesResults : Role → Bool
  | assistant => true
  | tool => true
  | _ => false

/-- Each tool message stands right after a message of the assistant or of a tool. -/
def ResultsFollow (messages : List Message) : Prop :=
  ∀ before m after, messages = before ++ m :: after → m.role = .tool →
    ∃ caller, before.getLast? = some caller ∧ caller.role.precedesResults = true

/-- The tool messages, each with the message right before it. For the first message this is the
given one. -/
def toolResults (previous : Option Message) : List Message → List (Option Message × Message)
  | [] => []
  | m :: rest => (if m.role = .tool then [(previous, m)] else []) ++ toolResults (some m) rest

theorem mem_toolResults {previous caller : Option Message} {m : Message} {messages : List Message} :
    (caller, m) ∈ toolResults previous messages ↔ m.role = .tool ∧
      ∃ before after, messages = before ++ m :: after ∧ caller = before.getLast?.or previous := by
  induction messages generalizing previous with
  | nil =>
    constructor
    · nofun
    · rintro ⟨-, before, after, hsplit, -⟩
      simp at hsplit
  | cons x rest ih =>
    rw [toolResults, List.mem_append, ih]
    constructor
    · rintro (hfirst | ⟨htool, before, after, rfl, rfl⟩)
      · split at hfirst
        · next htool =>
          obtain ⟨rfl, rfl⟩ := Prod.mk.inj (List.mem_singleton.1 hfirst)
          exact ⟨htool, [], rest, rfl, rfl⟩
        · cases hfirst
      · refine ⟨htool, x :: before, after, rfl, ?_⟩
        rw [List.getLast?_cons]
        cases before.getLast? <;> rfl
    · rintro ⟨htool, before, after, hsplit, rfl⟩
      cases before with
      | nil =>
        obtain ⟨rfl, rfl⟩ := List.cons.inj hsplit
        left
        rw [if_pos htool]
        exact List.mem_singleton_self _
      | cons y before =>
        obtain ⟨rfl, rfl⟩ := List.cons.inj hsplit
        refine Or.inr ⟨htool, before, after, rfl, ?_⟩
        rw [List.getLast?_cons]
        cases before.getLast? <;> rfl

theorem resultsFollow_iff {messages : List Message} :
    ResultsFollow messages ↔
      ∀ r ∈ toolResults none messages, r.1.any (·.role.precedesResults) = true := by
  constructor
  · rintro h ⟨caller, m⟩ hr
    obtain ⟨htool, before, after, hsplit, rfl⟩ := mem_toolResults.1 hr
    obtain ⟨caller, hcaller, hrole⟩ := h before m after hsplit htool
    rw [hcaller]
    exact hrole
  · intro h before m after hsplit htool
    have hr : (before.getLast?, m) ∈ toolResults none messages :=
      mem_toolResults.2 ⟨htool, before, after, hsplit, Option.or_none.symm⟩
    obtain ⟨caller, hcaller, hrole⟩ := (Option.any_eq_true _ _).1 (h _ hr)
    exact ⟨caller, hcaller, hrole⟩

instance (messages : List Message) : Decidable (ResultsFollow messages) :=
  decidable_of_iff _ resultsFollow_iff.symm

/-- Leaving out tool messages together with what is before them does no harm. -/
theorem ResultsFollow.of_sublist {messages others : List Message} (h : ResultsFollow messages)
    (hothers : (toolResults none others).Sublist (toolResults none messages)) :
    ResultsFollow others :=
  resultsFollow_iff.2 fun r hr => resultsFollow_iff.1 h r (hothers.subset hr)

-- ---------------------------------------------------------------------------
-- Cutting and editing messages
-- ---------------------------------------------------------------------------

theorem toolResults_sublist_append (previous : Option Message) (front back : List Message) :
    (toolResults previous front).Sublist (toolResults previous (front ++ back)) := by
  induction front generalizing previous with
  | nil => exact List.nil_sublist _
  | cons m rest ih => exact (ih (some m)).append_left _

/-- A message that is not of a tool parts what is before it from what is after it. -/
theorem toolResults_append_cons (previous : Option Message) (front : List Message) {x : Message}
    (hx : x.role ≠ .tool) (back : List Message) :
    toolResults previous (front ++ x :: back) =
      toolResults previous front ++ toolResults (some x) back := by
  induction front generalizing previous with
  | nil =>
    show (if x.role = .tool then _ else _) ++ _ = _
    rw [if_neg hx]
    rfl
  | cons m rest ih =>
    show _ ++ toolResults (some m) (rest ++ x :: back) = _ ++ toolResults (some m) rest ++ _
    rw [ih (some m), List.append_assoc]

/-- If the first message is not of a tool, it does not matter what is before it. -/
theorem toolResults_congr {messages : List Message}
    (hhead : ∀ m rest, messages = m :: rest → m.role ≠ .tool) (previous other : Option Message) :
    toolResults previous messages = toolResults other messages := by
  cases messages with
  | nil => rfl
  | cons m rest =>
    have hm := hhead m rest rfl
    rw [toolResults, toolResults, if_neg hm, if_neg hm]

namespace ResultsFollow

variable {messages front back : List Message} {x y : Message}

theorem head_ne_tool (h : ResultsFollow messages) :
    ∀ m rest, messages = m :: rest → m.role ≠ .tool := by
  intro m rest hsplit htool
  obtain ⟨caller, hcaller, -⟩ := h [] m rest hsplit htool
  cases hcaller

/-- No tool message stands right after a message that is neither of the assistant nor of a tool. -/
theorem head_ne_tool_after (h : ResultsFollow (front ++ x :: back))
    (hx : x.role.precedesResults = false) : ∀ m rest, back = m :: rest → m.role ≠ .tool := by
  intro m rest hsplit htool
  have hwhole : front ++ x :: back = (front ++ [x]) ++ m :: rest := by
    rw [hsplit, List.append_assoc, List.singleton_append]
  obtain ⟨caller, hcaller, hrole⟩ := h (front ++ [x]) m rest hwhole htool
  rw [List.getLast?_concat] at hcaller
  obtain rfl := Option.some.inj hcaller
  rw [hx] at hrole
  cases hrole

/-- Such a message can be edited without touching a tool message or what is before it. -/
theorem toolResults_edit (h : ResultsFollow (front ++ x :: back))
    (hx : x.role.precedesResults = false) (hy : y.role = x.role) :
    toolResults none (front ++ y :: back) = toolResults none (front ++ x :: back) := by
  have hxtool : x.role ≠ .tool := by
    intro htool
    rw [htool] at hx
    cases hx
  have hytool : y.role ≠ .tool := by
    rw [hy]
    exact hxtool
  rw [toolResults_append_cons none front hxtool, toolResults_append_cons none front hytool,
    toolResults_congr (h.head_ne_tool_after hx) (some y) (some x)]

end ResultsFollow

-- ---------------------------------------------------------------------------
-- Edits of outlines
-- ---------------------------------------------------------------------------

namespace Outline

variable {o o' : Outline}

/-- A sound outline whose tool messages are some of those of another, each after the message that it
stood after. -/
structure KeepsResults (o o' : Outline) : Prop where
  sound : o'.Sound
  results : (toolResults none o'.conversation.messages).Sublist
    (toolResults none o.conversation.messages)

theorem KeepsResults.of_eq (ho : o'.Sound) (h : toolResults none o'.conversation.messages =
    toolResults none o.conversation.messages) : o.KeepsResults o' :=
  ⟨ho, h ▸ List.Sublist.refl _⟩

theorem KeepsResults.refl (ho : o.Sound) : o.KeepsResults o := .of_eq ho rfl

theorem KeepsResults.trans {o₁ o₂ o₃ : Outline} (h : o₁.KeepsResults o₂)
    (h' : o₂.KeepsResults o₃) : o₁.KeepsResults o₃ :=
  ⟨h'.sound, h'.results.trans h.results⟩

theorem KeepsResults.withDiagnostics (h : o.KeepsResults o') (d : Diagnostics) :
    o.KeepsResults (o'.withDiagnostics d) :=
  ⟨h.sound.withDiagnostics d, h.results⟩

theorem KeepsResults.follow (h : o.KeepsResults o')
    (hfollow : ResultsFollow o.conversation.messages) : ResultsFollow o'.conversation.messages :=
  hfollow.of_sublist h.results

/-- Editing the system message parts no tool message from what is before it. -/
theorem Sound.editSystem_keepsResults (ho : o.Sound)
    (hfollow : ResultsFollow o.conversation.messages) {f : Message → Message}
    (hf : ∀ m, (f m).role = m.role) : o.KeepsResults (o.editSystem f) := by
  refine .of_eq (ho.editSystem hf) ?_
  cases hopening : o.opening with
  | standIn m =>
    -- the stand-in is not among the messages
    rw [messages_conversation, messages_conversation, Outline.editSystem, hopening]
    rfl
  | real lead m =>
    have hm : m.role = .system := by
      have hrole := ho.opening.role_systemMessage
      rwa [hopening] at hrole
    have hmessages : o.conversation.messages =
        lead.messages ++ m :: (o.older ++ o.recent.messages) := by
      simp [hopening, Opening.messages]
    have hedited : (o.editSystem f).conversation.messages =
        lead.messages ++ f m :: (o.older ++ o.recent.messages) := by
      simp [Outline.editSystem, hopening, Opening.editSystem, Opening.messages]
    rw [hmessages] at hfollow
    rw [hmessages, hedited]
    exact hfollow.toolResults_edit (by rw [hm]; rfl) (hf m)

/-- Nor does editing the last user message. -/
theorem Sound.editLastUser_keepsResults (ho : o.Sound)
    (hfollow : ResultsFollow o.conversation.messages) {f : Message → Message}
    (hf : ∀ m, (f m).role = m.role) : o.KeepsResults (o.editLastUser f) := by
  refine .of_eq (ho.editLastUser hf) ?_
  cases hlast : o.lastUser? with
  | none => rw [o.editLastUser_of_none hlast]
  | some m =>
    obtain ⟨front, back, hmessages, -, hedit⟩ := o.exists_split_of_lastUser? hlast
    obtain ⟨_, _, -, -, huser, -⟩ := ho.exists_split hlast
    have hm : m.role = .user := by simpa [Message.isUser] using huser
    rw [hmessages] at hfollow
    rw [hedit, hmessages]
    exact hfollow.toolResults_edit (by rw [hm]; rfl) (hf m)

/-- Replacing the older part by a user message takes out tool messages together with what is before
them, because the recent part starts with a user message. -/
theorem Sound.replaceOlder_keepsResults (ho : o.Sound) (holder : o.older ≠ []) {m : Message}
    (hm : m.role = .user) : o.KeepsResults (o.replaceOlder m) := by
  refine ⟨ho.replaceOlder holder (by rw [hm]; decide), ?_⟩
  have hhead := ho.older holder
  cases hrecent : o.recent.messages with
  | nil =>
    rw [hrecent] at hhead
    cases hhead
  | cons u rest =>
    rw [hrecent] at hhead
    have hu : u.role ≠ .tool := by
      rw [show u.role = .user from Option.some.inj hhead]
      decide
    have hmtool : m.role ≠ .tool := by
      rw [hm]
      decide
    have hreplaced : (o.replaceOlder m).conversation.messages =
        o.opening.messages ++ m :: ([] ++ u :: rest) := by
      simp [Outline.replaceOlder, hrecent]
    rw [hreplaced, messages_conversation, hrecent, toolResults_append_cons none _ hmtool,
      toolResults_append_cons (some m) [] hu, toolResults_append_cons none _ hu]
    exact (toolResults_sublist_append none o.opening.messages o.older).append_right _

end Outline

-- ---------------------------------------------------------------------------
-- Stages
-- ---------------------------------------------------------------------------

/-- No stage parts a tool message from what is before it. -/
theorem Stage.Kind.Changes.keepsResults {k : Stage.Kind} {o o' : Outline} (ho : o.Sound)
    (hfollow : ResultsFollow o.conversation.messages) (h : k.Changes o o') :
    o.KeepsResults o' := by
  have hlast (b : Block) : o.KeepsResults (o.editLastUser (·.push b)) :=
    ho.editLastUser_keepsResults hfollow fun _ => rfl
  have hsystem (b : Block) : o.KeepsResults (o.editSystem (·.push b)) :=
    ho.editSystem_keepsResults hfollow fun _ => rfl
  cases h with
  | @toolDocs settings found content =>
    have hgiven := hlast (.ephemeral (String.ofList (ToolDocs.payload settings
      o.conversation.messages found.part)))
    exact hgiven.trans (hgiven.sound.editSystem_keepsResults (hgiven.follow hfollow) fun _ => rfl)
  | loopBreak => exact hlast _
  | passagesToUser => exact (hlast _).withDiagnostics _
  | passagesToSystem => exact (hsystem _).withDiagnostics _
  | summary summary stats holder =>
    exact (ho.replaceOlder_keepsResults holder rfl).withDiagnostics _

namespace Pipeline

theorem run_keepsResults {p : Progress} {o : Outline} (hp : p.conversation = o.conversation)
    (ho : o.Sound) (hfollow : ResultsFollow o.conversation.messages) (kinds : List Stage.Kind) :
    ∃ o', (run (kinds.map (·.stage)) p).conversation = o'.conversation ∧ o.KeepsResults o' := by
  induction kinds generalizing p o with
  | nil => exact ⟨o, hp, .refl ho⟩
  | cons k rest ih =>
    obtain ⟨o₁, hleaves, hstep⟩ := step_leaves hp k
    have hfirst : o.KeepsResults o₁ := by
      rcases hleaves.edits with ⟨-, rfl⟩ | ⟨-, hchanges⟩
      · exact .refl ho
      · exact hchanges.keepsResults ho hfollow
    have hrecorded := hfirst.withDiagnostics (o₁.diagnostics.add (p.recordOf k.stage))
    obtain ⟨o₂, hrun, hrest⟩ := ih hstep hrecorded.sound (hrecorded.follow hfollow)
    exact ⟨o₂, hrun, hrecorded.trans hrest⟩

end Pipeline

-- ---------------------------------------------------------------------------
-- Requests
-- ---------------------------------------------------------------------------

namespace Outline

theorem inLanguage_keepsResults {o : Outline} (ho : o.Sound)
    (hfollow : ResultsFollow o.conversation.messages) (language : Option String) :
    ∃ o', o.conversation.inLanguage language = o'.conversation ∧ o.KeepsResults o' := by
  cases language with
  | none => exact ⟨o, rfl, .refl ho⟩
  | some language =>
    exact ⟨_, o.editSystem_conversation (·.push (languageBlock language)),
      ho.editSystem_keepsResults hfollow fun _ => rfl⟩

/-- A stand-in is sent in front of the messages, where no tool message is first. -/
theorem toolResults_assembled {o : Outline} (ho : o.Sound)
    (hfollow : ResultsFollow o.conversation.messages) :
    toolResults none o.assembled = toolResults none o.conversation.messages := by
  have hassembled : o.assembled = o.opening.sent ++ o.conversation.messages := by
    simp only [assembled, messages_conversation, List.append_assoc]
  rw [hassembled]
  cases hopening : o.opening with
  | real lead m => rfl
  | standIn m =>
    rw [Opening.sent]
    split
    · rfl
    · have hm : m.role = .system := by
        have hrole := ho.opening.role_systemMessage
        rwa [hopening] at hrole
      calc toolResults none ([m] ++ o.conversation.messages)
          = toolResults (some m) o.conversation.messages :=
            toolResults_append_cons none [] (by rw [hm]; decide) _
        _ = toolResults none o.conversation.messages :=
            toolResults_congr hfollow.head_ne_tool _ _

end Outline

/-- If each tool message of a request stands right after a message of the assistant or of a tool, it
does so in what is sent, whatever the plan, and whatever its services do. What is sent has some of
the tool messages of the request, in their order, each after the same message. -/
theorem arrange_toolResults (plan : Plan) (identity : Identity) (services : Collaborators)
    (context : RequestContext) (now : Moment) {messages : List Message}
    (hfollow : ResultsFollow messages) :
    (messages = [] ∧ arrange plan identity services context now messages =
        .error (.malformedInput "empty message list")) ∨
      ∃ out, arrange plan identity services context now messages = .ok out ∧
        ResultsFollow out.messages ∧
        (toolResults none out.messages).Sublist (toolResults none messages) := by
  by_cases hne : messages = []
  · subst hne
    exact Or.inl ⟨rfl, arrange_nil plan identity services context now⟩
  · right
    obtain ⟨o, ho, hmessages, -, -, hout⟩ :=
      exists_arranged plan identity services context now hne
    rw [← hmessages] at hfollow
    obtain ⟨o₁, hrun, hstages⟩ := Pipeline.run_keepsResults
      (p := { conversation := o.conversation, context, now }) rfl ho hfollow
      (plan.kinds identity services)
    obtain ⟨o₂, hlanguage, hfinal⟩ :=
      Outline.inLanguage_keepsResults hstages.sound (hstages.follow hfollow) identity.language?
    generalize (Pipeline.run ((plan.kinds identity services).map (·.stage))
      { conversation := o.conversation, context, now }) = p at hrun hout
    generalize identity.language? = language at hlanguage hout
    have hsent : (p.arranged services.counter language messages).messages = o₂.assembled := by
      rw [← Outline.assembled_conversation, ← hlanguage, ← hrun]
      rfl
    have hkeeps := hstages.trans hfinal
    have hresults : (toolResults none
        (p.arranged services.counter language messages).messages).Sublist
        (toolResults none messages) := by
      rw [hsent, Outline.toolResults_assembled hkeeps.sound (hkeeps.follow hfollow), ← hmessages]
      exact hkeeps.results
    rw [hmessages] at hfollow
    exact ⟨_, hout, hfollow.of_sublist hresults, hresults⟩

/-- A summary takes out a call together with its result. The second call has two results. -/
theorem arrange_toolResults_calls :
    ResultsFollow [.user (.plain "Hi"), .assistant (.plain "Look"), .tool "1" (.plain "Found"),
        .user (.plain "Go"), .assistant (.plain "Run"), .tool "2" (.plain "Done"),
        .tool "3" (.plain "Failed")] ∧
      ∃ out, arrange { Settings.plan {} with recentWindow := 1, tokenThreshold := 0 }
          { language := "French" }
          { generator := ⟨fun _ _ _ _ => { answer := some { after := 1, result := .ok "Short" } }⟩ }
          {} 0
          [.user (.plain "Hi"), .assistant (.plain "Look"), .tool "1" (.plain "Found"),
            .user (.plain "Go"), .assistant (.plain "Run"), .tool "2" (.plain "Done"),
            .tool "3" (.plain "Failed")] = .ok out ∧
        ResultsFollow out.messages ∧
        (toolResults none out.messages).Sublist (toolResults none
          [.user (.plain "Hi"), .assistant (.plain "Look"), .tool "1" (.plain "Found"),
            .user (.plain "Go"), .assistant (.plain "Run"), .tool "2" (.plain "Done"),
            .tool "3" (.plain "Failed")]) := by
  have hfollow : ResultsFollow [.user (.plain "Hi"), .assistant (.plain "Look"),
      .tool "1" (.plain "Found"), .user (.plain "Go"), .assistant (.plain "Run"),
      .tool "2" (.plain "Done"), .tool "3" (.plain "Failed")] := by decide
  refine ⟨hfollow, ?_⟩
  rcases arrange_toolResults { Settings.plan {} with recentWindow := 1, tokenThreshold := 0 }
    { language := "French" }
    { generator := ⟨fun _ _ _ _ => { answer := some { after := 1, result := .ok "Short" } }⟩ }
    {} 0 hfollow with ⟨hnil, -⟩ | h
  · cases hnil
  · exact h

end PromptBudget
