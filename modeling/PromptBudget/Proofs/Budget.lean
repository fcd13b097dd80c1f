import PromptBudget.Proofs.Counters
import PromptBudget.Proofs.Frame
import PromptBudget.Proofs.Records

/-!
# PromptBudget — what a request costs in the end

The stage that compresses is the last one. It measures the conversation as it would be sent, and
does nothing if the cost is within the threshold or if there is nothing old. After it only the
language of the answers is said: this adds a text to the system message, and a system message if
there is none, and what it costs comes on top of what was measured.

Main results:

* `Summary.ends` — how the stage ends that compresses, with what it has measured.
* `Outline.countMessages_le_inLanguage`, `Outline.countMessages_inLanguage_le` — saying the language
  costs something, but no more than its text and perhaps a message.
* `arrange_withinBudget` — if nothing was compressed and nothing went wrong, a request costs no more
  than the threshold and the language.
-/

namespace PromptBudget

-- ---------------------------------------------------------------------------
-- The cost of a language
-- ---------------------------------------------------------------------------

/-- What it costs to say the language of the answers: the text that says it and, without a system
message, a message for it. -/
def Conversation.languageTokens (c : Conversation) (counter : TokenCounter) (fee : Role → Nat) :
    Option String → Nat
  | none => 0
  | some language =>
    (if c.hasSystemMessage then 0 else fee .system) +
      counter.count ("Always respond in " ++ language ++ ".")

theorem Conversation.languageTokens_congr {c c' : Conversation}
    (h : c.hasSystemMessage = c'.hasSystemMessage) (counter : TokenCounter) (fee : Role → Nat)
    (language : Option String) :
    c.languageTokens counter fee language = c'.languageTokens counter fee language := by
  cases language with
  | none => rfl
  | some language => rw [languageTokens, languageTokens, h]

namespace Opening

/-- What is sent of an opening. -/
def assembled (opening : Opening) : List Message := opening.sent ++ opening.messages

theorem assembled_standIn (m : Message) :
    (standIn m).assembled = if m.content.isEmpty then [] else [m] := by
  rw [assembled, sent, messages, List.append_nil]

theorem assembled_standIn_push (m : Message) (b : Block) :
    ((standIn m).editSystem (·.push b)).assembled = [m.push b] := by
  have hfull : (m.push b).content.isEmpty = false := by
    show List.isEmpty (m.content.toBlocks ++ [b]) = false
    exact List.isEmpty_eq_false_iff.2
      (List.append_ne_nil_of_right_ne_nil _ (List.cons_ne_nil _ _))
  rw [editSystem, assembled_standIn, hfull]
  rfl

theorem assembled_push_ne_nil (opening : Opening) (b : Block) :
    (opening.editSystem (·.push b)).assembled ≠ [] := by
  cases opening with
  | standIn m =>
    rw [assembled_standIn_push]
    exact List.cons_ne_nil _ _
  | real lead m =>
    show lead.messages ++ [m.push b] ≠ []
    exact List.append_ne_nil_of_right_ne_nil _ (List.cons_ne_nil _ _)

variable {counter : TokenCounter} {fee : Role → Nat}

theorem costs_le_push (h : counter.Subadditive) (opening : Opening) (b : Block) :
    counter.costs fee opening.assembled ≤
      counter.costs fee (opening.editSystem (·.push b)).assembled := by
  cases opening with
  | standIn m =>
    have hmore : counter.cost fee m ≤ counter.cost fee (m.push b) :=
      TokenCounter.cost_le_push h m b
    rw [assembled_standIn_push, assembled_standIn]
    split
    · exact Nat.zero_le _
    · rw [TokenCounter.costs_cons, TokenCounter.costs_cons]
      exact Nat.add_le_add_right hmore _
  | real lead m =>
    have hmore : counter.cost fee m ≤ counter.cost fee (m.push b) :=
      TokenCounter.cost_le_push h m b
    show counter.costs fee (lead.messages ++ [m]) ≤
      counter.costs fee (lead.messages ++ [m.push b])
    rw [TokenCounter.costs_append, TokenCounter.costs_append, TokenCounter.costs_cons,
      TokenCounter.costs_cons]
    exact Nat.add_le_add_left (Nat.add_le_add_right hmore _) _

/-- A text pushed to the system message costs its tokens, and a message if there is none. -/
theorem costs_push_le (h : counter.Subadditive) (opening : Opening)
    (hrole : opening.systemMessage.role = .system) (text : String) :
    counter.costs fee (opening.editSystem (·.push (.ofText text))).assembled ≤
      counter.costs fee opening.assembled +
        ((if opening.systemIndex.isSome then 0 else fee .system) + counter.count text) := by
  cases opening with
  | standIn m =>
    have hmore : counter.cost fee (m.push (.ofText text)) ≤
        counter.cost fee m + counter.count text := TokenCounter.cost_push_le h m text
    have hsystem : m.role = .system := hrole
    rw [assembled_standIn_push, assembled_standIn, TokenCounter.costs_cons,
      TokenCounter.costs_nil]
    show _ ≤ _ + (fee .system + counter.count text)
    split
    · next hempty =>
      -- the stand-in had no text, so all that it had not cost before is the message
      rw [TokenCounter.cost_of_isEmpty h hempty, hsystem] at hmore
      rw [TokenCounter.costs_nil]
      omega
    · rw [TokenCounter.costs_cons, TokenCounter.costs_nil]
      omega
  | real lead m =>
    have hmore : counter.cost fee (m.push (.ofText text)) ≤
        counter.cost fee m + counter.count text := TokenCounter.cost_push_le h m text
    show counter.costs fee (lead.messages ++ [m.push (.ofText text)]) ≤
      counter.costs fee (lead.messages ++ [m]) + (0 + counter.count text)
    rw [TokenCounter.costs_append, TokenCounter.costs_append, TokenCounter.costs_cons,
      TokenCounter.costs_cons, TokenCounter.costs_nil]
    omega

end Opening

namespace Outline

variable (o : Outline) {counter : TokenCounter} {fee : Role → Nat} {base : Nat}

theorem costs_assembled :
    counter.costs fee o.assembled =
      counter.costs fee o.opening.assembled + counter.costs fee (o.older ++ o.recent.messages) := by
  rw [assembled, Opening.assembled]
  simp only [TokenCounter.costs_append]
  omega

theorem costs_editSystem (f : Message → Message) :
    counter.costs fee (o.editSystem f).assembled =
      counter.costs fee (o.opening.editSystem f).assembled +
        counter.costs fee (o.older ++ o.recent.messages) :=
  costs_assembled (o.editSystem f)

theorem assembled_inLanguage (language : String) :
    (o.conversation.inLanguage (some language)).assembled =
      (o.editSystem (·.push (languageBlock language))).assembled := by
  rw [Conversation.inLanguage, Conversation.appendToSystem, editSystem_conversation,
    assembled_conversation]

theorem assembled_ne_nil_of_opening (h : o.opening.assembled ≠ []) : o.assembled ≠ [] := by
  intro hnil
  simp only [assembled, List.append_assoc, List.append_eq_nil_iff] at hnil
  exact h (by rw [Opening.assembled, hnil.1, hnil.2.1, List.append_nil])

theorem countMessages_le_inLanguage (hcharges : counter.Charges fee base)
    (hcounter : counter.Subadditive) (language : Option String) :
    counter.countMessages o.conversation.assembled ≤
      counter.countMessages (o.conversation.inLanguage language).assembled := by
  cases language with
  | none => exact Nat.le_refl _
  | some language =>
    have hopening : counter.costs fee o.opening.assembled ≤ _ :=
      Opening.costs_le_push hcounter o.opening (languageBlock language)
    have hne : (o.editSystem (·.push (languageBlock language))).assembled ≠ [] :=
      assembled_ne_nil_of_opening _ (o.opening.assembled_push_ne_nil _)
    rw [assembled_inLanguage, assembled_conversation]
    calc counter.countMessages o.assembled
        ≤ counter.costs fee o.assembled + base := hcharges.le _
      _ ≤ counter.costs fee (o.editSystem (·.push (languageBlock language))).assembled +
            base := by
          rw [costs_assembled, costs_editSystem]
          omega
      _ = counter.countMessages (o.editSystem (·.push (languageBlock language))).assembled :=
          (hcharges.of_ne_nil _ hne).symm

theorem countMessages_inLanguage_le (hcharges : counter.Charges fee base)
    (hcounter : counter.Subadditive) (hrole : o.opening.systemMessage.role = .system)
    (hne : o.assembled ≠ []) (language : Option String) :
    counter.countMessages (o.conversation.inLanguage language).assembled ≤
      counter.countMessages o.conversation.assembled +
        o.conversation.languageTokens counter fee language := by
  cases language with
  | none => exact Nat.le_refl _
  | some language =>
    have hopening : counter.costs fee
        (o.opening.editSystem (·.push (languageBlock language))).assembled ≤
          counter.costs fee o.opening.assembled +
            o.conversation.languageTokens counter fee (some language) :=
      Opening.costs_push_le hcounter o.opening hrole _
    rw [assembled_inLanguage, assembled_conversation]
    calc counter.countMessages (o.editSystem (·.push (languageBlock language))).assembled
        ≤ counter.costs fee (o.editSystem (·.push (languageBlock language))).assembled +
            base := hcharges.le _
      _ ≤ counter.costs fee o.assembled +
            o.conversation.languageTokens counter fee (some language) + base := by
          rw [costs_editSystem, costs_assembled]
          omega
      _ = counter.countMessages o.assembled +
            o.conversation.languageTokens counter fee (some language) := by
          rw [hcharges.of_ne_nil _ hne]
          omega

/-- An evolution gives a conversation no system message and takes none away. -/
theorem Evolves.hasSystemMessage {o o' : Outline} {added : List Block} (h : o.Evolves added o') :
    o'.conversation.hasSystemMessage = o.conversation.hasSystemMessage := by
  have hreal (o : Outline) : o.conversation.hasSystemMessage = o.opening.real?.isSome := by
    rw [Conversation.hasSystemMessage, systemIndex_conversation]
    cases o.opening <;> rfl
  have hsame := congrArg Option.isSome h.real?
  rw [Option.isSome_map, Option.isSome_map] at hsame
  rw [hreal, hreal, hsame]

end Outline

-- ---------------------------------------------------------------------------
-- The stage that compresses
-- ---------------------------------------------------------------------------

namespace Summary

/-- How the stage ends that compresses. -/
inductive Ends (counter : TokenCounter) (tokenThreshold : Nat) (o : Outline)
    (out : Stage.Outcome) : Prop where
  /-- It does nothing: the conversation costs no more than it may, or nothing in it is old. -/
  | declined (hresult : out.result = .ok false) (hconversation : out.conversation = o.conversation)
      (hwithin : counter.countMessages o.assembled ≤ tokenThreshold ∨ o.older = [])
  | failed (e : StageError) (hresult : out.result = .error e)
      (hconversation : out.conversation = o.conversation)
  /-- It has put a summary in the place of the older part, and has measured the result. -/
  | replaced (summary : String) (stats : CompressionStats) (hresult : out.result = .ok true)
      (hstats : stats.tokensAfter =
        counter.countMessages (o.replaceOlder (summaryMessage summary)).assembled)
      (hconversation : out.conversation =
        ((o.replaceOlder (summaryMessage summary)).withDiagnostics
          { o.diagnostics with compression := some stats }).conversation)

variable {counter : TokenCounter} {tokenThreshold : Nat} {o : Outline}

/-- The stage that has asked the generator ends with its failure or with what is done with the
summary. -/
theorem ends_ofCall (holder : o.older ≠ []) (service : Service ρ String) (question : ρ)
    (limit : Duration) (context : RequestContext) (now : Moment) (tokensBefore : Nat) :
    Ends counter tokenThreshold o (.ofCall service question limit o.conversation context now
      (useSummary counter tokensBefore)) := by
  simp only [Stage.Outcome.ofCall]
  cases ((service.call question limit context now).answerWithin limit).result with
  | error e => exact .failed (.service e) rfl rfl
  | ok summary =>
    simp only [Stage.Work.onAnswer, useSummary]
    split
    · exact .failed _ rfl rfl
    · refine .replaced summary ⟨tokensBefore, _, o.older.length⟩ rfl rfl ?_
      show compressed counter tokensBefore summary o.conversation = _
      rw [compressed, Outline.replaceOlder_conversation, if_neg holder]
      dsimp only
      rw [Outline.assembled_conversation]
      rfl

theorem ends (counter : TokenCounter) (tokenThreshold : Nat) (generator : Generator)
    (timeout : Duration) (o : Outline) (context : RequestContext) (now : Moment) :
    Ends counter tokenThreshold o
      ((stage generator tokenThreshold timeout counter).run o.conversation context now) := by
  simp only [stage, Outline.older_conversation, Outline.assembled_conversation]
  split
  · next hidle =>
    refine .declined rfl rfl ?_
    rcases Bool.or_eq_true_iff.1 hidle with hsmall | hnone
    · exact Or.inl (of_decide_eq_true hsmall)
    · exact Or.inr (List.isEmpty_iff.1 hnone)
  · next hbusy =>
    have holder : o.older ≠ [] := by
      intro hnone
      rw [hnone] at hbusy
      exact hbusy (Bool.or_true _)
    exact ends_ofCall holder _ _ _ context now _

end Summary

-- ---------------------------------------------------------------------------
-- Requests
-- ---------------------------------------------------------------------------

section LastStage

variable (generator : Generator) (tokenThreshold : Nat) (timeout : Duration)
  (counter : TokenCounter)

/-- If the stage that compresses has neither compressed nor failed, a conversation with an older
part still has it, and costs no more than it may. -/
theorem Pipeline.step_withinBudget {last : Progress} {o o₁ : Outline} {added : List Block}
    (hlast : last.conversation = o₁.conversation) (hevolves : o.Evolves added o₁)
    (holder : o.older ≠ [])
    (hnone : (last.step (Summary.stage generator tokenThreshold timeout
      counter)).conversation.diagnostics.compression = none)
    (hsmooth : (last.recordOf
      (Summary.stage generator tokenThreshold timeout counter)).error = none) :
    ∃ o' added', (last.step (Summary.stage generator tokenThreshold timeout
        counter)).conversation = o'.conversation ∧ o.Evolves added' o' ∧ o'.older = o.older ∧
      counter.countMessages o'.assembled ≤ tokenThreshold := by
  have hends := Summary.ends counter tokenThreshold generator timeout o₁ last.context last.now
  rw [← hlast] at hends
  have hstep : (last.step (Summary.stage generator tokenThreshold timeout
      counter)).conversation =
        ((Summary.stage generator tokenThreshold timeout counter).run last.conversation
          last.context last.now).conversation.addRecord
            (last.recordOf (Summary.stage generator tokenThreshold timeout counter)) := rfl
  rw [hstep] at hnone ⊢
  cases hends with
  | failed e hresult hconversation =>
    simp only [Progress.recordOf, record, hresult, errorMessage?] at hsmooth
    cases hsmooth
  | replaced summary stats hresult hstats hconversation =>
    rw [hconversation] at hnone
    cases hnone
  | declined hresult hconversation hwithin =>
    rw [hconversation] at hnone ⊢
    -- no stage before has compressed anything, so the older part is still there
    have hkept : o₁.older = o.older := by
      rcases hevolves.older with ⟨hsame, -⟩ | ⟨-, hsome⟩
      · exact hsame
      · have hnone₁ : o₁.diagnostics.compression = none := hnone
        rw [hnone₁] at hsome
        cases hsome
    have herror : (last.recordOf (Summary.stage generator tokenThreshold timeout
        counter)).error ≠ some ToolDocs.cutFailed.message := by
      rw [hsmooth]
      exact (Option.some_ne_none _).symm
    have hrecorded := recorded_evolves o₁ herror
    refine ⟨_, _, Outline.addRecord_conversation _ _, hevolves.trans hrecorded, hkept, ?_⟩
    rcases hwithin with hwithin | hnil
    · exact hwithin
    · exact absurd (hkept.symm.trans hnil) holder

end LastStage

namespace Pipeline.Progress

variable (p : Progress) (counter : TokenCounter) (language : Option String)
  (messages : List Message)

theorem messages_arranged :
    (p.arranged counter language messages).messages =
      (p.conversation.inLanguage language).assembled :=
  rfl

theorem tokensAfter_arranged :
    (p.arranged counter language messages).tokensAfter =
      counter.countMessages (p.arranged counter language messages).messages :=
  rfl

end Pipeline.Progress

/-- The stage that compresses runs on what all the others leave. -/
theorem Plan.run_kinds_of_compress (plan : Plan) (identity : Identity) (services : Collaborators)
    (h : plan.compress = true) (p : Pipeline.Progress) :
    Pipeline.run ((plan.kinds identity services).map (·.stage)) p =
      (Pipeline.run ((plan.ownKinds ++ plan.searchKinds identity services).map (·.stage)) p).step
        (Summary.stage services.generator plan.tokenThreshold plan.summaryTimeout
          services.counter) := by
  rw [plan.kinds_eq, Plan.summaryKinds, if_pos h, List.map_append, Pipeline.run_append]
  rfl

/-- A request with an older part that was neither compressed nor failed to be costs no more than the
threshold of its plan and the language of the answers. The bound on the language asks of the counter
that it charges messages one by one, and that a text costs no more than its parts; the heuristic
counter does (`TokenCounter.charges_heuristic`, `TokenCounter.subadditive_heuristic`). -/
theorem arrange_withinBudget (plan : Plan) (identity : Identity) (services : Collaborators)
    (context : RequestContext) (now : Moment) {messages : List Message} {c : Conversation}
    (hparse : Conversation.ofMessages? messages plan.recentWindow = .ok c) (holder : c.older ≠ [])
    (hcompress : plan.compress = true) :
    ∃ out, arrange plan identity services context now messages = .ok out ∧
      out.tokensAfter = services.counter.countMessages out.messages ∧
      (out.diagnostics.compression = none → out.diagnostics.error? Summary.name = none →
        (identity.language? = none → out.tokensAfter ≤ plan.tokenThreshold) ∧
        ∀ fee base, services.counter.Charges fee base → services.counter.Subadditive →
          out.tokensAfter ≤ plan.tokenThreshold +
            c.languageTokens services.counter fee identity.language?) := by
  have hne : messages ≠ [] := by
    rintro rfl
    cases hparse
  obtain ⟨o, ho, -, hfresh, hparsed, hout⟩ :=
    exists_arranged plan identity services context now hne
  obtain rfl := Except.ok.inj (hparsed.symm.trans hparse)
  rw [Outline.older_conversation] at holder
  have hnodup := plan.nodup_run identity services
    (p := { conversation := o.conversation, context, now })
    (congrArg Diagnostics.stages hfresh)
  rw [plan.run_kinds_of_compress identity services hcompress] at hnodup hout
  obtain ⟨o₁, added, hrun, -, hevolves⟩ := Pipeline.run_evolves
    (p := { conversation := o.conversation, context, now }) rfl
    (plan.ownKinds ++ plan.searchKinds identity services)
  generalize Pipeline.run ((plan.ownKinds ++ plan.searchKinds identity services).map (·.stage))
    { conversation := o.conversation, context, now } = last at hrun hnodup hout
  refine ⟨_, hout, Pipeline.Progress.tokensAfter_arranged _ _ _ _, ?_⟩
  rw [Pipeline.Progress.diagnostics_arranged]
  intro hnone herror
  have hsmooth : (last.recordOf (Summary.stage services.generator plan.tokenThreshold
      plan.summaryTimeout services.counter)).error = none := by
    have hlast := Diagnostics.error?_of_mem hnodup
      (List.mem_append_right _ (List.mem_singleton_self _))
    exact hlast.symm.trans herror
  obtain ⟨o', added', hstep, hevolves', holder', hwithin⟩ :=
    Pipeline.step_withinBudget services.generator plan.tokenThreshold plan.summaryTimeout
      services.counter hrun hevolves holder hnone hsmooth
  rw [Pipeline.Progress.tokensAfter_arranged, Pipeline.Progress.messages_arranged, hstep]
  refine ⟨fun hsilent => ?_, fun fee base hcharges hcounter => ?_⟩
  · rw [hsilent, Conversation.inLanguage, Outline.assembled_conversation]
    exact hwithin
  have hrole : o'.opening.systemMessage.role = .system :=
    (congrArg Prod.fst hevolves'.system).trans ho.opening.role_systemMessage
  have hsent : o'.assembled ≠ [] := by
    intro hnil
    simp only [Outline.assembled, List.append_eq_nil_iff] at hnil
    exact holder (holder'.symm.trans hnil.1.2)
  have hcost := o'.countMessages_inLanguage_le hcharges hcounter hrole hsent identity.language?
  have hlanguage : o'.conversation.languageTokens services.counter fee identity.language? =
      o.conversation.languageTokens services.counter fee identity.language? :=
    Conversation.languageTokens_congr hevolves'.hasSystemMessage _ _ _
  rw [Outline.assembled_conversation, hlanguage] at hcost
  exact Nat.le_trans hcost (Nat.add_le_add_right hwithin _)

/-- A request of as many tokens as it may have is not compressed, and the language comes on top. -/
theorem arrange_withinBudget_exactly :
    (∃ c, Conversation.ofMessages?
        [.user (.plain "Hi"), .assistant (.plain "Yes?"), .user (.plain "Why?")] 1 = .ok c ∧
      c.older ≠ [] ∧ c.languageTokens .heuristic Tokens.fee (some "French") = 12) ∧
    ∃ out, arrange { Settings.plan {} with recentWindow := 1, tokenThreshold := 20 }
        { language := "French" } { generator := ⟨fun _ _ _ _ => .refused .rateLimited⟩ } {} 0
        [.user (.plain "Hi"), .assistant (.plain "Yes?"), .user (.plain "Why?")] = .ok out ∧
      out.diagnostics.compression = none ∧ out.diagnostics.error? Summary.name = none ∧
      out.tokensAfter ≤ 20 + 12 := by
  obtain ⟨out, hout, -, hwithin⟩ := @arrange_withinBudget
    { Settings.plan {} with recentWindow := 1, tokenThreshold := 20 } { language := "French" }
    { generator := ⟨fun _ _ _ _ => .refused .rateLimited⟩ } {} 0
    [.user (.plain "Hi"), .assistant (.plain "Yes?"), .user (.plain "Why?")] _
    rfl (by decide) rfl
  obtain rfl := Except.ok.inj hout
  exact ⟨⟨_, rfl, by decide, by decide⟩, _, rfl, rfl, rfl,
    (hwithin rfl rfl).2 _ _ TokenCounter.charges_heuristic TokenCounter.subadditive_heuristic⟩

/-- The threshold alone is no bound. -/
theorem not_arrange_withinThreshold :
    ¬ ∀ (plan : Plan) (identity : Identity) (services : Collaborators) (context : RequestContext)
      (now : Moment) (messages : List Message) (c : Conversation) (out : Arranged),
      plan.compress = true →
      Conversation.ofMessages? messages plan.recentWindow = .ok c → c.older ≠ [] →
      arrange plan identity services context now messages = .ok out →
      out.diagnostics.compression = none → out.diagnostics.error? Summary.name = none →
        out.tokensAfter ≤ plan.tokenThreshold := by
  intro h
  have hwithin := h { Settings.plan {} with recentWindow := 1, tokenThreshold := 20 }
    { language := "French" } { generator := ⟨fun _ _ _ _ => .refused .rateLimited⟩ } {} 0
    [.user (.plain "Hi"), .assistant (.plain "Yes?"), .user (.plain "Why?")] _ _ rfl rfl
    (by decide) rfl rfl rfl
  exact absurd hwithin (by decide)

end PromptBudget
