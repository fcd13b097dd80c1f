import PromptBudget.Proofs.Atomicity
import PromptBudget.Proofs.Budget
import PromptBudget.Proofs.Waits

/-!
# PromptBudget — a summary in the place of the older part

A conversation that costs too much gets a summary of its older part, if the generator gives one in
time. The stage that does this asks at most once, and whatever does not give a text leaves the
conversation alone.

With a text, one message takes the place of the older part. For a counter that charges messages one
by one their costs add up, though the cost of a text may be rounded, so what the conversation costs
then is known exactly: what it cost before, less the older messages, and the summary
(`Outline.countMessages_replaceOlder`).

Main results:

* `Call.started_guarded`, `Stage.Outcome.consultations_ofCall` — when a guarded call reaches its
  service.
* `Summary.replaced_compressed` — the summary stands where the older part was, and nothing else is
  touched.
* `Conversation.Reachable.summarises` — what the stage does to any conversation.
-/

namespace PromptBudget

-- ---------------------------------------------------------------------------
-- Asking the generator
-- ---------------------------------------------------------------------------

/-- A call reaches its service if it does so by itself, the request is not cancelled, and there is
time left. -/
theorem Call.started_guarded {context : RequestContext} {now : Moment} {timeout : Duration}
    (call : Call α) : (call.guarded context now (some timeout)).started =
      decide (call.started = true ∧ context.isCancelled now = false ∧
        context.limit now timeout ≠ 0) := by
  cases hcancelled : context.isCancelled now with
  | true =>
    rw [guarded_of_isCancelled hcancelled]
    simp [refused]
  | false =>
    have hlimit : lesser (some timeout) (context.remaining now) =
        some (context.limit now timeout) := RequestContext.lesser_remaining
    by_cases hzero : context.limit now timeout = 0
    · rw [hzero] at hlimit
      rw [guarded_of_limit_zero hcancelled hlimit]
      simp [refused, hzero]
    · have hgrant : context.grant now timeout = .ok (context.limit now timeout) := by
        simp [RequestContext.grant, hcancelled, hzero]
      rw [guarded_of_grant hgrant]
      simp [bounded, hzero]

/-- A stage asks at most once, under the bounds of the request. -/
theorem Stage.Outcome.consultations_ofCall (service : Service ρ α) (question : ρ)
    (timeout : Duration) (c : Conversation) (context : RequestContext) (now : Moment)
    (decide : α → Work Bool) :
    (ofCall service question timeout c context now decide).consultations =
      if (service.ask context now question).started = true ∧ context.isCancelled now = false ∧
        context.limit now timeout ≠ 0 then [⟨now, service.note question⟩] else [] := by
  simp only [ofCall, Service.call, Call.started_guarded, decide_eq_true_eq]

-- ---------------------------------------------------------------------------
-- What a summary changes
-- ---------------------------------------------------------------------------

/-- A conversation `d` is `c` with a message in the place of its older part, and this is noted with
what a counter says. -/
structure Summary.Replaced (counter : TokenCounter) (c : Conversation) (m : Message)
    (d : Conversation) : Prop where
  messages : ∃ front, c.messages = front ++ c.older ++ c.recent ∧
    d.messages = front ++ m :: c.recent
  older : d.older = [m]
  recent : d.recent = c.recent
  systemMessage : d.systemMessage = c.systemMessage
  hasSystemMessage : d.hasSystemMessage = c.hasSystemMessage
  lastUser? : d.lastUser? = c.lastUser?
  query : d.query = c.query
  diagnostics : d.diagnostics = { c.diagnostics with
    compression := some {
      tokensBefore := counter.countMessages c.assembled
      tokensAfter := counter.countMessages d.assembled
      messagesReplaced := c.older.length } }
  /-- Of what the conversation cost, the older messages are off and the one message is on, as any
  counter has it that charges messages one by one (`TokenCounter.charges_heuristic`). -/
  balance : ∀ fee base, counter.Charges fee base →
    counter.countMessages d.assembled + counter.costs fee c.older =
      counter.countMessages c.assembled + counter.cost fee m

theorem Outline.countMessages_replaceOlder {counter : TokenCounter} {fee : Role → Nat} {base : Nat}
    (hcharges : counter.Charges fee base) {o : Outline} (holder : o.older ≠ []) (m : Message) :
    counter.countMessages (o.replaceOlder m).assembled + counter.costs fee o.older =
      counter.countMessages o.assembled + counter.cost fee m := by
  have hbefore : o.assembled ≠ [] := by
    rw [assembled]
    exact List.append_ne_nil_of_left_ne_nil (List.append_ne_nil_of_right_ne_nil _ holder) _
  have hafter : (o.replaceOlder m).assembled ≠ [] := by
    simp [assembled, replaceOlder]
  rw [hcharges.of_ne_nil _ hbefore, hcharges.of_ne_nil _ hafter]
  simp only [assembled, replaceOlder, TokenCounter.costs_append, TokenCounter.costs_cons,
    TokenCounter.costs_nil]
  omega

namespace Summary

variable {counter : TokenCounter}

theorem replaced_conversation {o : Outline} (holder : o.older ≠ []) (m : Message) :
    Replaced counter o.conversation m ((o.replaceOlder m).withDiagnostics { o.diagnostics with
      compression := some {
        tokensBefore := counter.countMessages o.assembled
        tokensAfter := counter.countMessages (o.replaceOlder m).assembled
        messagesReplaced := o.older.length } }).conversation where
  messages := by
    refine ⟨o.opening.messages, ?_, ?_⟩
    · rw [Outline.older_conversation, Outline.recent_conversation, Outline.messages_conversation]
    · rw [Outline.recent_conversation, List.append_cons]
      rfl
  older := Outline.older_conversation _
  recent := by
    rw [Outline.recent_conversation, Outline.recent_conversation]
    rfl
  systemMessage := by
    rw [Outline.systemMessage_conversation, Outline.systemMessage_conversation]
    rfl
  hasSystemMessage := rfl
  lastUser? := by
    rw [Outline.lastUser?_conversation, Outline.lastUser?_conversation]
    rfl
  query := rfl
  diagnostics := by
    rw [Outline.older_conversation, Outline.assembled_conversation, Outline.assembled_conversation]
    rfl
  balance := by
    intro fee base hcharges
    rw [Outline.older_conversation, Outline.assembled_conversation, Outline.assembled_conversation]
    exact Outline.countMessages_replaceOlder hcharges holder m

theorem replaced_compressed {o : Outline} (holder : o.older ≠ []) (reply : String) :
    Replaced counter o.conversation (summaryMessage reply)
      (compressed counter (counter.countMessages o.conversation.assembled) reply
        o.conversation) := by
  have hreplaced : Replaced counter o.conversation (summaryMessage reply) _ :=
    replaced_conversation holder (summaryMessage reply)
  rw [compressed, Outline.replaceOlder_conversation, if_neg holder]
  simp only [Outline.assembled_conversation]
  exact hreplaced

/-- How the stage ends that has asked the generator, by the reply that it has in the end. -/
inductive Concludes (counter : TokenCounter) (c : Conversation) (out : Stage.Outcome) :
    Except ServiceError String → Prop where
  | failed {e : ServiceError} (hresult : out.result = .error (.service e))
      (hconversation : out.conversation = c) : Concludes counter c out (.error e)
  | blank {reply : String} (hreply : Text.trimmed reply = "")
      (hresult : out.result = .error (.degraded "summary generation returned no text"))
      (hconversation : out.conversation = c) : Concludes counter c out (.ok reply)
  | replaced {reply : String} (hreply : Text.trimmed reply ≠ "") (hresult : out.result = .ok true)
      (hreplaced : Replaced counter c
        { Message.user (.plain ("<conversation_summary>\n" ++ Text.trimmed reply ++
            "\n</conversation_summary>")) with origin := .compression }
        out.conversation) : Concludes counter c out (.ok reply)

/-- The stage that has asked the generator ends by its reply. -/
theorem concludes_ofCall {o : Outline} (holder : o.older ≠ []) (service : Service ρ String)
    (question : ρ) (limit : Duration) (context : RequestContext) (now : Moment) :
    Concludes counter o.conversation
      (.ofCall service question limit o.conversation context now
        (useSummary counter (counter.countMessages o.conversation.assembled)))
      ((service.call question limit context now).answerWithin limit).result := by
  simp only [Stage.Outcome.ofCall]
  cases ((service.call question limit context now).answerWithin limit).result with
  | error e => exact .failed rfl rfl
  | ok reply =>
    simp only [Stage.Work.onAnswer, useSummary]
    split
    · next hblank => exact .blank (String.isEmpty_iff.1 hblank) rfl rfl
    · next htext =>
      have hreply : Text.trimmed reply ≠ "" := by
        intro hblank
        rw [hblank] at htext
        exact htext rfl
      exact .replaced hreply rfl (replaced_compressed holder reply)

variable {c : Conversation} {generator : Generator} {tokenThreshold : Nat} {timeout : Duration}

theorem run_of_idle (h : counter.countMessages c.assembled ≤ tokenThreshold ∨ c.older = [])
    (context : RequestContext) (now : Moment) :
    (stage generator tokenThreshold timeout counter).run c context now =
      .untouched c context now := by
  simp only [stage]
  refine if_pos ?_
  rwa [Bool.or_eq_true_iff, decide_eq_true_eq, List.isEmpty_iff]

theorem run_of_over (hover : tokenThreshold < counter.countMessages c.assembled)
    (holder : c.older ≠ []) (context : RequestContext) (now : Moment) :
    (stage generator tokenThreshold timeout counter).run c context now =
      .ofCall generator.service (systemPrompt, request c.older) timeout c context now
        (useSummary counter (counter.countMessages c.assembled)) := by
  simp only [stage]
  refine if_neg ?_
  rw [Bool.or_eq_true_iff, decide_eq_true_eq, List.isEmpty_iff]
  exact not_or.2 ⟨Nat.not_le_of_lt hover, holder⟩

end Summary

/-- Whatever conversation there is, and whatever the generator does: if the conversation is within
its budget or has nothing old, it stays as it is and nobody is asked. Else the generator is asked
for a summary, once and under the bounds of the request, and as it replies the stage ends. -/
theorem Conversation.Reachable.summarises {c : Conversation} (hc : c.Reachable)
    (generator : Generator) (tokenThreshold : Nat) (timeout : Duration) (counter : TokenCounter)
    (context : RequestContext) (now : Moment) :
    let out := (Summary.stage generator tokenThreshold timeout counter).run c context now
    let messages := c.older ++ [.user (.plain Summary.instruction)]
    let call := generator.generate context now Summary.systemPrompt messages
    (counter.countMessages c.assembled ≤ tokenThreshold ∨ c.older = [] →
      out.result = .ok false ∧ out.conversation = c ∧ out.consultations = []) ∧
    (tokenThreshold < counter.countMessages c.assembled → c.older ≠ [] →
      out.consultations =
        (if call.started = true ∧ context.isCancelled now = false ∧ context.limit now timeout ≠ 0
          then [⟨now, .generation Summary.systemPrompt messages⟩] else []) ∧
      Summary.Concludes counter c out
        ((call.guarded context now (some timeout)).answerWithin timeout).result) := by
  intro out messages call
  obtain ⟨o, rfl⟩ := hc.exists_outline
  constructor
  · intro hidle
    have hrun : out = .untouched o.conversation context now :=
      Summary.run_of_idle hidle context now
    rw [hrun]
    exact ⟨rfl, rfl, rfl⟩
  · intro hover holder
    have hrun : out = _ := Summary.run_of_over hover holder context now
    rw [hrun]
    rw [Outline.older_conversation] at holder
    refine ⟨?_, Summary.concludes_ofCall holder generator.service _ timeout context now⟩
    exact Stage.Outcome.consultations_ofCall generator.service _ timeout _ context now _

/-- A conversation without a system message, whose stand-in has been given a text and counts. The
heuristic counter charges for it message by message. -/
theorem Conversation.Reachable.summarises_standIn :
    let generator : Generator :=
      ⟨fun _ _ _ _ => { answer := some { after := 1, result := .ok " Short\n" } }⟩
    ∃ c d, Conversation.ofMessages? [.user (.plain "Go"), .assistant (.plain "Done"),
        .user (.plain "Why?")] 1 = .ok c ∧
      Edit.perform? c (.appendToSystem (.ofText "Be brief.")) = some d ∧ d.Reachable ∧
      24 < Tokens.countMessages d.assembled ∧ d.older ≠ [] ∧
      ((Summary.stage generator 24 60).run d {} 0).consultations =
        [⟨0, .generation Summary.systemPrompt
          (d.older ++ [.user (.plain Summary.instruction)])⟩] ∧
      Summary.Concludes .heuristic d ((Summary.stage generator 24 60).run d {} 0)
        (.ok " Short\n") ∧
      Tokens.countMessages ((Summary.stage generator 24 60).run d {} 0).conversation.assembled +
          TokenCounter.heuristic.costs Tokens.fee d.older =
        Tokens.countMessages d.assembled +
          TokenCounter.heuristic.cost Tokens.fee (Summary.summaryMessage " Short\n") ∧
      ((Summary.stage generator 24 60).run d {} 0).conversation.assembled.map (·.text) =
        ["Be brief.", "<conversation_summary>\nShort\n</conversation_summary>", "Why?"] := by
  intro generator
  obtain ⟨c, hc⟩ : ∃ c, Conversation.ofMessages?
      [.user (.plain "Go"), .assistant (.plain "Done"), .user (.plain "Why?")] 1 = .ok c := ⟨_, rfl⟩
  obtain ⟨d, hd⟩ : ∃ d, Edit.perform? c (.appendToSystem (.ofText "Be brief.")) = some d := ⟨_, rfl⟩
  have hreachable : d.Reachable := .edited (.fresh hc) _ hd
  have hover : 24 < Tokens.countMessages d.assembled := by
    obtain rfl := Except.ok.inj hc
    obtain rfl := Option.some.inj hd
    decide
  have holder : d.older ≠ [] := by
    obtain rfl := Except.ok.inj hc
    obtain rfl := Option.some.inj hd
    decide
  obtain ⟨hasked, hends⟩ := (summarises hreachable generator 24 60 .heuristic {} 0).2 hover holder
  refine ⟨c, d, hc, hd, hreachable, hover, holder, ?_, hends, ?_, ?_⟩
  · exact hasked.trans (if_pos ⟨rfl, rfl, by decide⟩)
  · cases hends with
    | blank hreply => exact absurd hreply (by decide)
    | replaced hreply hresult hreplaced =>
      exact hreplaced.balance Tokens.fee Tokens.overhead TokenCounter.charges_heuristic
  · obtain rfl := Except.ok.inj hc
    obtain rfl := Option.some.inj hd
    decide

end PromptBudget
