import PromptBudget.Proofs.Parsing
import PromptBudget.Proofs.StageEffects

/-!
# PromptBudget — the stages of a plan

A plan asks for its stages in a fixed order: those that need no service, then a search, then a
summary. What is to be shown of a whole request is shown of a run of these stages, which starts from
the outline of the messages.

Main results:

* `Plan.stages_eq_kinds` — each stage of a plan is of one of the known kinds.
* `Plan.kinds_sublist` — a plan has at most four stages, in a fixed order.
* `exists_arranged` — a request is arranged by a run of the stages.
-/

namespace PromptBudget

-- ---------------------------------------------------------------------------
-- Kinds of stages
-- ---------------------------------------------------------------------------

namespace Plan

variable (plan : Plan) (identity : Identity) (services : Collaborators)

/-- The kinds of the stages that a plan asks for. -/
def kinds : List Stage.Kind :=
  (if plan.moveToolDocs then [.toolDocs plan.toolDocs] else [])
    ++ (if plan.detectLoops then [.loopBreak] else [])
    ++ (if plan.search then services.searcher.toList.map fun searcher => .passages searcher {
          projectPath := identity.projectPath
          topK := plan.topK
          scoreThreshold := plan.scoreThreshold
          target := plan.target
          timeout := plan.searchTimeout }
        else [])
    ++ (if plan.compress then
        [.summary services.generator plan.tokenThreshold plan.summaryTimeout services.counter]
      else [])

theorem stages_eq_kinds :
    plan.stages identity services = (plan.kinds identity services).map (·.stage) := by
  simp only [stages, kinds, passages?, List.map_append]
  congr 1
  · congr 1
    · congr 1
      · split <;> rfl
      · split <;> rfl
    · split
      · cases services.searcher <;> rfl
      · rfl
  · split <;> rfl

/-- The kinds that need no service. -/
def ownKinds : List Stage.Kind :=
  (if plan.moveToolDocs then [.toolDocs plan.toolDocs] else [])
    ++ (if plan.detectLoops then [.loopBreak] else [])

/-- How passages are searched. -/
def searchOptions : Passages.Options where
  projectPath := identity.projectPath
  topK := plan.topK
  scoreThreshold := plan.scoreThreshold
  target := plan.target
  timeout := plan.searchTimeout

/-- The kind that asks a searcher. -/
def searchKinds : List Stage.Kind :=
  if plan.search then
    services.searcher.toList.map fun searcher => .passages searcher (plan.searchOptions identity)
  else []

/-- The kind that asks a generator. -/
def summaryKinds : List Stage.Kind :=
  if plan.compress then
    [.summary services.generator plan.tokenThreshold plan.summaryTimeout services.counter]
  else []

theorem kinds_eq :
    plan.kinds identity services =
      plan.ownKinds ++ plan.searchKinds identity services ++ plan.summaryKinds services :=
  rfl

theorem optional_sublist (wanted : Bool) (k : Stage.Kind) :
    (if wanted then [k] else []).Sublist [k] := by
  cases wanted with
  | false => exact List.nil_sublist _
  | true => exact List.Sublist.refl _

theorem searchKinds_sublist :
    ∃ searcher, (plan.searchKinds identity services).Sublist
      [.passages searcher (plan.searchOptions identity)] := by
  unfold searchKinds
  cases services.searcher with
  | none =>
    -- there is no such stage, so any searcher will do
    refine ⟨⟨fun _ _ _ => .refused .cancelled⟩, ?_⟩
    split <;> exact List.nil_sublist _
  | some searcher => exact ⟨searcher, optional_sublist _ _⟩

theorem summaryKinds_sublist :
    (plan.summaryKinds services).Sublist
      [.summary services.generator plan.tokenThreshold plan.summaryTimeout services.counter] :=
  optional_sublist _ _

/-- The stages of a plan are some of four, in this order. -/
theorem kinds_sublist :
    ∃ searcher, (plan.kinds identity services).Sublist
      [.toolDocs plan.toolDocs, .loopBreak, .passages searcher (plan.searchOptions identity),
        .summary services.generator plan.tokenThreshold plan.summaryTimeout
          services.counter] := by
  obtain ⟨searcher, hsearch⟩ := plan.searchKinds_sublist identity services
  have hown : plan.ownKinds.Sublist [.toolDocs plan.toolDocs, .loopBreak] :=
    (optional_sublist _ (.toolDocs plan.toolDocs)).append (optional_sublist _ .loopBreak)
  exact ⟨searcher, (hown.append hsearch).append (plan.summaryKinds_sublist services)⟩

end Plan

-- ---------------------------------------------------------------------------
-- Arranging
-- ---------------------------------------------------------------------------

/-- What a request is arranged to when its stages have run. -/
def Pipeline.Progress.arranged (p : Progress) (counter : TokenCounter) (language : Option String)
    (messages : List Message) : Arranged where
  messages := (p.conversation.inLanguage language).assembled
  diagnostics := (p.conversation.inLanguage language).diagnostics
  tokensBefore := counter.countMessages messages
  tokensAfter := counter.countMessages (p.conversation.inLanguage language).assembled
  language
  context := p.context
  finished := p.now
  consultations := p.consultations

theorem arrange_eq {plan : Plan} (identity : Identity) (services : Collaborators)
    (context : RequestContext) (now : Moment) {messages : List Message} {c : Conversation}
    (h : Conversation.ofMessages? messages plan.recentWindow = .ok c) :
    arrange plan identity services context now messages =
      .ok (((plan.stages identity services).run { conversation := c, context, now }).arranged
        services.counter identity.language? messages) := by
  rw [arrange, h]
  rfl

/-- Messages are arranged by the stages of the plan, which start from the outline of the messages. -/
theorem exists_arranged (plan : Plan) (identity : Identity) (services : Collaborators)
    (context : RequestContext) (now : Moment) {messages : List Message} (hne : messages ≠ []) :
    ∃ o : Outline, o.Sound ∧ o.conversation.messages = messages ∧ o.diagnostics = {} ∧
      Conversation.ofMessages? messages plan.recentWindow = .ok o.conversation ∧
      arrange plan identity services context now messages =
        .ok ((Pipeline.run ((plan.kinds identity services).map (·.stage))
          { conversation := o.conversation, context, now }).arranged services.counter
            identity.language? messages) := by
  have hparse := Outline.ofMessages?_eq hne plan.recentWindow
  have hout := arrange_eq identity services context now hparse
  rw [plan.stages_eq_kinds] at hout
  exact ⟨Outline.ofMessages messages plan.recentWindow,
    Outline.sound_ofMessages messages plan.recentWindow,
    Outline.messages_ofMessages messages plan.recentWindow,
    Outline.diagnostics_ofMessages messages plan.recentWindow, hparse, hout⟩

end PromptBudget
