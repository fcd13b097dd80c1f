import PromptBudget.Proofs.Edits
import PromptBudget.Proofs.Plans
import PromptBudget.Proofs.StageCalls

/-!
# PromptBudget — what services are asked

When a service is asked, other stages may already have put documentation, a word against loops, or
passages into the conversation. The service sees nothing of this: a search is for what the user
wrote last, and a summary is written of the older part as it came.

The reason is what an edit cannot reach. The query is kept apart from the messages and no stage
changes it (`Stage.Kind.Changes.query`). The older part is changed only by the stage that replaces
it (`Stage.Kind.Changes.older`), which is the last one of a plan.

Main results:

* `Stage.Outcome.Runs.requests` — a stage asks at most what its kind asks.
* `Pipeline.run_requests` — the stages of a run ask what they would ask at its start.
* `arrange_requests` — at most one search and one generation, of the messages as they came.
-/

namespace PromptBudget

-- ---------------------------------------------------------------------------
-- Stages
-- ---------------------------------------------------------------------------

theorem Stage.Outcome.Runs.requests {k : Stage.Kind} {c : Conversation} {context : RequestContext}
    {now : Moment} {out : Stage.Outcome} (h : Runs k c context now out) :
    (out.consultations.map (·.request)).Sublist (k.request? c.query c.older).toList := by
  cases h with
  | alone hout hidle =>
    rw [hout.consultations]
    exact List.nil_sublist _
  | asking service question decide hrequest hout =>
    rw [hout, hrequest]
    simp only [ofCall]
    split
    · exact List.Sublist.refl [service.note question]
    · exact List.nil_sublist _

-- ---------------------------------------------------------------------------
-- Pipelines
-- ---------------------------------------------------------------------------

namespace Pipeline

/-- If only the last stage may replace the older part, each stage asks at most what it would have
asked at the start. -/
theorem run_requests {p : Progress} {o : Outline} (hp : p.conversation = o.conversation)
    {kinds : List Stage.Kind} (hkinds : kinds.Pairwise fun k _ => k.replacesOlder = false) :
    ((run (kinds.map (·.stage)) p).consultations.map (·.request)).Sublist
      (p.consultations.map (·.request) ++ kinds.filterMap (·.request? o.query o.older)) := by
  induction kinds generalizing p o with
  | nil =>
    show (p.consultations.map (·.request)).Sublist (p.consultations.map (·.request) ++ [])
    exact List.sublist_append_left _ _
  | cons k rest ih =>
    obtain ⟨hfirst, hothers⟩ := List.pairwise_cons.1 hkinds
    obtain ⟨o₁, hleaves, hstep⟩ := step_leaves hp k
    -- the stages after this one find the query and the older part that it has found
    have hsame : rest.filterMap (·.request? o₁.query o₁.older) =
        rest.filterMap (·.request? o.query o.older) := by
      cases rest with
      | nil => rw [List.filterMap_nil, List.filterMap_nil]
      | cons next others =>
        rw [hleaves.query, hleaves.older (hfirst next List.mem_cons_self)]
    have hown : ((k.stage.run p.conversation p.context p.now).consultations.map
        (·.request)).Sublist (k.request? o.query o.older).toList := by
      have hrequests := (k.runs p.conversation p.context p.now).requests
      rwa [hp, Outline.query_conversation, Outline.older_conversation, ← hp] at hrequests
    have hasked : (k :: rest).filterMap (·.request? o.query o.older) =
        (k.request? o.query o.older).toList ++ rest.filterMap (·.request? o.query o.older) := by
      rw [List.filterMap_cons]
      cases k.request? o.query o.older <;> rfl
    rw [hasked, ← List.append_assoc, ← hsame]
    refine List.Sublist.trans (ih hstep hothers) (List.Sublist.append_right ?_ _)
    show (List.map _ (p.consultations ++ _)).Sublist _
    rw [List.map_append]
    exact List.Sublist.append_left hown _

end Pipeline

-- ---------------------------------------------------------------------------
-- Plans
-- ---------------------------------------------------------------------------

namespace Plan

variable (plan : Plan) (identity : Identity) (services : Collaborators)

/-- The stages of a plan ask for a search, unless the query is blank, and then for a generation. -/
theorem requests_kinds (query : String) (older : List Message) :
    ((plan.kinds identity services).filterMap (·.request? query older)).Sublist
      ((if (Text.trimmed query).isEmpty then []
          else [.search ((plan.searchOptions identity).query (Text.trimmed query))])
        ++ [.generation Summary.systemPrompt (Summary.request older)]) := by
  obtain ⟨searcher, hkinds⟩ := plan.kinds_sublist identity services
  refine (hkinds.filterMap (·.request? query older)).trans ?_
  by_cases hblank : (Text.trimmed query).isEmpty = true
  · simp [Stage.Kind.request?, hblank]
  · simp [Stage.Kind.request?, hblank]

/-- Only the last stage of a plan replaces the older part. -/
theorem pairwise_kinds :
    (plan.kinds identity services).Pairwise fun k _ => k.replacesOlder = false := by
  obtain ⟨searcher, hkinds⟩ := plan.kinds_sublist identity services
  refine List.Pairwise.sublist hkinds ?_
  simp [Stage.Kind.replacesOlder]

end Plan

-- ---------------------------------------------------------------------------
-- Requests
-- ---------------------------------------------------------------------------

theorem Conversation.query_ofMessages? {messages : List Message} {window : Nat} {c : Conversation}
    (hc : ofMessages? messages window = .ok c) : c.query = c.lastUser?.elim "" (·.text) := by
  unfold ofMessages? at hc
  split at hc
  · cases hc
  · obtain rfl := Except.ok.inj hc
    rfl

/-- Whatever the plan, and whatever the services answer, at most one search is made and at most one
text is generated, in this order. The search is for what is in the last user message, without the
blanks around it, in the project of the request. The generation is of the older part of the messages
as they came, with the instruction after it. -/
theorem arrange_requests (plan : Plan) (identity : Identity) (services : Collaborators)
    (context : RequestContext) (now : Moment) (messages : List Message) :
    (messages = [] ∧ arrange plan identity services context now messages =
        .error (.malformedInput "empty message list")) ∨
      ∃ c out, Conversation.ofMessages? messages plan.recentWindow = .ok c ∧
        arrange plan identity services context now messages = .ok out ∧
        (out.consultations.map (·.request)).Sublist
          ((messages.reverse.find? (·.isUser)).toList.map (fun m => .search {
              text := Text.trimmed m.text
              projectPath := identity.projectPath
              topK := plan.topK
              scoreThreshold := plan.scoreThreshold })
            ++ [.generation Summary.systemPrompt
              (c.older ++ [.user (.plain Summary.instruction)])]) := by
  by_cases hne : messages = []
  · subst hne
    exact Or.inl ⟨rfl, arrange_nil plan identity services context now⟩
  · right
    obtain ⟨o, ho, hmessages, -, hparse, hout⟩ :=
      exists_arranged plan identity services context now hne
    have hquery := Conversation.query_ofMessages? hparse
    refine ⟨_, _, hparse, hout, ?_⟩
    rw [((Outline.Follows.refl ho).keepsPositions ho).lastUser?, hmessages,
      Outline.query_conversation] at hquery
    have hsearch : (if (Text.trimmed o.query).isEmpty then []
          else [.search ((plan.searchOptions identity).query (Text.trimmed o.query))]).Sublist
        ((messages.reverse.find? (·.isUser)).toList.map fun m =>
          Consultation.Request.search
            ((plan.searchOptions identity).query (Text.trimmed m.text))) := by
      rw [hquery]
      cases messages.reverse.find? (·.isUser) with
      | none =>
        -- without a user message the query is empty, and nothing is searched
        exact List.Sublist.refl _
      | some m =>
        rw [Option.elim_some]
        split
        · exact List.nil_sublist _
        · exact List.Sublist.refl _
    have hkinds := plan.requests_kinds identity services o.query o.older
    have hrun := Pipeline.run_requests (p := { conversation := o.conversation, context, now }) rfl
      (plan.pairwise_kinds identity services)
    rw [Outline.older_conversation]
    exact List.Sublist.trans (List.Sublist.trans hrun hkinds)
      (hsearch.append_right [.generation Summary.systemPrompt (Summary.request o.older)])

/-- Both services are asked, even if neither of them ever answers. -/
example :
    ∃ out, arrange { Settings.plan {} with search := true, recentWindow := 1, tokenThreshold := 0 }
        { projectPath := "demo" }
        { generator := ⟨fun _ _ _ _ => { answer := none }⟩
          searcher := some ⟨fun _ _ _ => { answer := none }⟩ } {} 0
        [.user (.plain "Hi"), .assistant (.plain "Yes?"), .user (.plain " Why? ")] = .ok out ∧
      out.consultations.map (·.request) =
        [.search ⟨"Why?", "demo", (Settings.plan {}).topK, (Settings.plan {}).scoreThreshold⟩,
          .generation Summary.systemPrompt [.user (.plain "Hi"), .assistant (.plain "Yes?"),
            .user (.plain Summary.instruction)]] :=
  ⟨_, rfl, rfl⟩

end PromptBudget
