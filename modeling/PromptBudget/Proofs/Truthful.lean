import PromptBudget.Proofs.Budget

/-!
# PromptBudget — what the diagnostics say was done

The diagnostics of a request are written in different places: a record by the pipeline whenever a
stage ends, the passages and the numbers of a compression by the stages that use a service. They
agree. What is noted is noted exactly if the record of the stage says that it changed the
conversation; the messages hold a summary exactly if a compression is noted; and the number of
tokens after it is what the request still costs when it is sent, unless a language is said.

The agreement is an invariant of runs (`Pipeline.run_agrees`), one step at a time. For the tokens
there is no such invariant, since any stage after a compression might spoil them; here it matters
that the stage that compresses comes last.

Main results:

* `Pipeline.run_agrees` — the records agree with what is noted beside them.
* `Outline.Evolves.summaries` — there is a summary among the messages exactly if one is noted.
* `Plan.run_measured` — the tokens noted are those of the conversation after all stages.
* `arrange_truthful` — all of this for a request, beside the records of any pipeline.
-/

namespace PromptBudget

-- ---------------------------------------------------------------------------
-- Records and notes
-- ---------------------------------------------------------------------------

namespace Diagnostics

/-- Whether a record of this name says that its stage changed the conversation. -/
def helped (d : Diagnostics) (name : String) : Bool :=
  d.stages.any fun r => r.stage == name && r.handled

/-- What is noted beside the records agrees with them. -/
structure Agrees (d : Diagnostics) : Prop where
  compression : d.compression.isSome = d.helped Summary.name
  passages : d.passages.isSome = d.helped Passages.name

variable {d : Diagnostics}

theorem helped_add (r : StageRecord) (name : String) :
    (d.add r).helped name = (d.helped name || (r.stage == name && r.handled)) := by
  rw [helped, add, List.any_append]
  simp only [List.any_cons, List.any_nil, Bool.or_false]
  rfl

theorem handled_eq_helped (hnodup : (d.stages.map (·.stage)).Nodup) (name : String) :
    d.handled name = d.helped name := by
  cases hhelped : d.helped name with
  | true =>
    obtain ⟨r, hr, hboth⟩ := List.any_eq_true.1 hhelped
    obtain ⟨hname, hhandled⟩ := Bool.and_eq_true_iff.1 hboth
    rw [← beq_iff_eq.1 hname, handled_of_mem hnodup hr]
    exact hhandled
  | false =>
    refine handled_eq_false ?_
    intro r hr hname
    have hnot := List.any_eq_false.1 hhelped r hr
    simpa [hname] using hnot

end Diagnostics

namespace Stage.Kind.Changes

variable {k : Kind} {o o' : Outline}

theorem compression (h : k.Changes o o') :
    o'.diagnostics.compression.isSome =
      (o.diagnostics.compression.isSome || k.stage.name == Summary.name) := by
  have hother (name : String) (hname : name ≠ Summary.name) :
      o.diagnostics.compression.isSome =
        (o.diagnostics.compression.isSome || name == Summary.name) := by
    rw [beq_eq_false_iff_ne.2 hname, Bool.or_false]
  have hsame (f : Message → Message) :
      (o.editLastUser f).diagnostics.compression.isSome = o.diagnostics.compression.isSome := by
    rw [o.diagnostics_editLastUser]
  cases h with
  | toolDocs => exact (hsame _).trans (hother ToolDocs.name (by decide))
  | loopBreak => exact (hsame _).trans (hother LoopBreak.name (by decide))
  | passagesToUser => exact hother Passages.name (by decide)
  | passagesToSystem => exact hother Passages.name (by decide)
  | summary => exact (Bool.or_true _).symm

theorem passages (h : k.Changes o o') :
    o'.diagnostics.passages.isSome =
      (o.diagnostics.passages.isSome || k.stage.name == Passages.name) := by
  have hother (name : String) (hname : name ≠ Passages.name) :
      o.diagnostics.passages.isSome =
        (o.diagnostics.passages.isSome || name == Passages.name) := by
    rw [beq_eq_false_iff_ne.2 hname, Bool.or_false]
  have hsame (f : Message → Message) :
      (o.editLastUser f).diagnostics.passages.isSome = o.diagnostics.passages.isSome := by
    rw [o.diagnostics_editLastUser]
  cases h with
  | toolDocs => exact (hsame _).trans (hother ToolDocs.name (by decide))
  | loopBreak => exact (hsame _).trans (hother LoopBreak.name (by decide))
  | passagesToUser => exact (Bool.or_true _).symm
  | passagesToSystem => exact (Bool.or_true _).symm
  | summary => exact hother Summary.name (by decide)

end Stage.Kind.Changes

namespace Pipeline

/-- A stage that has changed the conversation has noted what it did, and one that has not has noted
nothing. -/
theorem Leaves.agrees {k : Stage.Kind} {o o' : Outline} {r : StageRecord} (h : Leaves k o o' r)
    (ho : o.diagnostics.Agrees) : (o'.diagnostics.add r).Agrees := by
  have hname (name : String) : o'.diagnostics.helped name = o.diagnostics.helped name := by
    rw [Diagnostics.helped, Diagnostics.helped, h.stages]
  rcases h.edits with ⟨hidle, rfl⟩ | ⟨hhandled, hchanges⟩
  · constructor
    · rw [Diagnostics.helped_add, hidle, Bool.and_false, Bool.or_false]
      exact ho.compression
    · rw [Diagnostics.helped_add, hidle, Bool.and_false, Bool.or_false]
      exact ho.passages
  · constructor
    · rw [Diagnostics.helped_add, hhandled, Bool.and_true, hname, ← ho.compression, h.name]
      exact hchanges.compression
    · rw [Diagnostics.helped_add, hhandled, Bool.and_true, hname, ← ho.passages, h.name]
      exact hchanges.passages

theorem run_agrees {p : Progress} {o : Outline} (hp : p.conversation = o.conversation)
    (ho : o.diagnostics.Agrees) (kinds : List Stage.Kind) :
    (run (kinds.map (·.stage)) p).conversation.diagnostics.Agrees := by
  induction kinds generalizing p o with
  | nil =>
    show p.conversation.diagnostics.Agrees
    rw [hp]
    exact ho
  | cons k rest ih =>
    obtain ⟨o₁, hleaves, hstep⟩ := step_leaves hp k
    exact ih hstep (hleaves.agrees ho)

end Pipeline

-- ---------------------------------------------------------------------------
-- Summaries among the messages
-- ---------------------------------------------------------------------------

theorem Segment.countP_edit (s : Segment) {f : Message → Message} {holds : Message → Bool}
    (hf : ∀ m, holds (f m) = holds m) :
    (s.edit f).messages.countP holds = s.messages.countP holds := by
  obtain ⟨before, marked, after⟩ := s
  cases marked <;> simp [messages, Segment.edit, List.countP_cons, hf]

theorem Message.isSummary_extended (added : List Block) (m : Message) :
    (m.extended added).isSummary = m.isSummary := by
  unfold extended
  split <;> rfl

theorem Opening.countP_sent_add_messages (opening : Opening) {holds : Message → Bool}
    (h : holds opening.systemMessage = false) :
    opening.sent.countP holds + opening.messages.countP holds = opening.lead.countP holds := by
  have hsystem : [opening.systemMessage].countP holds = 0 :=
    List.countP_cons_of_neg (Bool.eq_false_iff.1 h)
  cases opening with
  | standIn m =>
    show (if m.content.isEmpty then [] else [m]).countP holds + 0 = 0
    split
    · rfl
    · exact hsystem
  | real lead m =>
    show 0 + (lead.messages ++ [m]).countP holds = lead.messages.countP holds
    rw [Nat.zero_add, List.countP_append]
    exact congrArg (lead.messages.countP holds + ·) hsystem

namespace Outline

/-- How many of the messages to send stand for others. -/
def summaries (o : Outline) : Nat := o.assembled.countP Message.isSummary

theorem summaries_eq {o : Outline} (hsystem : o.opening.systemMessage.isSummary = false) :
    o.summaries = o.opening.lead.countP Message.isSummary + o.older.countP Message.isSummary +
      o.recent.messages.countP Message.isSummary := by
  have hopening := o.opening.countP_sent_add_messages hsystem
  simp only [summaries, assembled, List.countP_append]
  omega

/-- After an evolution there is a summary among the messages exactly if one is noted, if there was
none at the start. -/
theorem Evolves.summaries {o o' : Outline} {added : List Block} (h : o.Evolves added o')
    (hfresh : o.diagnostics.compression = none)
    (hsystem : o.opening.systemMessage.isSummary = false) (hnone : o.summaries = 0) :
    o'.summaries = if o'.diagnostics.compression.isSome then 1 else 0 := by
  have hextended (m : Message) : (m.extended added).isSummary = m.isSummary :=
    m.isSummary_extended added
  have hrecent : o'.recent.messages.countP Message.isSummary =
      o.recent.messages.countP Message.isSummary := by
    rw [h.recent, recent_editLastUser]
    exact o.recent.countP_edit hextended
  have hlead : o'.opening.lead.countP Message.isSummary =
      o.opening.lead.countP Message.isSummary := by
    rw [lead_eq, lead_eq, h.lead, lead?_editLastUser]
    split
    · rfl
    · cases o.lead? with
      | none => rfl
      | some lead => exact lead.countP_edit hextended
  have hsystem' : o'.opening.systemMessage.isSummary = false := by
    have horigin : o'.opening.systemMessage.origin = o.opening.systemMessage.origin :=
      congrArg (fun envelope => envelope.2.2) h.system
    rw [Message.isSummary, horigin]
    exact hsystem
  rw [summaries_eq hsystem] at hnone
  rw [summaries_eq hsystem', hlead, hrecent]
  rcases h.older with ⟨hsame, hcompression⟩ | ⟨⟨m, hm, -, hsummary⟩, hsome⟩
  · rw [hsame, hcompression, hfresh]
    exact hnone
  · have hone : o'.older.countP Message.isSummary = 1 := by
      rw [hm, List.countP_cons_of_pos hsummary]
      rfl
    rw [hone, if_pos hsome]
    omega

/-- Saying the language adds no summary and removes none. -/
theorem Evolves.summaries_inLanguage {o o' : Outline} {added : List Block}
    (h : o.Evolves added o') (hfresh : o.diagnostics.compression = none)
    (hsystem : o.opening.systemMessage.isSummary = false)
    (hnone : o.assembled.countP Message.isSummary = 0) (language : Option String) :
    (o'.conversation.inLanguage language).assembled.countP Message.isSummary =
      if o'.diagnostics.compression.isSome then 1 else 0 := by
  obtain ⟨o₂, hlanguage, hfinal⟩ := o'.inLanguage_evolves language
  have hdiagnostics : o₂.diagnostics = o'.diagnostics := by
    rw [← diagnostics_conversation, ← hlanguage, Conversation.diagnostics_inLanguage,
      diagnostics_conversation]
  rw [hlanguage, assembled_conversation, ← hdiagnostics]
  exact (h.trans hfinal).summaries hfresh hsystem hnone

end Outline

/-- Messages from the client and the stand-in for a system message are no summaries. -/
theorem Conversation.not_isSummary_of_parse {messages : List Message} {window : Nat}
    {c : Conversation} (hc : ofMessages? messages window = .ok c)
    (hclient : ∀ m ∈ messages, m.origin = .client) :
    c.systemMessage.isSummary = false ∧ c.assembled.countP Message.isSummary = 0 := by
  have hplain : ∀ m ∈ messages, m.isSummary = false := by
    intro m hm
    rw [Message.isSummary, hclient m hm]
    rfl
  constructor
  · rw [systemMessage, messages_ofMessages? hc, standIn_ofMessages? hc]
    cases hfound : c.systemIndex.bind (messages[·]?) with
    | none => rfl
    | some m =>
      obtain ⟨i, -, hi⟩ := Option.bind_eq_some_iff.1 hfound
      exact hplain m (List.mem_of_getElem? hi)
  · rw [assembled_ofMessages? hc, List.countP_eq_zero]
    intro m hm
    exact Bool.eq_false_iff.1 (hplain m hm)

-- ---------------------------------------------------------------------------
-- The tokens of a compression
-- ---------------------------------------------------------------------------

/-- If a compression is noted, then with the tokens that the messages cost. -/
def Conversation.Measured (counter : TokenCounter) (c : Conversation) : Prop :=
  ∀ stats, c.diagnostics.compression = some stats →
    stats.tokensAfter = counter.countMessages c.assembled

theorem Summary.Ends.measured {counter : TokenCounter} {tokenThreshold : Nat} {o : Outline}
    {out : Stage.Outcome} (h : Ends counter tokenThreshold o out)
    (ho : o.conversation.Measured counter) : out.conversation.Measured counter := by
  cases h with
  | declined hresult hconversation hwithin =>
    rw [hconversation]
    exact ho
  | failed e hresult hconversation =>
    rw [hconversation]
    exact ho
  | replaced summary stats hresult hstats hconversation =>
    rw [hconversation]
    rintro _ ⟨⟩
    rw [hstats, Outline.assembled_conversation]
    rfl

/-- Where no stage replaces the older part, no compression is noted. -/
theorem Pipeline.run_uncompressed {p : Progress} {o : Outline}
    (hp : p.conversation = o.conversation) {kinds : List Stage.Kind}
    (hkinds : ∀ k ∈ kinds, k.stage.name ≠ Summary.name) :
    ∃ o' : Outline, (run (kinds.map (·.stage)) p).conversation = o'.conversation ∧
      o'.diagnostics.compression.isSome = o.diagnostics.compression.isSome := by
  induction kinds generalizing p o with
  | nil => exact ⟨o, hp, rfl⟩
  | cons k rest ih =>
    obtain ⟨o₁, hleaves, hstep⟩ := step_leaves hp k
    obtain ⟨o₂, hrun, hsame⟩ := ih hstep fun k hk => hkinds k (List.mem_cons_of_mem _ hk)
    refine ⟨o₂, hrun, hsame.trans ?_⟩
    show o₁.diagnostics.compression.isSome = o.diagnostics.compression.isSome
    rcases hleaves.edits with ⟨-, rfl⟩ | ⟨-, hchanges⟩
    · rfl
    · rw [hchanges.compression, beq_eq_false_iff_ne.2 (hkinds k List.mem_cons_self), Bool.or_false]

namespace Plan

variable (plan : Plan) (identity : Identity) (services : Collaborators)

theorem names_kinds :
    (plan.kinds identity services).map (·.stage.name) =
      (if plan.moveToolDocs then [ToolDocs.name] else [])
        ++ (if plan.detectLoops then [LoopBreak.name] else [])
        ++ (if plan.search && services.searcher.isSome then [Passages.name] else [])
        ++ (if plan.compress then [Summary.name] else []) := by
  simp only [kinds, List.map_append]
  congr 1
  · congr 1
    · congr 1
      · split <;> rfl
      · split <;> rfl
    · cases plan.search with
      | false => rfl
      | true => cases services.searcher <;> rfl
  · split <;> rfl

theorem name_ne_of_mem {k : Stage.Kind}
    (h : k ∈ plan.ownKinds ++ plan.searchKinds identity services) :
    k.stage.name ≠ Summary.name := by
  rcases List.mem_append.1 h with hown | hsearch
  · rcases List.mem_append.1 hown with hdocs | hloop
    · rw [List.mem_singleton.1 ((optional_sublist _ (.toolDocs plan.toolDocs)).subset hdocs)]
      show ToolDocs.name ≠ Summary.name
      decide
    · rw [List.mem_singleton.1 ((optional_sublist _ .loopBreak).subset hloop)]
      show LoopBreak.name ≠ Summary.name
      decide
  · obtain ⟨searcher, hkinds⟩ := plan.searchKinds_sublist identity services
    rw [List.mem_singleton.1 (hkinds.subset hsearch)]
    show Passages.name ≠ Summary.name
    decide

/-- After the stages of a plan a compression is noted with the tokens that the messages cost: no
stage comes after the one that compresses. -/
theorem run_measured {p : Pipeline.Progress} {o : Outline} (hp : p.conversation = o.conversation)
    (hfresh : o.diagnostics.compression = none) :
    (Pipeline.run ((plan.kinds identity services).map (·.stage)) p).conversation.Measured
      services.counter := by
  obtain ⟨o₁, hrun, hsame⟩ := Pipeline.run_uncompressed hp fun k hk =>
    plan.name_ne_of_mem identity services hk
  have hnone : o₁.diagnostics.compression = none := by
    rw [hfresh] at hsame
    exact Option.not_isSome_iff_eq_none.1 (Bool.eq_false_iff.1 hsame)
  have hmeasured : o₁.conversation.Measured services.counter := by
    intro stats hstats
    rw [Outline.diagnostics_conversation, hnone] at hstats
    cases hstats
  rw [plan.kinds_eq, List.map_append, Pipeline.run_append, summaryKinds]
  generalize Pipeline.run ((plan.ownKinds ++ plan.searchKinds identity services).map (·.stage))
    p = last at hrun
  split
  · have hends := Summary.ends services.counter plan.tokenThreshold services.generator
      plan.summaryTimeout o₁ last.context last.now
    rw [← hrun] at hends
    exact hends.measured hmeasured
  · show last.conversation.Measured services.counter
    rw [hrun]
    exact hmeasured

end Plan

-- ---------------------------------------------------------------------------
-- Requests
-- ---------------------------------------------------------------------------

/-- The diagnostics of an arranged request say what was done to it. -/
structure Arranged.Truthful (out : Arranged) (plan : Plan) (identity : Identity)
    (services : Collaborators) : Prop where
  /-- Each stage that the plan asks for is recorded, in this order. -/
  names : out.diagnostics.stages.map (·.stage) =
    (if plan.moveToolDocs then [ToolDocs.name] else [])
      ++ (if plan.detectLoops then [LoopBreak.name] else [])
      ++ (if plan.search && services.searcher.isSome then [Passages.name] else [])
      ++ (if plan.compress then [Summary.name] else [])
  compression : out.diagnostics.compression.isSome = out.diagnostics.handled Summary.name
  passages : out.diagnostics.passages.isSome = out.diagnostics.handled Passages.name
  summaries : out.messages.countP (·.isSummary) =
    if out.diagnostics.compression.isSome then 1 else 0
  /-- What was measured is what is sent, apart from the language. That the language takes no tokens
  off asks of the counter that it charges messages one by one, and no less for a text than for its
  beginning; the heuristic counter does (`TokenCounter.charges_heuristic`,
  `TokenCounter.subadditive_heuristic`). -/
  tokens : ∀ stats, out.diagnostics.compression = some stats →
    (∀ fee base, services.counter.Charges fee base → services.counter.Subadditive →
      stats.tokensAfter ≤ out.tokensAfter) ∧
    (identity.language? = none → out.tokensAfter = stats.tokensAfter)

/-- Whatever its stages are, as long as they do not touch the records, a pipeline runs all of them
and records each. Whatever is done to a request of messages from the client, its diagnostics say
so. -/
theorem arrange_truthful {pipeline : Pipeline} (p : Pipeline.Progress)
    (hstages : ∀ stage ∈ pipeline, (∃ k : Stage.Kind, stage = k.stage) ∨ stage.KeepsRecords)
    (plan : Plan) (identity : Identity) (services : Collaborators) (context : RequestContext)
    (now : Moment) {messages : List Message} (hclient : ∀ m ∈ messages, m.origin = .client) :
    pipeline.Recorded p ∧
      (messages = [] ∧ arrange plan identity services context now messages =
          .error (.malformedInput "empty message list") ∨
        ∃ out, arrange plan identity services context now messages = .ok out ∧
          out.Truthful plan identity services) := by
  have hkeeps : ∀ stage ∈ pipeline, stage.KeepsRecords := by
    intro stage hstage
    rcases hstages stage hstage with ⟨k, rfl⟩ | hkeeps
    · exact k.keepsRecords
    · exact hkeeps
  refine ⟨Pipeline.run_recorded hkeeps p, ?_⟩
  by_cases hne : messages = []
  · subst hne
    exact Or.inl ⟨rfl, arrange_nil plan identity services context now⟩
  right
  obtain ⟨o, -, -, hfresh, hparse, hout⟩ :=
    exists_arranged plan identity services context now hne
  -- at the start nothing is recorded, nothing is noted, and there is no summary
  have hagreed : o.diagnostics.Agrees := by
    rw [hfresh]
    exact ⟨rfl, rfl⟩
  have huncompressed : o.diagnostics.compression = none := congrArg (·.compression) hfresh
  have hunrecorded : o.diagnostics.stages = [] := congrArg (·.stages) hfresh
  obtain ⟨hsystem, hnone⟩ := Conversation.not_isSummary_of_parse hparse hclient
  rw [Outline.systemMessage_conversation] at hsystem
  rw [Outline.assembled_conversation] at hnone
  -- what the stages leave
  have hnames := Pipeline.names_run (p := { conversation := o.conversation, context, now })
    hunrecorded (plan.kinds identity services)
  have hnodup := plan.nodup_run identity services
    (p := { conversation := o.conversation, context, now }) hunrecorded
  have hagrees := Pipeline.run_agrees (p := { conversation := o.conversation, context, now }) rfl
    hagreed (plan.kinds identity services)
  have hmeasured := plan.run_measured identity services
    (p := { conversation := o.conversation, context, now }) rfl huncompressed
  obtain ⟨o₁, added, hrun, -, hevolves⟩ := Pipeline.run_evolves
    (p := { conversation := o.conversation, context, now }) rfl (plan.kinds identity services)
  generalize Pipeline.run ((plan.kinds identity services).map (·.stage))
    { conversation := o.conversation, context, now } = last
    at hout hnames hnodup hagrees hmeasured hrun
  refine ⟨_, hout, ?_, ?_, ?_, ?_, ?_⟩
  · rw [Pipeline.Progress.diagnostics_arranged, hnames, plan.names_kinds]
  · rw [Pipeline.Progress.diagnostics_arranged, Diagnostics.handled_eq_helped hnodup]
    exact hagrees.compression
  · rw [Pipeline.Progress.diagnostics_arranged, Diagnostics.handled_eq_helped hnodup]
    exact hagrees.passages
  · rw [Pipeline.Progress.diagnostics_arranged, Pipeline.Progress.messages_arranged, hrun]
    exact hevolves.summaries_inLanguage huncompressed hsystem hnone identity.language?
  · rw [hrun] at hmeasured
    intro stats hstats
    rw [Pipeline.Progress.diagnostics_arranged, hrun] at hstats
    rw [Pipeline.Progress.tokensAfter_arranged, Pipeline.Progress.messages_arranged, hrun,
      hmeasured stats hstats]
    refine ⟨fun fee base hcharges hcounter =>
      o₁.countMessages_le_inLanguage hcharges hcounter identity.language?, ?_⟩
    intro hsilent
    rw [hsilent]
    rfl

/-- A stage that fails is recorded between others, and a compression is told with its tokens, which
are no more than those that are sent. -/
theorem arrange_truthful_compressed :
    (∀ stage ∈ ([LoopBreak.stage, ⟨"failing", .failed (.degraded "no")⟩] : Pipeline),
      (∃ k : Stage.Kind, stage = k.stage) ∨ stage.KeepsRecords) ∧
    (∀ m ∈ ([.user (.plain "Hi"), .assistant (.plain "Yes?"), .user (.plain "Why?")] :
      List Message), m.origin = .client) ∧
    (∀ p, Pipeline.Recorded [LoopBreak.stage, ⟨"failing", .failed (.degraded "no")⟩] p) ∧
    ∃ out stats, arrange { Settings.plan {} with recentWindow := 1, tokenThreshold := 0 }
        { language := "French" }
        { generator := ⟨fun _ _ _ _ => { answer := some { after := 1, result := .ok "Hi." } }⟩ }
        {} 0 [.user (.plain "Hi"), .assistant (.plain "Yes?"), .user (.plain "Why?")] = .ok out ∧
      out.diagnostics.compression = some stats ∧ stats.tokensAfter ≤ out.tokensAfter ∧
      out.Truthful { Settings.plan {} with recentWindow := 1, tokenThreshold := 0 }
        { language := "French" }
        { generator :=
            ⟨fun _ _ _ _ => { answer := some { after := 1, result := .ok "Hi." } }⟩ } := by
  have hstages : ∀ stage ∈ ([LoopBreak.stage, ⟨"failing", .failed (.degraded "no")⟩] : Pipeline),
      (∃ k : Stage.Kind, stage = k.stage) ∨ stage.KeepsRecords := by
    intro stage hstage
    rcases List.mem_cons.1 hstage with rfl | hstage
    · exact Or.inl ⟨.loopBreak, rfl⟩
    · rw [List.mem_singleton.1 hstage]
      exact Or.inr fun _ _ _ => rfl
  have hclient : ∀ m ∈ ([.user (.plain "Hi"), .assistant (.plain "Yes?"),
      .user (.plain "Why?")] : List Message), m.origin = .client := by decide
  have htruthful (p : Pipeline.Progress) := arrange_truthful p hstages
    { Settings.plan {} with recentWindow := 1, tokenThreshold := 0 } { language := "French" }
    { generator := ⟨fun _ _ _ _ => { answer := some { after := 1, result := .ok "Hi." } }⟩ } {} 0
    hclient
  refine ⟨hstages, hclient, fun p => (htruthful p).1, ?_⟩
  -- what is said of a request does not depend on where the pipeline starts
  let start : Conversation := {
    messages := [], systemIndex := none, standIn := default, recentStart := 0
    lastUserIndex := none, query := "" }
  rcases (htruthful { conversation := start, context := {}, now := 0 }).2 with
    ⟨hnil, -⟩ | ⟨out, hout, hout'⟩
  · cases hnil
  · have hsome : out.diagnostics.compression.isSome = true := by
      rw [hout'.compression]
      obtain rfl := Except.ok.inj hout
      rfl
    obtain ⟨stats, hstats⟩ := Option.isSome_iff_exists.1 hsome
    have hless := (hout'.tokens stats hstats).1 _ _ TokenCounter.charges_heuristic
      TokenCounter.subadditive_heuristic
    exact ⟨out, stats, hout, hstats, hless, hout'⟩

end PromptBudget
