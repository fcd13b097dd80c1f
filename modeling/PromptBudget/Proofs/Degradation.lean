import PromptBudget.Proofs.Bounds

/-!
# PromptBudget — degrading is the same as switching off

A service may fail, be too slow, be cancelled, or have nothing useful to say. The stage that asked
it then leaves the conversation as it found it and says so in its record. A request in which this
happened to both services is sent as if both had been switched off in its plan, since the stages
that need no service come first and never see the difference. Under a request that is over at the
start it always happens, and no service is called at all.

Main results:

* `Pipeline.run_records` — a run of stages adds one record for each, and changes nothing but the
  diagnostics if no record says that its stage was of use.
* `Pipeline.run_closed` — under a request that is over no stage calls its service or has its help.
* `arrange_degrades` — a request without help is sent as one that asks for none.
-/

namespace PromptBudget

-- ---------------------------------------------------------------------------
-- Records
-- ---------------------------------------------------------------------------

theorem find?_stage_of_nodup {stages : List StageRecord}
    (hnodup : (stages.map (·.stage)).Nodup) {r : StageRecord} (hr : r ∈ stages) :
    stages.find? (·.stage == r.stage) = some r := by
  induction stages with
  | nil => cases hr
  | cons first rest ih =>
    rw [List.map_cons, List.nodup_cons] at hnodup
    rcases List.mem_cons.1 hr with rfl | hrest
    · exact List.find?_cons_of_pos (by simp)
    · have hne : first.stage ≠ r.stage := by
        intro heq
        exact hnodup.1 (heq ▸ List.mem_map_of_mem hrest)
      rw [List.find?_cons_of_neg (by simpa using hne)]
      exact ih hnodup.2 hrest

namespace Diagnostics

variable {d : Diagnostics} {name : String}

theorem handled_eq_false (h : ∀ r ∈ d.stages, r.stage = name → r.handled = false) :
    d.handled name = false := by
  rw [handled, record?]
  cases hfind : d.stages.find? (·.stage == name) with
  | none => rfl
  | some r =>
    have hname : r.stage = name := by simpa using List.find?_some hfind
    exact h r (List.mem_of_find?_eq_some hfind) hname

/-- If every stage has a name of its own, nothing hides behind the first record of a name. -/
theorem handled_of_mem (hnodup : (d.stages.map (·.stage)).Nodup) {r : StageRecord}
    (hr : r ∈ d.stages) : d.handled r.stage = r.handled := by
  rw [handled, record?, find?_stage_of_nodup hnodup hr]
  rfl

end Diagnostics

namespace Pipeline

theorem run_append (before after : Pipeline) (p : Progress) :
    run (before ++ after) p = run after (run before p) :=
  List.foldl_append

/-- A run of stages adds one record for each, in their order. If none of them was of use, it changes
nothing but the diagnostics. -/
theorem run_records {p : Progress} {o : Outline} (hp : p.conversation = o.conversation)
    (kinds : List Stage.Kind) :
    ∃ o' records, (run (kinds.map (·.stage)) p).conversation = o'.conversation ∧
      o'.diagnostics.stages = o.diagnostics.stages ++ records ∧
      records.map (·.stage) = kinds.map (·.stage.name) ∧
      ((∀ r ∈ records, r.handled = false) → ∃ d, o' = o.withDiagnostics d) := by
  induction kinds generalizing p o with
  | nil => exact ⟨o, [], hp, (List.append_nil _).symm, rfl, fun _ => ⟨o.diagnostics, rfl⟩⟩
  | cons k rest ih =>
    obtain ⟨o₁, hleaves, hstep⟩ := step_leaves hp k
    obtain ⟨o₂, records, hrun, hstages, hnames, hidle⟩ := ih hstep
    refine ⟨o₂, p.recordOf k.stage :: records, hrun, ?_, ?_, ?_⟩
    · calc o₂.diagnostics.stages
          = (o₁.diagnostics.stages ++ [p.recordOf k.stage]) ++ records := hstages
        _ = o.diagnostics.stages ++ p.recordOf k.stage :: records := by
          rw [hleaves.stages, List.append_assoc, List.singleton_append]
    · rw [List.map_cons, List.map_cons, hnames, hleaves.name]
    · intro hnone
      have hfirst : o₁ = o := by
        rcases hleaves.edits with ⟨-, hsame⟩ | ⟨hhandled, -⟩
        · exact hsame
        · rw [hnone _ List.mem_cons_self] at hhandled
          cases hhandled
      obtain ⟨d, hd⟩ := hidle fun r hr => hnone r (List.mem_cons_of_mem _ hr)
      exact ⟨d, by rw [hd, hfirst]; rfl⟩

end Pipeline

-- ---------------------------------------------------------------------------
-- Requests that are over
-- ---------------------------------------------------------------------------

namespace Stage.Kind

/-- Under a request that is over a stage ends at once, and if it needs a service it does nothing. -/
theorem run_closed (k : Kind) (c : Conversation) {context : RequestContext} {now : Moment}
    (hclosed : ¬ context.IsOpen now) :
    Outcome.AtOnce context now (k.stage.run c context now) ∧
      (k.asks = true → (k.stage.run c context now).result ≠ .ok true) := by
  cases k.runs c context now with
  | alone hout hidle =>
    refine ⟨hout, ?_⟩
    intro hasks htrue
    rw [hidle hasks] at htrue
    cases htrue
  | asking service question decide hrequest hout =>
    obtain ⟨e, hrefused⟩ :=
      (service.ask context now question).guarded_of_not_isOpen hclosed (some k.limit)
    rw [hout, Outcome.ofCall_of_refused hrefused]
    exact ⟨Outcome.atOnce_worked _ c, nofun⟩

/-- The stages that need a service are known by their names. -/
theorem asks_of_name {k : Kind}
    (h : k.stage.name = Passages.name ∨ k.stage.name = Summary.name) : k.asks = true := by
  cases k with
  | toolDocs settings =>
    have hname : ToolDocs.name = Passages.name ∨ ToolDocs.name = Summary.name := h
    exact absurd hname (by decide)
  | loopBreak =>
    have hname : LoopBreak.name = Passages.name ∨ LoopBreak.name = Summary.name := h
    exact absurd hname (by decide)
  | passages searcher options => rfl
  | summary generator tokenThreshold timeout counter => rfl

end Stage.Kind

/-- A record that does not tell of help by a service. -/
def StageRecord.Unhelped (r : StageRecord) : Prop :=
  r.stage = Passages.name ∨ r.stage = Summary.name → r.handled = false

namespace Pipeline

theorem unhelped_recordOf (p : Progress) (k : Stage.Kind) (hclosed : ¬ p.context.IsOpen p.now) :
    (p.recordOf k.stage).Unhelped := by
  intro hname
  have hresult := (k.run_closed p.conversation hclosed).2 (k.asks_of_name hname)
  show (k.stage.run p.conversation p.context p.now).result.toOption.getD false = false
  cases hcase : (k.stage.run p.conversation p.context p.now).result with
  | error e => rfl
  | ok changed =>
    cases changed with
    | false => rfl
    | true => exact absurd hcase hresult

/-- Under a request that is over no stage calls its service, and none has its help. -/
theorem run_closed {p : Progress} {o : Outline} (hp : p.conversation = o.conversation)
    (hclosed : ¬ p.context.IsOpen p.now) (hold : ∀ r ∈ o.diagnostics.stages, r.Unhelped)
    (kinds : List Stage.Kind) :
    (run (kinds.map (·.stage)) p).consultations = p.consultations ∧
      ∀ r ∈ (run (kinds.map (·.stage)) p).conversation.diagnostics.stages, r.Unhelped := by
  induction kinds generalizing p o with
  | nil =>
    refine ⟨rfl, ?_⟩
    show ∀ r ∈ p.conversation.diagnostics.stages, r.Unhelped
    rw [hp]
    exact hold
  | cons k rest ih =>
    -- the request is still over when the next stage starts, because this one took no time
    obtain ⟨hatOnce, -⟩ := k.run_closed p.conversation hclosed
    obtain ⟨o₁, hleaves, hstep⟩ := step_leaves hp k
    have hnext : ¬ (p.step k.stage).context.IsOpen (p.step k.stage).now := by
      show ¬ (k.stage.run _ _ _).context.IsOpen (k.stage.run _ _ _).finished
      rw [hatOnce.context, hatOnce.finished]
      exact hclosed
    have hrecords : ∀ r ∈ o₁.diagnostics.stages ++ [p.recordOf k.stage], r.Unhelped := by
      intro r hr
      rcases List.mem_append.1 hr with hr | hr
      · exact hold r (hleaves.stages ▸ hr)
      · rw [List.mem_singleton.1 hr]
        exact unhelped_recordOf p k hclosed
    obtain ⟨hcalls, hrest⟩ := ih hstep hnext hrecords
    refine ⟨?_, hrest⟩
    calc (run (rest.map (·.stage)) (p.step k.stage)).consultations
        = p.consultations ++ (k.stage.run p.conversation p.context p.now).consultations := hcalls
      _ = p.consultations := by rw [hatOnce.consultations, List.append_nil]

end Pipeline

-- ---------------------------------------------------------------------------
-- Requests without help
-- ---------------------------------------------------------------------------

namespace Plan

variable (plan : Plan) (identity : Identity) (services : Collaborators)

/-- The plan with both services switched off. -/
def withoutServices : Plan := { plan with search := false, compress := false }

theorem kinds_withoutServices :
    plan.withoutServices.kinds identity services = plan.ownKinds := by
  show plan.ownKinds ++ [] ++ [] = plan.ownKinds
  rw [List.append_nil, List.append_nil]

/-- The stages of a plan have different names. -/
theorem nodup_names : ((plan.kinds identity services).map (·.stage.name)).Nodup := by
  obtain ⟨searcher, hkinds⟩ := plan.kinds_sublist identity services
  have hall : [ToolDocs.name, LoopBreak.name, Passages.name, Summary.name].Nodup := by decide
  exact List.Sublist.nodup (hkinds.map fun k : Stage.Kind => k.stage.name) hall

/-- The stages after those that need no service are the ones that ask for help. -/
theorem name_of_mem {k : Stage.Kind}
    (h : k ∈ plan.searchKinds identity services ++ plan.summaryKinds services) :
    k.stage.name = Passages.name ∨ k.stage.name = Summary.name := by
  rcases List.mem_append.1 h with h | h
  · obtain ⟨searcher, hsearch⟩ := plan.searchKinds_sublist identity services
    rw [List.mem_singleton.1 (hsearch.subset h)]
    exact Or.inl rfl
  · rw [List.mem_singleton.1 ((plan.summaryKinds_sublist services).subset h)]
    exact Or.inr rfl

end Plan

namespace Conversation

theorem diagnostics_inLanguage (c : Conversation) (language : Option String) :
    (c.inLanguage language).diagnostics = c.diagnostics := by
  cases language with
  | none => rfl
  | some language =>
    show (c.editSystem _).diagnostics = c.diagnostics
    unfold editSystem
    split <;> rfl

/-- What is sent does not depend on the diagnostics. -/
theorem assembled_inLanguage_withDiagnostics (c : Conversation) (d : Diagnostics)
    (language : Option String) :
    ({ c with diagnostics := d }.inLanguage language).assembled =
      (c.inLanguage language).assembled := by
  cases language with
  | none => rfl
  | some language =>
    show (editSystem { c with diagnostics := d } _).assembled = (c.editSystem _).assembled
    unfold editSystem
    cases c.systemIndex <;> rfl

end Conversation

/-- Two arranged requests that are sent in the same way. -/
structure Arranged.SentAlike (out bare : Arranged) : Prop where
  messages : out.messages = bare.messages
  tokensBefore : out.tokensBefore = bare.tokensBefore
  tokensAfter : out.tokensAfter = bare.tokensAfter
  language : out.language = bare.language

namespace Pipeline.Progress

variable {p q : Progress} {d : Diagnostics}

theorem diagnostics_arranged (p : Progress) (counter : TokenCounter) (language : Option String)
    (messages : List Message) :
    (p.arranged counter language messages).diagnostics = p.conversation.diagnostics :=
  p.conversation.diagnostics_inLanguage language

/-- Conversations that differ in their diagnostics are sent in the same way. -/
theorem arranged_sentAlike (hp : p.conversation = { q.conversation with diagnostics := d })
    (counter : TokenCounter) (language : Option String) (messages : List Message) :
    (p.arranged counter language messages).SentAlike (q.arranged counter language messages) := by
  have hsent : (p.conversation.inLanguage language).assembled =
      (q.conversation.inLanguage language).assembled := by
    rw [hp, Conversation.assembled_inLanguage_withDiagnostics]
  exact ⟨hsent, rfl, congrArg counter.countMessages hsent, rfl⟩

end Pipeline.Progress

/-- The stages of a plan without help by a service leave the conversation as those do that need
none. -/
theorem Plan.run_unhelped (plan : Plan) (identity : Identity) (services : Collaborators)
    {p : Pipeline.Progress} {o : Outline} (hp : p.conversation = o.conversation)
    (hfresh : o.diagnostics.stages = [])
    (hpassages : (Pipeline.run ((plan.kinds identity services).map (·.stage))
      p).conversation.diagnostics.handled Passages.name = false)
    (hsummary : (Pipeline.run ((plan.kinds identity services).map (·.stage))
      p).conversation.diagnostics.handled Summary.name = false) :
    ∃ d, (Pipeline.run ((plan.kinds identity services).map (·.stage)) p).conversation =
      { (Pipeline.run (plan.ownKinds.map (·.stage)) p).conversation with diagnostics := d } := by
  -- the stages that need no service come first
  have hkinds : plan.kinds identity services =
      plan.ownKinds ++ (plan.searchKinds identity services ++ plan.summaryKinds services) := by
    rw [plan.kinds_eq, List.append_assoc]
  have hnodup := plan.nodup_names identity services
  rw [hkinds, List.map_append] at hnodup hpassages hsummary ⊢
  rw [Pipeline.run_append] at hpassages hsummary ⊢
  obtain ⟨o₁, own, hown, hownStages, hownNames, -⟩ := Pipeline.run_records hp plan.ownKinds
  obtain ⟨o₂, asked, hasked, haskedStages, haskedNames, hidle⟩ := Pipeline.run_records hown
    (plan.searchKinds identity services ++ plan.summaryKinds services)
  rw [hasked, Outline.diagnostics_conversation] at hpassages hsummary
  have hstages : o₂.diagnostics.stages = own ++ asked := by
    rw [haskedStages, hownStages, hfresh, List.nil_append]
  rw [← hownNames, ← haskedNames, ← List.map_append, ← hstages] at hnodup
  -- so what the services might have changed is as it was
  have hnone : ∀ r ∈ asked, r.handled = false := by
    intro r hr
    have hname : r.stage ∈
        (plan.searchKinds identity services ++ plan.summaryKinds services).map (·.stage.name) :=
      haskedNames ▸ List.mem_map_of_mem hr
    obtain ⟨k, hk, hkname⟩ := List.mem_map.1 hname
    have hmem : r ∈ o₂.diagnostics.stages := by
      rw [hstages]
      exact List.mem_append_right own hr
    rw [← Diagnostics.handled_of_mem hnodup hmem, ← hkname]
    rcases plan.name_of_mem identity services hk with h | h
    · rw [h]
      exact hpassages
    · rw [h]
      exact hsummary
  obtain ⟨d, hsame⟩ := hidle hnone
  refine ⟨d, ?_⟩
  rw [hasked, hown, hsame]
  rfl

/-- A request that no service has helped is sent as it would be without services, for whatever
reason there was no help. If it is cancelled or past its deadline at the start, no service helps it,
and none is called. -/
theorem arrange_degrades (plan : Plan) (identity : Identity) (services : Collaborators)
    (context : RequestContext) (now : Moment) {messages : List Message} (hne : messages ≠ []) :
    ∃ out bare, arrange plan identity services context now messages = .ok out ∧
      arrange plan.withoutServices identity services context now messages = .ok bare ∧
      (out.diagnostics.handled Passages.name = false ∧
        out.diagnostics.handled Summary.name = false → out.SentAlike bare) ∧
      (context.isCancelled now = true ∨ (∃ d, context.deadline = some d ∧ d ≤ now) →
        out.diagnostics.handled Passages.name = false ∧
          out.diagnostics.handled Summary.name = false ∧ out.consultations = []) := by
  obtain ⟨o, -, -, hfresh, hparse, hout⟩ :=
    exists_arranged plan identity services context now hne
  have hbare := @arrange_eq plan.withoutServices identity services context now _ _ hparse
  rw [plan.withoutServices.stages_eq_kinds, plan.kinds_withoutServices] at hbare
  refine ⟨_, _, hout, hbare, ?_, ?_⟩
  · rw [Pipeline.Progress.diagnostics_arranged]
    rintro ⟨hpassages, hsummary⟩
    obtain ⟨d, hsame⟩ := plan.run_unhelped identity services (o := o) rfl (by rw [hfresh])
      hpassages hsummary
    exact Pipeline.Progress.arranged_sentAlike hsame services.counter identity.language? messages
  · intro hover
    have hclosed : ¬ context.IsOpen now := RequestContext.not_isOpen.2 hover
    have hold : ∀ r ∈ o.diagnostics.stages, r.Unhelped := by
      rw [hfresh]
      exact nofun
    obtain ⟨hcalls, hrecords⟩ := Pipeline.run_closed
      (p := { conversation := o.conversation, context, now }) rfl hclosed hold
      (plan.kinds identity services)
    rw [Pipeline.Progress.diagnostics_arranged]
    refine ⟨Diagnostics.handled_eq_false ?_, Diagnostics.handled_eq_false ?_, hcalls⟩
    · exact fun r hr hname => hrecords r hr (Or.inl hname)
    · exact fun r hr hname => hrecords r hr (Or.inr hname)

/-- A request that comes after its deadline is sent without a summary, and the service that would
never have answered is not called. -/
theorem arrange_degrades_late :
    ([.user (.plain "Hi"), .assistant (.plain "Yes?"), .user (.plain "Why?")] : List Message) ≠ [] ∧
      ∃ out bare,
        arrange { Settings.plan {} with recentWindow := 1, tokenThreshold := 0 } {}
          { generator := ⟨fun _ _ _ _ => { answer := none }⟩ } { deadline := some 5 } 7
          [.user (.plain "Hi"), .assistant (.plain "Yes?"), .user (.plain "Why?")] = .ok out ∧
        arrange (Plan.withoutServices
            { Settings.plan {} with recentWindow := 1, tokenThreshold := 0 }) {}
          { generator := ⟨fun _ _ _ _ => { answer := none }⟩ } { deadline := some 5 } 7
          [.user (.plain "Hi"), .assistant (.plain "Yes?"), .user (.plain "Why?")] = .ok bare ∧
        out.SentAlike bare ∧ out.consultations = [] := by
  refine ⟨List.cons_ne_nil _ _, ?_⟩
  obtain ⟨out, bare, hout, hbare, hsame, hover⟩ := @arrange_degrades
    { Settings.plan {} with recentWindow := 1, tokenThreshold := 0 } {}
    { generator := ⟨fun _ _ _ _ => { answer := none }⟩ } { deadline := some 5 } 7
    [.user (.plain "Hi"), .assistant (.plain "Yes?"), .user (.plain "Why?")] (List.cons_ne_nil _ _)
  obtain ⟨hpassages, hsummary, hcalls⟩ := hover (Or.inr ⟨5, rfl, by decide⟩)
  exact ⟨out, bare, hout, hbare, hsame ⟨hpassages, hsummary⟩, hcalls⟩

end PromptBudget
