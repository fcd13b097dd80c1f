import PromptBudget.Proofs.Plans
import PromptBudget.Proofs.StageCalls

/-!
# PromptBudget — requests end in time

A request is over when its deadline comes, when it is cancelled, and when each of its calls has had
its time, whichever is first. Services can be as slow as they like or never answer. They can also
cancel the request themselves: one that does so in the middle of a call ends its call there, because
whoever waits for it gives up at that moment.

`InTime` relates two moments of a request, with the bounds that it has at each. A guarded call goes
from one to the other (`Call.inTime_guarded`), and so does a stage that waits for it
(`Stage.Kind.run_timely`). The relation is transitive and adds the limits up, so a pipeline goes
from its first moment to its last (`Pipeline.run_inTime`).

Main results:

* `Call.isOpen_of_started` — no call is started under a request that is over.
* `Pipeline.run_inTime` — a run of stages ends within the bounds of the request and within the
  limits of its stages.
* `arrange_endsInTime` — so does a whole request, and each of its calls is started while it is open.
-/

namespace PromptBudget

-- ---------------------------------------------------------------------------
-- Bounds as time passes
-- ---------------------------------------------------------------------------

/-- Calls may be started: the request is not cancelled, and its deadline is not reached. -/
def RequestContext.IsOpen (context : RequestContext) (now : Moment) : Prop :=
  context.isCancelled now = false ∧ ∀ d, context.deadline = some d → now < d

theorem RequestContext.not_isOpen {context : RequestContext} {now : Moment} :
    ¬ context.IsOpen now ↔
      context.isCancelled now = true ∨ ∃ d, context.deadline = some d ∧ d ≤ now := by
  constructor
  · intro h
    by_cases hcancelled : context.isCancelled now = true
    · exact Or.inl hcancelled
    · right
      by_cases hdeadline : ∃ d, context.deadline = some d ∧ d ≤ now
      · exact hdeadline
      · refine absurd ⟨Bool.eq_false_iff.2 hcancelled, ?_⟩ h
        intro d hd
        exact Nat.lt_of_not_le fun hle => hdeadline ⟨d, hd, hle⟩
  · rintro (hcancelled | ⟨d, hd, hle⟩) ⟨hfree, hbefore⟩
    · rw [hcancelled] at hfree
      cases hfree
    · exact Nat.not_lt_of_le hle (hbefore d hd)

/-- A request that is cancelled at a moment is cancelled from then on, or from before. -/
theorem RequestContext.exists_cancelledFrom_cancelAt (context : RequestContext)
    (moment : Moment) :
    ∃ c, (context.cancelAt moment).cancelledFrom = some c ∧
      (∀ old, context.cancelledFrom = some old → c ≤ old) ∧
      (context.cancelledFrom = some c ∨ c = moment) := by
  cases hold : context.cancelledFrom with
  | none =>
    refine ⟨moment, ?_, nofun, Or.inr rfl⟩
    rw [cancelAt, hold]
    rfl
  | some old =>
    refine ⟨min old moment, ?_, ?_, ?_⟩
    · rw [cancelAt, hold]
      rfl
    · rintro _ ⟨⟩
      exact Nat.min_le_left old moment
    · rcases Nat.le_total old moment with hle | hle
      · exact Or.inl (by rw [Nat.min_eq_left hle])
      · exact Or.inr (Nat.min_eq_right hle)

/-- From one moment of a request to a later one: no more time passes than a limit allows, nor beyond
the bounds of the request. On the way a service may cancel the request. -/
structure InTime (limit : Duration) (context : RequestContext) (now : Moment)
    (after : RequestContext) (later : Moment) : Prop where
  le : now ≤ later
  limit : later ≤ now + limit
  deadline : ∀ d, context.deadline = some d → later ≤ max now d
  /-- This is said of the bounds at the end, with the cancellations by services. -/
  cancelled : ∀ c, after.cancelledFrom = some c → later ≤ max now c
  sameDeadline : after.deadline = context.deadline
  /-- A cancellation is not taken back. -/
  kept : ∀ c, context.cancelledFrom = some c → ∃ c', after.cancelledFrom = some c' ∧ c' ≤ c
  /-- A cancellation that is new does not lie in the past. -/
  fresh : ∀ c, after.cancelledFrom = some c → context.cancelledFrom = some c ∨ now ≤ c

namespace InTime

theorem refl (limit : Duration) (context : RequestContext) (now : Moment) :
    InTime limit context now context now where
  le := Nat.le_refl now
  limit := Nat.le_add_right now limit
  deadline d _ := Nat.le_max_left now d
  cancelled c _ := Nat.le_max_left now c
  sameDeadline := rfl
  kept c hc := ⟨c, hc, Nat.le_refl c⟩
  fresh _ hc := Or.inl hc

theorem trans {limit limit' : Duration} {context after last : RequestContext}
    {now later finished : Moment} (h : InTime limit context now after later)
    (h' : InTime limit' after later last finished) :
    InTime (limit + limit') context now last finished where
  le := Nat.le_trans h.le h'.le
  limit := calc
    finished ≤ later + limit' := h'.limit
    _ ≤ now + limit + limit' := Nat.add_le_add_right h.limit limit'
    _ = now + (limit + limit') := Nat.add_assoc now limit limit'
  deadline d hd := by
    have hlast := h'.deadline d (h.sameDeadline.trans hd)
    exact Nat.le_trans hlast (Nat.max_le.2 ⟨h.deadline d hd, Nat.le_max_right now d⟩)
  cancelled c hc := by
    -- a cancellation from the second part came after the first one was over
    have hfirst : later ≤ max now c := by
      rcases h'.fresh c hc with hold | hnew
      · exact h.cancelled c hold
      · exact Nat.le_trans hnew (Nat.le_max_right now c)
    exact Nat.le_trans (h'.cancelled c hc) (Nat.max_le.2 ⟨hfirst, Nat.le_max_right now c⟩)
  sameDeadline := h'.sameDeadline.trans h.sameDeadline
  kept c hc := by
    obtain ⟨c₁, hc₁, hle⟩ := h.kept c hc
    obtain ⟨c₂, hc₂, hle'⟩ := h'.kept c₁ hc₁
    exact ⟨c₂, hc₂, Nat.le_trans hle' hle⟩
  fresh c hc := by
    rcases h'.fresh c hc with hold | hnew
    · exact h.fresh c hold
    · exact Or.inr (Nat.le_trans h.le hnew)

/-- The request is cancelled at the later moment. -/
theorem cancelAt {limit : Duration} {context : RequestContext} {now later : Moment}
    (h : InTime limit context now context later) :
    InTime limit context now (context.cancelAt later) later := by
  obtain ⟨c, hc, hle, hor⟩ := context.exists_cancelledFrom_cancelAt later
  refine { h with cancelled := ?_, sameDeadline := rfl, kept := ?_, fresh := ?_ }
  · intro x hx
    obtain rfl := Option.some.inj (hc.symm.trans hx)
    rcases hor with hold | rfl
    · exact h.cancelled c hold
    · exact Nat.le_max_right now c
  · intro old hold
    exact ⟨c, hc, hle old hold⟩
  · intro x hx
    obtain rfl := Option.some.inj (hc.symm.trans hx)
    rcases hor with hold | rfl
    · exact Or.inl hold
    · exact Or.inr h.le

end InTime

-- ---------------------------------------------------------------------------
-- Calls
-- ---------------------------------------------------------------------------

namespace Call

/-- The earlier of two ends comes no later than either. -/
theorem after_le_of_earlier {a b : Option (Answer α)} {e : Answer α} (h : earlier a b = some e) :
    (∀ x, a = some x → e.after ≤ x.after) ∧ ∀ y, b = some y → e.after ≤ y.after := by
  rcases earlier_eq_some_iff.1 h with ⟨rfl, hle⟩ | ⟨rfl, hlt⟩
  · refine ⟨?_, hle⟩
    rintro _ ⟨⟩
    exact Nat.le_refl e.after
  · refine ⟨fun x hx => Nat.le_of_lt (hlt x hx), ?_⟩
    rintro _ ⟨⟩
    exact Nat.le_refl e.after

/-- A call that must be done by a limit ends, no later than each of its bounds. -/
theorem exists_answer_bounded (limit : Duration) (cancellation : Option Duration) (call : Call α) :
    ∃ answer, (call.bounded (some limit) cancellation).answer = some answer ∧
      answer.after ≤ limit ∧ (∀ c, cancellation = some c → answer.after ≤ c) := by
  -- the call ends before its limit, or with it
  cases hinner : earlier call.answer ((some limit).map expired) with
  | none => cases (earlier_eq_none_iff.1 hinner).2
  | some inner =>
    have hinnerLe : inner.after ≤ limit := (after_le_of_earlier hinner).2 (expired limit) rfl
    cases hanswer : (call.bounded (some limit) cancellation).answer with
    | none => cases hinner.symm.trans (earlier_eq_none_iff.1 hanswer).2
    | some answer =>
      obtain ⟨hcancellation, hcall⟩ := after_le_of_earlier hanswer
      refine ⟨answer, rfl, Nat.le_trans (hcall inner hinner) hinnerLe, ?_⟩
      rintro c rfl
      exact hcancellation (abandoned c) rfl

/-- Under a request that is over every call is refused. -/
theorem guarded_of_not_isOpen {context : RequestContext} {now : Moment}
    (h : ¬ context.IsOpen now) (timeout : Option Duration) (call : Call α) :
    ∃ e, call.guarded context now timeout = refused e := by
  by_cases hcancelled : context.isCancelled now = true
  · exact ⟨_, guarded_of_isCancelled hcancelled timeout call⟩
  · rcases RequestContext.not_isOpen.1 h with hyes | ⟨d, hd, hle⟩
    · exact absurd hyes hcancelled
    · have hremaining : context.remaining now = some 0 := by
        rw [RequestContext.remaining, hd, Option.map_some, Nat.sub_eq_zero_of_le hle]
      have hlimit : lesser timeout (context.remaining now) = some 0 := by
        rw [hremaining]
        cases timeout <;> simp [lesser]
      exact ⟨_, guarded_of_limit_zero (Bool.eq_false_iff.2 hcancelled) hlimit call⟩

/-- No call is started under a request that is over. -/
theorem isOpen_of_started {context : RequestContext} {now : Moment} {timeout : Option Duration}
    {call : Call α} (h : (call.guarded context now timeout).started = true) :
    context.IsOpen now := by
  by_cases hopen : context.IsOpen now
  · exact hopen
  · obtain ⟨e, hrefused⟩ := guarded_of_not_isOpen hopen timeout call
    rw [hrefused] at h
    cases h

/-- The limit of a call under an open request, with what is left until the deadline. -/
theorem exists_limit {context : RequestContext} {now : Moment} (hopen : context.IsOpen now)
    (timeout : Duration) :
    ∃ limit, lesser (some timeout) (context.remaining now) = some limit ∧ limit ≤ timeout ∧
      ∀ d, context.deadline = some d → now + limit ≤ d := by
  unfold RequestContext.remaining
  cases hd : context.deadline with
  | none => exact ⟨timeout, rfl, Nat.le_refl timeout, nofun⟩
  | some d =>
    refine ⟨min timeout (d - now), rfl, Nat.min_le_left _ _, ?_⟩
    rintro _ ⟨⟩
    have hlt := hopen.2 d hd
    exact Nat.add_le_of_le_sub' (Nat.le_of_lt hlt) (Nat.min_le_right _ _)

/-- A guarded call ends within its limit and within the bounds of the request. -/
theorem inTime_guarded (context : RequestContext) (now : Moment) (timeout : Duration)
    (call : Call α) :
    let answer := (call.guarded context now (some timeout)).answerWithin timeout
    InTime timeout context now
      (if answer.cancels then context.cancelAt (now + answer.after) else context)
      (now + answer.after) := by
  intro answer
  -- a call that is refused takes no time
  have hrefused {e : ServiceError} (h : call.guarded context now (some timeout) = refused e) :
      InTime timeout context now
        (if answer.cancels then context.cancelAt (now + answer.after) else context)
        (now + answer.after) := by
    have hanswer : answer = { after := 0, result := .error e } := by
      simp only [answer, h]
      rfl
    rw [hanswer]
    exact .refl timeout context now
  by_cases hopen : context.IsOpen now
  · obtain ⟨limit, hlimit, hle, hdeadline⟩ := exists_limit hopen timeout
    by_cases hzero : limit = 0
    · exact hrefused (guarded_of_limit_zero hopen.1 (hzero ▸ hlimit) call)
    · have hguarded : call.guarded context now (some timeout) =
          call.bounded (some limit) (context.cancelledFrom.map (· - now)) := by
        simp [guarded, hopen.1, hlimit, hzero]
      obtain ⟨ending, hending, hafter, hbefore⟩ :=
        exists_answer_bounded limit (context.cancelledFrom.map (· - now)) call
      have hanswer : answer = ending := by
        simp only [answer, answerWithin, hguarded, hending, Option.getD_some]
      rw [hanswer]
      have hsame : InTime timeout context now context (now + ending.after) := by
        refine { InTime.refl timeout context now with
          le := Nat.le_add_right now _
          limit := Nat.add_le_add_left (Nat.le_trans hafter hle) now
          deadline := ?_
          cancelled := ?_ }
        · intro d hd
          have hlast : now + ending.after ≤ now + limit := Nat.add_le_add_left hafter now
          exact Nat.le_trans (Nat.le_trans hlast (hdeadline d hd)) (Nat.le_max_right now d)
        · intro c hc
          have hlt : now < c := by
            have hfree := hopen.1
            rw [RequestContext.isCancelled, hc] at hfree
            simpa using hfree
          have hleft : ending.after ≤ c - now := hbefore _ (by rw [hc, Option.map_some])
          exact Nat.le_trans (Nat.add_le_of_le_sub' (Nat.le_of_lt hlt) hleft)
            (Nat.le_max_right now c)
      split
      · exact hsame.cancelAt
      · exact hsame
  · obtain ⟨e, h⟩ := guarded_of_not_isOpen hopen (some timeout) call
    exact hrefused h

end Call

-- ---------------------------------------------------------------------------
-- Stages
-- ---------------------------------------------------------------------------

namespace Stage.Outcome

/-- A stage that ends in time and calls its service only at a moment at which it may. -/
structure Timely (limit : Duration) (context : RequestContext) (now : Moment)
    (out : Outcome) : Prop where
  inTime : InTime limit context now out.context out.finished
  calls : ∀ x ∈ out.consultations, x.started = now ∧ context.IsOpen now

variable {context : RequestContext} {now : Moment} {c : Conversation}

theorem AtOnce.timely {out : Outcome} (h : AtOnce context now out) (limit : Duration) :
    Timely limit context now out := by
  constructor
  · rw [h.context, h.finished]
    exact .refl limit context now
  · intro x hx
    rw [h.consultations] at hx
    cases hx

/-- A stage that waits for a call, and then ends at once. -/
theorem timely_ofCall (service : Service ρ α) (question : ρ) (limit : Duration)
    (decide : α → Work Bool) :
    Timely limit context now (.ofCall service question limit c context now decide) := by
  constructor
  · rw [context_ofCall, finished_ofCall]
    exact (service.ask context now question).inTime_guarded context now limit
  · intro x hx
    simp only [ofCall] at hx
    split at hx
    · next hstarted =>
      rw [List.mem_singleton.1 hx]
      exact ⟨rfl, Call.isOpen_of_started hstarted⟩
    · cases hx

end Stage.Outcome

namespace Stage.Kind

theorem run_timely (k : Kind) (c : Conversation) (context : RequestContext) (now : Moment) :
    Outcome.Timely k.limit context now (k.stage.run c context now) := by
  cases k.runs c context now with
  | alone hout hidle => exact hout.timely k.limit
  | asking service question decide hrequest hout =>
    rw [hout]
    exact Outcome.timely_ofCall service question k.limit decide

end Stage.Kind

-- ---------------------------------------------------------------------------
-- Pipelines
-- ---------------------------------------------------------------------------

namespace Pipeline

/-- A call that a stage of a pipeline makes in a run from `p` on, and the state of the request when
this stage starts. -/
def CalledIn (pipeline : Pipeline) (p : Progress) (x : Consultation) (q : Progress) : Prop :=
  ∃ before stage rest, pipeline = before ++ stage :: rest ∧ q = run before p ∧
    x ∈ (stage.run q.conversation q.context q.now).consultations

/-- The calls of a run are those that its stages make. -/
theorem exists_calledIn (pipeline : Pipeline) (p : Progress) {x : Consultation}
    (hx : x ∈ (run pipeline p).consultations) :
    x ∈ p.consultations ∨ ∃ q, CalledIn pipeline p x q := by
  induction pipeline generalizing p with
  | nil => exact Or.inl hx
  | cons stage rest ih =>
    rcases ih (p.step stage) hx with hfirst | ⟨q, before, stage', rest', rfl, rfl, hcall⟩
    · rcases List.mem_append.1 hfirst with hold | hcall
      · exact Or.inl hold
      · exact Or.inr ⟨p, [], stage, rest, rfl, rfl, hcall⟩
    · exact Or.inr ⟨_, stage :: before, stage', rest', rfl, rfl, hcall⟩

/-- How long some stages may wait for their services. -/
def limit : List Stage.Kind → Duration
  | [] => 0
  | k :: rest => k.limit + limit rest

theorem limit_le_of_sublist {kinds more : List Stage.Kind} (h : kinds.Sublist more) :
    limit kinds ≤ limit more := by
  induction h with
  | slnil => exact Nat.le_refl 0
  | cons k _ ih => exact Nat.le_trans ih (Nat.le_add_left _ k.limit)
  | cons_cons k _ ih => exact Nat.add_le_add_left ih k.limit

theorem run_inTime (kinds : List Stage.Kind) (p : Progress) :
    InTime (limit kinds) p.context p.now (run (kinds.map (·.stage)) p).context
      (run (kinds.map (·.stage)) p).now := by
  induction kinds generalizing p with
  | nil => exact .refl 0 p.context p.now
  | cons k rest ih =>
    have hfirst := (k.run_timely p.conversation p.context p.now).inTime
    exact hfirst.trans (ih (p.step k.stage))

end Pipeline

-- ---------------------------------------------------------------------------
-- Requests
-- ---------------------------------------------------------------------------

theorem Plan.limit_kinds_le (plan : Plan) (identity : Identity) (services : Collaborators) :
    Pipeline.limit (plan.kinds identity services) ≤ plan.searchTimeout + plan.summaryTimeout := by
  obtain ⟨searcher, hkinds⟩ := plan.kinds_sublist identity services
  -- the stages that need no service do not wait
  calc Pipeline.limit (plan.kinds identity services)
      ≤ 0 + (0 + (plan.searchTimeout + (plan.summaryTimeout + 0))) :=
        Pipeline.limit_le_of_sublist hkinds
    _ = plan.searchTimeout + plan.summaryTimeout := by
        rw [Nat.zero_add, Nat.zero_add, Nat.add_zero]

/-- An arranged request has kept its bounds. A request that was over at the start ends at the
start. -/
structure Arranged.EndsInTime (out : Arranged) (plan : Plan) (context : RequestContext)
    (now : Moment) : Prop where
  deadline : ∀ d, context.deadline = some d → out.finished ≤ max now d
  /-- It may have been cancelled from outside. -/
  cancelled : ∀ c, context.cancelledFrom = some c → out.finished ≤ max now c
  /-- It may have been cancelled by a service, which the bounds afterwards tell. -/
  cancelledWithin : ∀ c, out.context.cancelledFrom = some c → out.finished ≤ max now c
  timeouts : out.finished ≤ now + plan.searchTimeout + plan.summaryTimeout

/-- Whatever the plan, and however slow the services are, a request ends by its deadline, by the
moment of its cancellation, and by the time that its two calls may take together. Each call is
started while the request is open, under the bounds that earlier calls have left to it. Without
messages there is no conversation, and nothing is called. -/
theorem arrange_endsInTime (plan : Plan) (identity : Identity) (services : Collaborators)
    (context : RequestContext) (now : Moment) (messages : List Message) :
    (messages = [] ∧ arrange plan identity services context now messages =
        .error (.malformedInput "empty message list")) ∨
      ∃ c out, Conversation.ofMessages? messages plan.recentWindow = .ok c ∧
        arrange plan identity services context now messages = .ok out ∧
        out.EndsInTime plan context now ∧
        ∀ x ∈ out.consultations, ∃ q, (plan.stages identity services).CalledIn
          { conversation := c, context, now } x q ∧ x.started = q.now ∧ q.context.IsOpen q.now := by
  by_cases hne : messages = []
  · subst hne
    exact Or.inl ⟨rfl, arrange_nil plan identity services context now⟩
  · right
    obtain ⟨o, -, -, -, hparse, hout⟩ := exists_arranged plan identity services context now hne
    rw [← plan.stages_eq_kinds] at hout
    refine ⟨o.conversation, _, hparse, hout, ?_, ?_⟩
    · have hrun := Pipeline.run_inTime (plan.kinds identity services)
        { conversation := o.conversation, context, now }
      rw [← plan.stages_eq_kinds] at hrun
      refine ⟨hrun.deadline, ?_, hrun.cancelled, ?_⟩
      · -- a cancellation from outside can only have been overtaken by an earlier one
        intro x hx
        obtain ⟨x', hx', hle⟩ := hrun.kept x hx
        exact Nat.le_trans (hrun.cancelled x' hx')
          (Nat.max_le.2 ⟨Nat.le_max_left now x, Nat.le_trans hle (Nat.le_max_right now x)⟩)
      · rw [Nat.add_assoc]
        exact Nat.le_trans hrun.limit
          (Nat.add_le_add_left (plan.limit_kinds_le identity services) now)
    · intro x hx
      rcases Pipeline.exists_calledIn _ _ hx with hnone | ⟨q, hq⟩
      · cases hnone
      · refine ⟨q, hq, ?_⟩
        obtain ⟨before, stage, rest, hstages, -, hcall⟩ := hq
        have hstage : stage ∈ plan.stages identity services := by
          rw [hstages]
          simp
        rw [plan.stages_eq_kinds] at hstage
        obtain ⟨k, -, rfl⟩ := List.mem_map.1 hstage
        exact (k.run_timely q.conversation q.context q.now).calls x hcall

/-- A service that never answers keeps a request for as long as it has. -/
example :
    ∃ out, arrange { Settings.plan {} with recentWindow := 1, tokenThreshold := 0 } {}
        { generator := ⟨fun _ _ _ _ => { answer := none }⟩ } { deadline := some 9 } 7
        [.user (.plain "Hi"), .assistant (.plain "Yes?"), .user (.plain "Why?")] = .ok out ∧
      out.finished = 9 :=
  ⟨_, rfl, rfl⟩

end PromptBudget
