import PromptBudget.Proofs.Records
import PromptBudget.Proofs.Waits

/-!
# PromptBudget — time that does not matter

A request that stays inside its limits comes out as if its services had answered at once: with the
same messages and tokens, the same records but for how long each stage took, and the same questions
asked. A limit may be used up exactly, and so may the deadline by the last call; only a deadline
that is reached when a call starts refuses it.

Two runs are compared, one with delays and bounds and one without. They go in step: a call that has
room for its answer is the call without bounds (`Call.guarded_answering`), so each stage does the
same work in both (`Stage.Kind.Steady.run`), and what it leaves to the next differs in times only
(`Stage.Kind.Steady.step`). Room for several calls is room for each at the latest moment at which it
can start.

Main results:

* `Call.guarded_answering` — an answer within its limit and the bounds of the request comes through.
* `Pipeline.run_sameWork` — stages with room for their delays do the work of stages without delays.
* `arrange_sameWork` — a request inside its limits is arranged as if no time had passed.
-/

namespace PromptBudget

-- ---------------------------------------------------------------------------
-- Calls with room
-- ---------------------------------------------------------------------------

/-- A call made at a moment has time for an answer after some delay. -/
structure RequestContext.HasRoom (context : RequestContext) (now : Moment)
    (delay : Duration) : Prop where
  deadline : ∀ d, context.deadline = some d → now < d ∧ now + delay ≤ d
  cancellation : ∀ c, context.cancelledFrom = some c → now + delay < c

/-- Calls made one after another have time for their answers, if the first is made by a moment. -/
def RequestContext.RoomFor (context : RequestContext) (latest : Moment) : List Duration → Prop
  | [] => True
  | delay :: rest => context.HasRoom latest delay ∧ context.RoomFor (latest + delay) rest

namespace RequestContext

variable {context : RequestContext} {now latest : Moment} {delay : Duration}

theorem HasRoom.earlier (h : context.HasRoom latest delay) (hle : now ≤ latest) :
    context.HasRoom now delay := by
  constructor
  · intro d hd
    obtain ⟨hlt, hroom⟩ := h.deadline d hd
    exact ⟨Nat.lt_of_le_of_lt hle hlt, Nat.le_trans (Nat.add_le_add_right hle delay) hroom⟩
  · intro c hc
    exact Nat.lt_of_le_of_lt (Nat.add_le_add_right hle delay) (h.cancellation c hc)

theorem HasRoom.shorter {less : Duration} (h : context.HasRoom now delay) (hle : less ≤ delay) :
    context.HasRoom now less := by
  constructor
  · intro d hd
    obtain ⟨hlt, hroom⟩ := h.deadline d hd
    exact ⟨hlt, Nat.le_trans (Nat.add_le_add_left hle now) hroom⟩
  · intro c hc
    exact Nat.lt_of_le_of_lt (Nat.add_le_add_left hle now) (h.cancellation c hc)

theorem RoomFor.earlier {delays : List Duration} (h : context.RoomFor latest delays)
    (hle : now ≤ latest) : context.RoomFor now delays := by
  induction delays generalizing now latest with
  | nil => exact h
  | cons delay rest ih => exact ⟨h.1.earlier hle, ih h.2 (Nat.add_le_add_right hle delay)⟩

/-- Fewer calls need less room. -/
theorem RoomFor.sublist {delays fewer : List Duration} (h : context.RoomFor latest delays)
    (hfewer : fewer.Sublist delays) : context.RoomFor latest fewer := by
  induction hfewer generalizing latest with
  | slnil => exact h
  | cons delay _ ih => exact ih (h.2.earlier (Nat.le_add_right latest delay))
  | cons_cons delay _ ih => exact ⟨h.1, ih h.2⟩

/-- Two calls that take their delays, after two that take no time. The second one starts at the
latest when the first would be done. -/
theorem roomFor_two_calls {delay' : Duration}
    (hdeadline : ∀ d, context.deadline = some d → now + delay < d ∧ now + delay + delay' ≤ d)
    (hcancelled : ∀ c, context.cancelledFrom = some c → now + delay + delay' < c) :
    context.RoomFor now [0, 0, delay, delay'] := by
  have hfirst : context.HasRoom now delay := by
    constructor
    · intro d hd
      have hlt := (hdeadline d hd).1
      exact ⟨Nat.lt_of_le_of_lt (Nat.le_add_right now delay) hlt, Nat.le_of_lt hlt⟩
    · intro c hc
      exact Nat.lt_of_le_of_lt (Nat.le_add_right _ delay') (hcancelled c hc)
  have hsecond : context.HasRoom (now + delay) delay' := ⟨hdeadline, hcancelled⟩
  have hnone : context.HasRoom now 0 := hfirst.shorter (Nat.zero_le delay)
  exact ⟨hnone, hnone, hfirst, hsecond, trivial⟩

/-- A request without bounds always has room. -/
theorem hasRoom_unbounded (now : Moment) (delay : Duration) :
    HasRoom {} now delay := ⟨nofun, nofun⟩

theorem HasRoom.grant (h : context.HasRoom now delay) {timeout : Duration} (hpos : 0 < timeout) :
    context.grant now timeout = .ok (context.limit now timeout) := by
  have hopen : context.isCancelled now = false := by
    unfold isCancelled
    cases hc : context.cancelledFrom with
    | none => rfl
    | some c =>
      have hlt := Nat.lt_of_le_of_lt (Nat.le_add_right now delay) (h.cancellation c hc)
      exact decide_eq_false (Nat.not_le_of_lt hlt)
  have hlimit : context.limit now timeout ≠ 0 := by
    unfold limit remaining
    cases hd : context.deadline with
    | none => exact Nat.pos_iff_ne_zero.1 hpos
    | some d =>
      have hlt := (h.deadline d hd).1
      show min timeout (d - now) ≠ 0
      exact Nat.pos_iff_ne_zero.1 (Nat.lt_min.2 ⟨hpos, Nat.sub_pos_of_lt hlt⟩)
  unfold RequestContext.grant
  rw [hopen, if_neg Bool.false_ne_true, if_neg hlimit]

theorem HasRoom.le_limit (h : context.HasRoom now delay) {timeout : Duration}
    (hle : delay ≤ timeout) : delay ≤ context.limit now timeout := by
  unfold limit remaining
  cases hd : context.deadline with
  | none => exact hle
  | some d =>
    have hroom := (h.deadline d hd).2
    show delay ≤ min timeout (d - now)
    exact Nat.le_min.2 ⟨hle, Nat.le_sub_of_add_le' hroom⟩

end RequestContext

namespace Call

/-- A call that is answered after some delay. -/
def answering (delay : Duration) (result : Except ServiceError α) : Call α :=
  { answer := some { after := delay, result } }

variable {context : RequestContext} {now : Moment} {delay timeout : Duration}

/-- A call with room for its answer is not changed by its bounds. -/
theorem guarded_answering (hpos : 0 < timeout) (hle : delay ≤ timeout)
    (hroom : context.HasRoom now delay) (result : Except ServiceError α) :
    (answering delay result).guarded context now (some timeout) = answering delay result := by
  rw [guarded_of_grant (hroom.grant hpos)]
  -- the answer is there before anything else can end the call
  have hends : Ends (answering delay result) (context.limit now timeout)
      (context.cancelledFrom.map (· - now)) { after := delay, result } := by
    refine .answered rfl ?_ ?_
    · intro left hleft
      obtain ⟨c, hc, rfl⟩ := Option.map_eq_some_iff.1 hleft
      exact Nat.lt_sub_of_add_lt (Nat.add_comm now delay ▸ hroom.cancellation c hc)
    · rintro _ ⟨⟩
      exact hroom.le_limit hle
  show ({ answer := (bounded _ _ (answering delay result)).answer } : Call α) = _
  rw [ends_iff.2 hends]
  rfl

end Call

-- ---------------------------------------------------------------------------
-- The work of a stage
-- ---------------------------------------------------------------------------

namespace Stage.Outcome

/-- Two outcomes that tell of the same work, perhaps at other times. -/
structure SameWork (out out' : Outcome) : Prop where
  result : out.result = out'.result
  conversation : out.conversation = out'.conversation
  requests : out.consultations.map (·.request) = out'.consultations.map (·.request)

/-- An outcome that takes no longer than some time, and leaves the bounds of the request. -/
structure Takes (delay : Duration) (context : RequestContext) (now : Moment)
    (out : Outcome) : Prop where
  context : out.context = context
  finished : out.finished ≤ now + delay

variable {c : Conversation} {context context' : RequestContext} {now now' : Moment}

/-- Work does not look at the bounds of the request or at the time. -/
theorem sameWork_worked (work : Work Bool) (c : Conversation) :
    SameWork (.worked work c context now) (.worked work c context' now') := by
  unfold worked
  split <;> exact ⟨rfl, rfl, rfl⟩

theorem AtOnce.takes {out : Outcome} (h : AtOnce context now out) (delay : Duration) :
    Takes delay context now out where
  context := h.context
  finished := by
    rw [h.finished]
    exact Nat.le_add_right now delay

variable {service service' : Service ρ α} {question : ρ} {limit delay delay' : Duration}
  {result : Except ServiceError α} {decide : α → Work Bool}

/-- What is done with an answer does not depend on when it comes. -/
theorem sameWork_answering (h : service.call question limit context now = .answering delay result)
    (h' : service'.call question limit context' now' = .answering delay' result)
    (hnote : service.note question = service'.note question) :
    SameWork (.ofCall service question limit c context now decide)
      (.ofCall service' question limit c context' now' decide) := by
  have hsame := @sameWork_worked context context' (now + delay) (now' + delay')
    (Work.onAnswer result decide) c
  simp only [ofCall, h, h', hnote]
  exact ⟨hsame.result, hsame.conversation, rfl⟩

theorem takes_answering (h : service.call question limit context now = .answering delay result) :
    Takes delay context now (.ofCall service question limit c context now decide) where
  context := by
    rw [context_ofCall, h]
    rfl
  finished := by
    rw [finished_ofCall, h]
    exact Nat.le_refl _

end Stage.Outcome

open Stage.Outcome (sameWork_worked)

/-- A searcher that answers each query after some delay. -/
def Searcher.steady (delay : Duration)
    (hits : SearchQuery → Except ServiceError (List SearchHit)) : Searcher where
  search _ _ query := .answering delay (hits query)

/-- A generator that answers each request after some delay. -/
def Generator.steady (delay : Duration)
    (reply : String → List Message → Except ServiceError String) : Generator where
  generate _ _ systemPrompt messages := .answering delay (reply systemPrompt messages)

namespace Stage.Kind

/-- A stage whose service answers after some delay, within its limit, and the stage whose service
gives the same answers at once. -/
inductive Steady : Kind → Duration → Kind → Prop where
  | own {k : Kind} (hown : k.asks = false) : Steady k 0 k
  | passages {delay : Duration} (hits : SearchQuery → Except ServiceError (List SearchHit))
      {options : Passages.Options} (hpos : 0 < options.timeout) (hle : delay ≤ options.timeout) :
      Steady (.passages (.steady delay hits) options) delay (.passages (.steady 0 hits) options)
  | summary {delay : Duration} (reply : String → List Message → Except ServiceError String)
      (tokenThreshold : Nat) {timeout : Duration} (counter : TokenCounter) (hpos : 0 < timeout)
      (hle : delay ≤ timeout) :
      Steady (.summary (.steady delay reply) tokenThreshold timeout counter) delay
        (.summary (.steady 0 reply) tokenThreshold timeout counter)

variable {k k' : Kind} {delay : Duration}

theorem Steady.name (h : k.Steady delay k') : k.stage.name = k'.stage.name := by
  cases h <;> rfl

/-- A stage that needs no service does not look at the bounds of the request or at the time. -/
theorem run_sameWork_of_own (hown : k.asks = false) (c : Conversation)
    (context context' : RequestContext) (now now' : Moment) :
    (k.stage.run c context now).SameWork (k.stage.run c context' now') := by
  cases k with
  | toolDocs settings =>
    simp only [stage, ToolDocs.stage]
    split <;> exact sameWork_worked _ c
  | loopBreak =>
    simp only [stage, LoopBreak.stage]
    split <;> exact sameWork_worked _ c
  | passages searcher options => cases hown
  | summary generator tokenThreshold timeout counter => cases hown

theorem request?_of_own (hown : k.asks = false) (query : String) (older : List Message) :
    k.request? query older = none := by
  cases k with
  | toolDocs settings => rfl
  | loopBreak => rfl
  | passages searcher options => cases hown
  | summary generator tokenThreshold timeout counter => cases hown

theorem run_atOnce_of_own (hown : k.asks = false) (c : Conversation) (context : RequestContext)
    (now : Moment) : (k.stage.run c context now).AtOnce context now := by
  cases k.runs c context now with
  | alone hout hidle => exact hout
  | asking service question decide hrequest hout =>
    rw [request?_of_own hown] at hrequest
    cases hrequest

/-- With room for its delay a stage does what it would do without delay and without bounds. -/
theorem Steady.run (h : k.Steady delay k') (c : Conversation) {context : RequestContext}
    {now : Moment} (hroom : context.HasRoom now delay) (now' : Moment) :
    (k.stage.run c context now).SameWork (k'.stage.run c {} now') ∧
      (k.stage.run c context now).Takes delay context now ∧
      (k'.stage.run c {} now').context = {} := by
  cases h with
  | own hown =>
    exact ⟨run_sameWork_of_own hown c context {} now now',
      (run_atOnce_of_own hown c context now).takes 0, (run_atOnce_of_own hown c {} now').context⟩
  | @passages _ hits options hpos hle =>
    have hcall (query : SearchQuery) : (Searcher.steady delay hits).service.call query
        options.timeout context now = .answering delay (hits query) :=
      Call.guarded_answering hpos hle hroom _
    have hcall' (query : SearchQuery) : (Searcher.steady 0 hits).service.call query
        options.timeout {} now' = .answering 0 (hits query) :=
      Call.guarded_answering hpos (Nat.zero_le _) (RequestContext.hasRoom_unbounded now' 0) _
    simp only [stage, Passages.stage]
    split
    · exact ⟨sameWork_worked _ c, Outcome.atOnce_untouched.takes delay, rfl⟩
    · exact ⟨Outcome.sameWork_answering (hcall _) (hcall' _) rfl,
        Outcome.takes_answering (hcall _), (Outcome.takes_answering (hcall' _)).context⟩
  | @summary _ reply tokenThreshold timeout counter hpos hle =>
    have hcall (question : String × List Message) : (Generator.steady delay reply).service.call
        question timeout context now = .answering delay (reply question.1 question.2) :=
      Call.guarded_answering hpos hle hroom _
    have hcall' (question : String × List Message) : (Generator.steady 0 reply).service.call
        question timeout {} now' = .answering 0 (reply question.1 question.2) :=
      Call.guarded_answering hpos (Nat.zero_le _) (RequestContext.hasRoom_unbounded now' 0) _
    simp only [stage, Summary.stage]
    split
    · exact ⟨sameWork_worked _ c, Outcome.atOnce_untouched.takes delay, rfl⟩
    · exact ⟨Outcome.sameWork_answering (hcall _) (hcall' _) rfl,
        Outcome.takes_answering (hcall _), (Outcome.takes_answering (hcall' _)).context⟩

end Stage.Kind

-- ---------------------------------------------------------------------------
-- Pipelines
-- ---------------------------------------------------------------------------

/-- A record without the time that its stage took. -/
def StageRecord.untimed (r : StageRecord) : StageRecord := { r with latency := 0 }

/-- Diagnostics without the times that the stages took. -/
def Diagnostics.untimed (d : Diagnostics) : Diagnostics :=
  { d with stages := d.stages.map (·.untimed) }

namespace Pipeline

/-- Two states of a request in which the same work has been done, perhaps at other times. -/
structure Progress.SameWork (p q : Progress) : Prop where
  /-- The conversations differ in their records, and these in their times. -/
  conversation : ∃ records, p.conversation = q.conversation.withRecords records ∧
    records.map (·.untimed) = q.conversation.diagnostics.stages.map (·.untimed)
  requests : p.consultations.map (·.request) = q.consultations.map (·.request)

/-- Outcomes of the same work are recorded alike but for the times. -/
theorem untimed_record {name : String} {started started' : Moment} {out out' : Stage.Outcome}
    (h : out.result = out'.result) :
    (record name started out).untimed = (record name started' out').untimed := by
  simp only [record, StageRecord.untimed, h]

/-- A stage with room for its delay, after the same work, leaves the same work done. -/
theorem step_sameWork {k k' : Stage.Kind} {delay : Duration} (hsteady : k.Steady delay k')
    {p q : Progress} (h : p.SameWork q) (hroom : p.context.HasRoom p.now delay)
    (hfree : q.context = {}) :
    (p.step k.stage).SameWork (q.step k'.stage) ∧ (p.step k.stage).context = p.context ∧
      (p.step k.stage).now ≤ p.now + delay ∧ (q.step k'.stage).context = {} := by
  obtain ⟨records, hp, hrecords⟩ := h.conversation
  -- the first run has other records, which the stage does not see
  have hrun : k.stage.run p.conversation p.context p.now =
      (k.stage.run q.conversation p.context p.now).withRecords records := by
    rw [hp, k.run_withRecords]
  have hkeeps := k'.keepsRecords q.conversation q.context q.now
  obtain ⟨hsame, htakes, hcontext⟩ := hsteady.run q.conversation hroom q.now
  rw [← hfree] at hsame hcontext
  have hresult : (k.stage.run p.conversation p.context p.now).result =
      (k'.stage.run q.conversation q.context q.now).result := by
    rw [hrun]
    exact hsame.result
  have hrecord : (p.recordOf k.stage).untimed = (q.recordOf k'.stage).untimed := by
    rw [Progress.recordOf, Progress.recordOf, hsteady.name]
    exact untimed_record hresult
  refine ⟨⟨⟨records ++ [p.recordOf k.stage], ?_, ?_⟩, ?_⟩, ?_, ?_, ?_⟩
  · show (k.stage.run p.conversation p.context p.now).conversation.addRecord
        (p.recordOf k.stage) =
      ((k'.stage.run q.conversation q.context q.now).conversation.addRecord
        (q.recordOf k'.stage)).withRecords _
    rw [hrun, ← hsame.conversation]
    rfl
  · show (records ++ [p.recordOf k.stage]).map (·.untimed) =
      ((k'.stage.run q.conversation q.context q.now).conversation.diagnostics.stages ++
        [q.recordOf k'.stage]).map (·.untimed)
    rw [hkeeps, List.map_append, List.map_append, hrecords, List.map_singleton,
      List.map_singleton, hrecord]
  · show (p.consultations ++ (k.stage.run p.conversation p.context p.now).consultations).map _ =
      (q.consultations ++ (k'.stage.run q.conversation q.context q.now).consultations).map _
    rw [List.map_append, List.map_append, h.requests, hrun]
    exact congrArg (q.consultations.map (·.request) ++ ·) hsame.requests
  · show (k.stage.run p.conversation p.context p.now).context = p.context
    rw [hrun]
    exact htakes.context
  · show (k.stage.run p.conversation p.context p.now).finished ≤ p.now + delay
    rw [hrun]
    exact htakes.finished
  · exact hcontext.trans hfree

/-- Stages whose services answer after some delays, and the stages whose services give the same
answers at once. -/
inductive Steady : List Stage.Kind → List Duration → List Stage.Kind → Prop where
  | nil : Steady [] [] []
  | cons {k k' : Stage.Kind} {delay : Duration} {rest rest' : List Stage.Kind}
      {delays : List Duration} (first : k.Steady delay k') (others : Steady rest delays rest') :
      Steady (k :: rest) (delay :: delays) (k' :: rest')

theorem Steady.append {kinds kinds' more more' : List Stage.Kind} {delays later : List Duration}
    (h : Steady kinds delays kinds') (hmore : Steady more later more') :
    Steady (kinds ++ more) (delays ++ later) (kinds' ++ more') := by
  induction h with
  | nil => exact hmore
  | cons first _ ih => exact .cons first ih

/-- Stages with room for their delays do the work of stages without delays and bounds. -/
theorem run_sameWork {kinds kinds' : List Stage.Kind} {delays : List Duration}
    (hsteady : Steady kinds delays kinds') {p q : Progress} (h : p.SameWork q)
    (hroom : p.context.RoomFor p.now delays) (hfree : q.context = {}) :
    (run (kinds.map (·.stage)) p).SameWork (run (kinds'.map (·.stage)) q) := by
  induction hsteady generalizing p q with
  | nil => exact h
  | cons first others ih =>
    obtain ⟨hstep, hcontext, hnow, hfree'⟩ := step_sameWork first h hroom.1 hfree
    refine ih hstep ?_ hfree'
    rw [hcontext]
    exact hroom.2.earlier hnow

end Pipeline

-- ---------------------------------------------------------------------------
-- Requests
-- ---------------------------------------------------------------------------

/-- Services that answer after some delays, of which the one that searches may be missing. -/
def Collaborators.steady (searchDelay summaryDelay : Duration)
    (hits : Option (SearchQuery → Except ServiceError (List SearchHit)))
    (reply : String → List Message → Except ServiceError String) (counter : TokenCounter) :
    Collaborators where
  generator := .steady summaryDelay reply
  searcher := hits.map (.steady searchDelay)
  counter := counter

/-- Two arranged requests for which the same work was done, perhaps at other times. -/
structure Arranged.SameWork (out out' : Arranged) : Prop where
  messages : out.messages = out'.messages
  diagnostics : out.diagnostics.untimed = out'.diagnostics.untimed
  tokensBefore : out.tokensBefore = out'.tokensBefore
  tokensAfter : out.tokensAfter = out'.tokensAfter
  language : out.language = out'.language
  requests : out.consultations.map (·.request) = out'.consultations.map (·.request)

theorem Pipeline.Progress.SameWork.arranged {p q : Progress} (h : p.SameWork q)
    (counter : TokenCounter) (language : Option String) (messages : List Message) :
    (p.arranged counter language messages).SameWork (q.arranged counter language messages) := by
  obtain ⟨records, hp, hrecords⟩ := h.conversation
  have halike := arranged_sentAlike hp counter language messages
  refine ⟨halike.messages, ?_, halike.tokensBefore, halike.tokensAfter, halike.language,
    h.requests⟩
  rw [diagnostics_arranged, diagnostics_arranged, hp]
  show ({ q.conversation.diagnostics with stages := records.map (·.untimed) } : Diagnostics) = _
  rw [hrecords]
  rfl

namespace Plan

/-- A stage that may not be asked for takes its delay if it is. -/
theorem steady_optional (wanted : Bool) {k k' : Stage.Kind} {delay : Duration}
    (h : k.Steady delay k') :
    ∃ delays, Pipeline.Steady (if wanted then [k] else []) delays (if wanted then [k'] else []) ∧
      delays.Sublist [delay] := by
  cases wanted with
  | false => exact ⟨[], .nil, List.nil_sublist _⟩
  | true => exact ⟨[delay], .cons h .nil, List.Sublist.refl _⟩

variable (plan : Plan) (identity : Identity) {searchDelay : Duration} (summaryDelay : Duration)
  (hits : Option (SearchQuery → Except ServiceError (List SearchHit)))
  (reply : String → List Message → Except ServiceError String) (counter : TokenCounter)

theorem steady_searchKinds (hpos : 0 < plan.searchTimeout)
    (hle : searchDelay ≤ plan.searchTimeout) :
    ∃ delays, Pipeline.Steady
        (plan.searchKinds identity (.steady searchDelay summaryDelay hits reply counter)) delays
        (plan.searchKinds identity (.steady 0 0 hits reply counter)) ∧
      delays.Sublist [searchDelay] := by
  cases hits with
  | none =>
    refine ⟨[], ?_, List.nil_sublist _⟩
    unfold searchKinds
    split <;> exact .nil
  | some hits =>
    exact steady_optional plan.search
      (.passages hits (show 0 < (plan.searchOptions identity).timeout from hpos) hle)

theorem steady_kinds (hsearch : 0 < plan.searchTimeout) (hsummary : 0 < plan.summaryTimeout)
    (hsearchDelay : searchDelay ≤ plan.searchTimeout)
    (hsummaryDelay : summaryDelay ≤ plan.summaryTimeout) :
    ∃ delays, Pipeline.Steady
        (plan.kinds identity (.steady searchDelay summaryDelay hits reply counter)) delays
        (plan.kinds identity (.steady 0 0 hits reply counter)) ∧
      delays.Sublist [0, 0, searchDelay, summaryDelay] := by
  obtain ⟨a, hdocs, ha⟩ := steady_optional plan.moveToolDocs
    (.own (k := .toolDocs plan.toolDocs) rfl)
  obtain ⟨b, hloops, hb⟩ := steady_optional plan.detectLoops (.own (k := .loopBreak) rfl)
  obtain ⟨c, hpassages, hc⟩ :=
    plan.steady_searchKinds identity summaryDelay hits reply counter hsearch hsearchDelay
  obtain ⟨d, hcompress, hd⟩ := steady_optional plan.compress
    (.summary reply plan.tokenThreshold counter hsummary hsummaryDelay)
  exact ⟨a ++ b ++ c ++ d, ((hdocs.append hloops).append hpassages).append hcompress,
    ((ha.append hb).append hc).append hd⟩

end Plan

/-- A request whose services answer within their limits, before its deadline and before it is
cancelled, is arranged as one whose services answer at once and that has no bounds. The first
answer may not use up the deadline, because the second call is refused then; the second one may. -/
theorem arrange_sameWork (plan : Plan) (identity : Identity) {searchDelay summaryDelay : Duration}
    (hits : Option (SearchQuery → Except ServiceError (List SearchHit)))
    (reply : String → List Message → Except ServiceError String) (counter : TokenCounter)
    {context : RequestContext} {now : Moment} (messages : List Message)
    (hsearch : 0 < plan.searchTimeout) (hsummary : 0 < plan.summaryTimeout)
    (hsearchDelay : searchDelay ≤ plan.searchTimeout)
    (hsummaryDelay : summaryDelay ≤ plan.summaryTimeout)
    (hdeadline : ∀ d, context.deadline = some d →
      now + searchDelay < d ∧ now + searchDelay + summaryDelay ≤ d)
    (hcancelled : ∀ c, context.cancelledFrom = some c →
      now + searchDelay + summaryDelay < c) :
    (messages = [] ∧
      arrange plan identity (.steady searchDelay summaryDelay hits reply counter) context now
          messages =
        .error (.malformedInput "empty message list") ∧
      arrange plan identity (.steady 0 0 hits reply counter) {} now messages =
        .error (.malformedInput "empty message list")) ∨
    ∃ out out',
      arrange plan identity (.steady searchDelay summaryDelay hits reply counter) context now
          messages =
        .ok out ∧
      arrange plan identity (.steady 0 0 hits reply counter) {} now messages = .ok out' ∧
      out.SameWork out' := by
  by_cases hne : messages = []
  · subst hne
    exact Or.inl ⟨rfl, arrange_nil _ _ _ _ _, arrange_nil _ _ _ _ _⟩
  right
  obtain ⟨delays, hsteady, hdelays⟩ := plan.steady_kinds identity summaryDelay hits reply counter
    hsearch hsummary hsearchDelay hsummaryDelay
  have hroom := RequestContext.roomFor_two_calls hdeadline hcancelled
  obtain ⟨o, -, -, -, hparse, hout⟩ := exists_arranged plan identity
    (.steady searchDelay summaryDelay hits reply counter) context now hne
  have hout' := @arrange_eq plan identity (.steady 0 0 hits reply counter) {} now _ _ hparse
  rw [plan.stages_eq_kinds] at hout'
  have hstart : Pipeline.Progress.SameWork { conversation := o.conversation, context, now }
      { conversation := o.conversation, context := {}, now } :=
    ⟨⟨_, rfl, rfl⟩, rfl⟩
  have hrun := Pipeline.run_sameWork hsteady hstart (hroom.sublist hdelays) rfl
  exact ⟨_, _, hout, hout', hrun.arranged counter identity.language? messages⟩

/-- Both calls may take as long as they may, and the second one until the deadline. -/
theorem arrange_sameWork_deadline :
    0 < (5 : Duration) ∧ 0 < (7 : Duration) ∧ (5 : Duration) ≤ 5 ∧ (7 : Duration) ≤ 7 ∧
    (∀ d, ({ deadline := some 15, cancelledFrom := some 16 } : RequestContext).deadline = some d →
      (3 : Moment) + 5 < d ∧ (3 : Moment) + 5 + 7 ≤ d) ∧
    (∀ c, ({ deadline := some 15, cancelledFrom := some 16 } : RequestContext).cancelledFrom =
      some c → (3 : Moment) + 5 + 7 < c) ∧
    ∃ out out', arrange { Settings.plan {} with
          search := true, searchTimeout := 5, summaryTimeout := 7, recentWindow := 1,
          tokenThreshold := 0 } {}
        (.steady 5 7 (some fun _ => .ok [{ text := "So.", score := .zero }]) (fun _ _ => .ok "Hi.")
          .heuristic)
        { deadline := some 15, cancelledFrom := some 16 } 3
        [.user (.plain "Hi"), .assistant (.plain "Yes?"), .user (.plain "Why?")] = .ok out ∧
      out.finished = 15 ∧ out.SameWork out' := by
  have hdeadline : ∀ d, ({ deadline := some 15, cancelledFrom := some 16 } :
      RequestContext).deadline = some d → (3 : Moment) + 5 < d ∧ (3 : Moment) + 5 + 7 ≤ d := by
    rintro _ ⟨⟩
    decide
  have hcancelled : ∀ c, ({ deadline := some 15, cancelledFrom := some 16 } :
      RequestContext).cancelledFrom = some c → (3 : Moment) + 5 + 7 < c := by
    rintro _ ⟨⟩
    decide
  refine ⟨by decide, by decide, by decide, by decide, hdeadline, hcancelled, ?_⟩
  rcases arrange_sameWork { Settings.plan {} with
        search := true, searchTimeout := 5, summaryTimeout := 7, recentWindow := 1,
        tokenThreshold := 0 } {} (some fun _ => .ok [{ text := "So.", score := .zero }])
      (fun _ _ => .ok "Hi.") .heuristic
      [.user (.plain "Hi"), .assistant (.plain "Yes?"), .user (.plain "Why?")]
      (show 0 < (5 : Duration) by decide) (show 0 < (7 : Duration) by decide) (Nat.le_refl 5)
      (Nat.le_refl 7) hdeadline hcancelled with ⟨hnil, -⟩ | ⟨out, out', hout, -, hsame⟩
  · cases hnil
  · refine ⟨out, out', hout, ?_, hsame⟩
    obtain rfl := Except.ok.inj hout
    rfl

end PromptBudget
