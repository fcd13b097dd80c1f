import Mathlib.Data.ENat.Lattice
import PromptBudget.Arrange
import PromptBudget.Http.Completions
import PromptBudget.Http.Passages
import PromptBudget.Proofs.Waits

/-!
# PromptBudget — what decides how a guarded call ends

Three things can end a call that has been started: the request is cancelled, the service answers,
and the limit is over. The earliest of them decides. What never happens is at infinity, so times are
compared in `ℕ∞`. If two come at one moment, it is the cancellation before the answer, and the
answer before the limit.

The limit is the lesser of the call's own and what is left until the deadline. Guards under the same
request can be nested, as clients are that guard their calls in stages that guard the clients. The
ends of a call are combined by `Call.earlier`, which is associative and gives one of two equal ends,
so nested guards are one guard with the lesser limit.

Main results:

* `Call.guards_iff` — the guard of a call resolves to the earliest of what can end it.
* `Call.guarded_guarded` — limits of nested guards combine to the lesser.
* `Call.guarded_within_guarded` — a guard without a limit inside another one makes no difference.
* `arrange_guarding` — so services that guard their own calls are used like those that do not.
-/

namespace PromptBudget

-- ---------------------------------------------------------------------------
-- Times that may be infinite
-- ---------------------------------------------------------------------------

/-- A time, or infinity if there is none. -/
def timeOf : Option Duration → ℕ∞
  | some t => t
  | none => ⊤

theorem timeOf_eq_coe_iff {time : Option Duration} {t : Duration} :
    timeOf time = t ↔ time = some t := by
  cases time with
  | none => simp [timeOf]
  | some x => simp [timeOf]

theorem timeOf_eq_top_iff {time : Option Duration} : timeOf time = ⊤ ↔ time = none := by
  cases time with
  | none => simp [timeOf]
  | some x => simp [timeOf]

theorem timeOf_injective : Function.Injective timeOf := by
  intro a b h
  cases b with
  | none => exact timeOf_eq_top_iff.1 h
  | some t => exact timeOf_eq_coe_iff.1 h

theorem coe_le_timeOf_iff {time : Option Duration} {t : Duration} :
    (t : ℕ∞) ≤ timeOf time ↔ ∀ x, time = some x → t ≤ x := by
  cases time with
  | none => simp [timeOf]
  | some x => simp [timeOf]

theorem coe_lt_timeOf_iff {time : Option Duration} {t : Duration} :
    (t : ℕ∞) < timeOf time ↔ ∀ x, time = some x → t < x := by
  cases time with
  | none => simp [timeOf]
  | some x => simp [timeOf]

theorem timeOf_lesser (a b : Option Duration) :
    timeOf (lesser a b) = min (timeOf a) (timeOf b) := by
  cases a with
  | none => cases b <;> simp [lesser, timeOf]
  | some x =>
    cases b with
    | none => simp [lesser, timeOf]
    | some y => exact Nat.mono_cast.map_min

-- ---------------------------------------------------------------------------
-- The earliest event
-- ---------------------------------------------------------------------------

namespace RequestContext

/-- How long a call may take that is made at a moment: the lesser of its own limit and what is left
until the deadline. -/
noncomputable def timeLeft (context : RequestContext) (now : Moment)
    (timeout : Option Duration) : ℕ∞ :=
  min (timeOf timeout) (timeOf (context.remaining now))

/-- When a request is cancelled, counted from a moment. -/
def untilCancelled (context : RequestContext) (now : Moment) : ℕ∞ :=
  timeOf (context.cancelledFrom.map (· - now))

variable {context : RequestContext} {now : Moment}

theorem timeLeft_lesser (a b : Option Duration) :
    context.timeLeft now (lesser a b) = min (context.timeLeft now a) (context.timeLeft now b) := by
  unfold timeLeft
  rw [timeOf_lesser]
  exact inf_inf_distrib_right _ _ _

/-- The lesser of two limits and what is left until the deadline, which can be counted twice. -/
theorem lesser_lesser_remaining (a b : Option Duration) :
    lesser (lesser a (context.remaining now)) (lesser b (context.remaining now)) =
      lesser (lesser a b) (context.remaining now) := by
  refine timeOf_injective ?_
  simp only [timeOf_lesser]
  exact (inf_inf_distrib_right _ _ _).symm

theorem untilCancelled_pos (h : context.isCancelled now = false) :
    0 < context.untilCancelled now := by
  refine coe_lt_timeOf_iff.2 ?_
  intro left hleft
  obtain ⟨c, hc, rfl⟩ := Option.map_eq_some_iff.1 hleft
  rw [isCancelled, hc, Option.any_some, decide_eq_false_iff_not] at h
  exact Nat.sub_pos_of_lt (Nat.lt_of_not_le h)

end RequestContext

namespace Call

/-- How long a call takes if nothing else ends it. -/
def time (call : Call α) : ℕ∞ :=
  timeOf (call.answer.map (·.after))

/-- What the guard of a call makes of it, under the bounds of a request and a limit of its own. -/
inductive Guards (context : RequestContext) (now : Moment) (timeout : Option Duration)
    (call : Call α) : Call α → Prop where
  /-- Under a cancelled request the call is not started. -/
  | tooLate (hcancelled : context.isCancelled now = true) :
      Guards context now timeout call (refused .cancelled)
  /-- Without time it is not started. -/
  | noTime (hopen : context.isCancelled now = false) (hlimit : context.timeLeft now timeout = 0) :
      Guards context now timeout call (refused (.timeout 0))
  /-- The request is cancelled before anything else happens. -/
  | cancelled {c : Duration} (hopen : context.isCancelled now = false)
      (hpos : 0 < context.timeLeft now timeout) (hc : context.untilCancelled now = c)
      (hcall : c ≤ call.time) (hlimit : c ≤ context.timeLeft now timeout) :
      Guards context now timeout call { call with answer := some (abandoned c) }
  /-- The service answers in time. What it answers is not changed, even if it cancels the request
  with its answer. -/
  | answered (hopen : context.isCancelled now = false)
      (hpos : 0 < context.timeLeft now timeout) (hfree : call.time < context.untilCancelled now)
      (hlimit : call.time ≤ context.timeLeft now timeout) : Guards context now timeout call call
  /-- The limit is over before anything else happens. -/
  | expired {l : Duration} (hopen : context.isCancelled now = false)
      (hpos : 0 < context.timeLeft now timeout) (hl : context.timeLeft now timeout = l)
      (hfree : l < context.untilCancelled now) (hcall : l < call.time) :
      Guards context now timeout call { call with answer := some (expired l) }
  /-- Nothing happens, ever. -/
  | endless (hopen : context.isCancelled now = false) (hlimit : context.timeLeft now timeout = ⊤)
      (hfree : context.untilCancelled now = ⊤) (hcall : call.time = ⊤) :
      Guards context now timeout call call

variable {context : RequestContext} {now : Moment} {timeout : Option Duration} {call : Call α}

theorem coe_le_time_iff {t : Duration} :
    (t : ℕ∞) ≤ call.time ↔ ∀ answer, call.answer = some answer → t ≤ answer.after := by
  rw [time, coe_le_timeOf_iff]
  cases call.answer <;> simp

theorem coe_lt_time_iff {t : Duration} :
    (t : ℕ∞) < call.time ↔ ∀ answer, call.answer = some answer → t < answer.after := by
  rw [time, coe_lt_timeOf_iff]
  cases call.answer <;> simp

theorem time_of_answer {answer : Answer α} (h : call.answer = some answer) :
    call.time = answer.after := by
  rw [time, h]
  rfl

theorem time_eq_top_iff : call.time = ⊤ ↔ call.answer = none := by
  rw [time, timeOf_eq_top_iff, Option.map_eq_none_iff]

/-- A call that may be started is bounded. -/
theorem guarded_of_timeLeft (hopen : context.isCancelled now = false)
    (hpos : 0 < context.timeLeft now timeout) :
    call.guarded context now timeout =
      call.bounded (lesser timeout (context.remaining now))
        (context.cancelledFrom.map (· - now)) := by
  have hlimit : lesser timeout (context.remaining now) ≠ some 0 := by
    intro hzero
    rw [RequestContext.timeLeft, ← timeOf_lesser, hzero] at hpos
    exact absurd hpos (lt_irrefl _)
  unfold guarded
  rw [hopen, if_neg Bool.false_ne_true]
  exact if_neg hlimit

theorem bounded_of_ends {limit cancellation : Option Duration} {ending : Answer α}
    (h : Ends call limit cancellation ending) :
    call.bounded limit cancellation = { call with answer := some ending } := by
  rw [← ends_iff.2 h]
  rfl

theorem guarded_of_guards {out : Call α} (h : Guards context now timeout call out) :
    call.guarded context now timeout = out := by
  cases h with
  | tooLate hcancelled => exact guarded_of_isCancelled hcancelled timeout call
  | noTime hopen hlimit =>
    rw [RequestContext.timeLeft, ← timeOf_lesser] at hlimit
    exact guarded_of_limit_zero hopen (timeOf_eq_coe_iff.1 hlimit) call
  | cancelled hopen hpos hc hcall hlimit =>
    rw [guarded_of_timeLeft hopen hpos]
    rw [RequestContext.timeLeft, ← timeOf_lesser] at hlimit
    exact bounded_of_ends (.cancelled (timeOf_eq_coe_iff.1 hc) (coe_le_time_iff.1 hcall)
      (coe_le_timeOf_iff.1 hlimit))
  | answered hopen hpos hfree hlimit =>
    rw [guarded_of_timeLeft hopen hpos]
    -- it comes before something else, so it comes
    cases hanswer : call.answer with
    | none =>
      rw [time_eq_top_iff.2 hanswer] at hfree
      exact absurd hfree not_top_lt
    | some answer =>
      rw [time_of_answer hanswer] at hfree hlimit
      rw [RequestContext.timeLeft, ← timeOf_lesser] at hlimit
      rw [bounded_of_ends (.answered hanswer (coe_lt_timeOf_iff.1 hfree)
        (coe_le_timeOf_iff.1 hlimit)), ← hanswer]
  | expired hopen hpos hl hfree hcall =>
    rw [guarded_of_timeLeft hopen hpos]
    rw [RequestContext.timeLeft, ← timeOf_lesser] at hl
    exact bounded_of_ends (.expired (timeOf_eq_coe_iff.1 hl) (coe_lt_timeOf_iff.1 hfree)
      (coe_lt_time_iff.1 hcall))
  | endless hopen hlimit hfree hcall =>
    rw [guarded_of_timeLeft hopen (by rw [hlimit]; exact ENat.top_pos)]
    rw [RequestContext.timeLeft, ← timeOf_lesser, timeOf_eq_top_iff] at hlimit
    rw [RequestContext.untilCancelled, timeOf_eq_top_iff] at hfree
    rw [hlimit, hfree]
    obtain ⟨answer, started⟩ := call
    obtain rfl : answer = none := time_eq_top_iff.1 hcall
    rfl

theorem exists_guards (context : RequestContext) (now : Moment) (timeout : Option Duration)
    (call : Call α) : ∃ out, Guards context now timeout call out := by
  cases hcancelled : context.isCancelled now with
  | true => exact ⟨_, .tooLate hcancelled⟩
  | false =>
    rcases eq_zero_or_pos (context.timeLeft now timeout) with hzero | hpos
    · exact ⟨_, .noTime hcancelled hzero⟩
    have hleft : context.timeLeft now timeout = timeOf (lesser timeout (context.remaining now)) :=
      (timeOf_lesser _ _).symm
    cases hanswer : (call.bounded (lesser timeout (context.remaining now))
        (context.cancelledFrom.map (· - now))).answer with
    | none =>
      obtain ⟨hcall, hlimit, hfree⟩ := bounded_answer_eq_none_iff.1 hanswer
      refine ⟨_, .endless hcancelled ?_ (timeOf_eq_top_iff.2 hfree) (time_eq_top_iff.2 hcall)⟩
      rw [hleft, timeOf_eq_top_iff, hlimit]
    | some ending =>
      cases ends_of_bounded hanswer with
      | cancelled hc hsilent hlimit =>
        refine ⟨_, .cancelled hcancelled hpos (timeOf_eq_coe_iff.2 hc)
          (coe_le_time_iff.2 hsilent) ?_⟩
        rwa [hleft, coe_le_timeOf_iff]
      | answered hending hfree hlimit =>
        have htime := time_of_answer hending
        refine ⟨_, .answered hcancelled hpos ?_ ?_⟩
        · rw [htime]
          exact coe_lt_timeOf_iff.2 hfree
        · rwa [htime, hleft, coe_le_timeOf_iff]
      | expired hl hfree hsilent =>
        refine ⟨_, .expired hcancelled hpos ?_ (coe_lt_timeOf_iff.2 hfree)
          (coe_lt_time_iff.2 hsilent)⟩
        rw [hleft, timeOf_eq_coe_iff, hl]

/-- The guard of a call resolves to the earliest of what can end it, whatever the bounds of the
request, the limit of the call and the call are, and to nothing else. -/
theorem guards_iff {out : Call α} :
    Guards context now timeout call out ↔ out = call.guarded context now timeout := by
  constructor
  · intro h
    exact (guarded_of_guards h).symm
  · rintro rfl
    obtain ⟨out, hout⟩ := exists_guards context now timeout call
    rwa [guarded_of_guards hout]

-- ---------------------------------------------------------------------------
-- Nested guards
-- ---------------------------------------------------------------------------

theorem earlier_self (a : Option (Answer α)) : earlier a a = a := by
  cases a with
  | none => rfl
  | some x => exact if_pos (Nat.le_refl x.after)

theorem earlier_assoc (a b c : Option (Answer α)) :
    earlier (earlier a b) c = earlier a (earlier b c) := by
  cases a with
  | none => rfl
  | some x =>
    cases b with
    | none => rfl
    | some y =>
      cases c with
      | none => rw [earlier_none, earlier_none]
      | some z =>
        by_cases hxy : x.after ≤ y.after
        · by_cases hyz : y.after ≤ z.after
          · have hxz := Nat.le_trans hxy hyz
            simp only [earlier, if_pos hxy, if_pos hyz, if_pos hxz]
          · simp only [earlier, if_pos hxy, if_neg hyz]
        · by_cases hyz : y.after ≤ z.after
          · simp only [earlier, if_neg hxy, if_pos hyz]
          · have hxz : ¬ x.after ≤ z.after := Nat.not_le_of_lt
              (Nat.lt_trans (Nat.lt_of_not_le hyz) (Nat.lt_of_not_le hxy))
            simp only [earlier, if_neg hxy, if_neg hyz, if_neg hxz]

/-- Of two limits the lesser ends a call. -/
theorem earlier_expired (a b : Option Duration) :
    earlier (a.map expired) (b.map expired) =
      ((lesser a b).map expired : Option (Answer α)) := by
  cases a with
  | none => cases b <;> rfl
  | some x =>
    cases b with
    | none => rfl
    | some y =>
      show (if x ≤ y then some (expired x) else some (expired y)) = some (expired (min x y))
      by_cases h : x ≤ y
      · rw [if_pos h, Nat.min_eq_left h]
      · rw [if_neg h, Nat.min_eq_right (Nat.le_of_not_le h)]

/-- Bounds with the same cancellation combine to bounds with the lesser limit. -/
theorem bounded_bounded (limit limit' cancellation : Option Duration) (call : Call α) :
    (call.bounded limit' cancellation).bounded limit cancellation =
      call.bounded (lesser limit' limit) cancellation := by
  have hanswer : ((call.bounded limit' cancellation).bounded limit cancellation).answer =
      (call.bounded (lesser limit' limit) cancellation).answer := calc
    _ = earlier (cancellation.map abandoned) (earlier (earlier (cancellation.map abandoned)
          (earlier call.answer (limit'.map expired))) (limit.map expired)) := rfl
    _ = earlier (earlier (cancellation.map abandoned) (cancellation.map abandoned))
          (earlier call.answer (earlier (limit'.map expired) (limit.map expired))) := by
        simp only [earlier_assoc]
    _ = earlier (cancellation.map abandoned)
          (earlier call.answer ((lesser limit' limit).map expired)) := by
        rw [earlier_self, earlier_expired]
  exact congrArg (fun answer => ({ answer, started := call.started } : Call α)) hanswer

/-- A call that has been refused is refused by another guard, too. -/
theorem guarded_refused {error : ServiceError} (hopen : context.isCancelled now = false)
    (hpos : 0 < context.timeLeft now timeout) :
    (refused error : Call α).guarded context now timeout = refused error :=
  guarded_of_guards (.answered hopen hpos (context.untilCancelled_pos hopen) zero_le)

/-- Nested guards under one request are one guard with the lesser limit. -/
theorem guarded_guarded (context : RequestContext) (now : Moment)
    (timeout timeout' : Option Duration) (call : Call α) :
    (call.guarded context now timeout').guarded context now timeout =
      call.guarded context now (lesser timeout' timeout) := by
  cases hcancelled : context.isCancelled now with
  | true => rw [guarded_of_isCancelled hcancelled, guarded_of_isCancelled hcancelled]
  | false =>
    have hboth : context.timeLeft now (lesser timeout' timeout) =
        min (context.timeLeft now timeout') (context.timeLeft now timeout) :=
      RequestContext.timeLeft_lesser timeout' timeout
    rcases eq_zero_or_pos (context.timeLeft now timeout) with hzero | hpos
    · -- the outer guard refuses
      rw [hzero, min_zero] at hboth
      rw [guarded_of_guards (.noTime hcancelled hzero),
        guarded_of_guards (.noTime hcancelled hboth)]
    rcases eq_zero_or_pos (context.timeLeft now timeout') with hzero' | hpos'
    · -- the inner guard refuses, and nothing is left for the outer one to do
      rw [hzero', zero_min] at hboth
      rw [guarded_of_guards (.noTime hcancelled hzero'), guarded_refused hcancelled hpos,
        guarded_of_guards (.noTime hcancelled hboth)]
    · have hpos'' : 0 < context.timeLeft now (lesser timeout' timeout) := by
        rw [hboth]
        exact lt_min hpos' hpos
      rw [guarded_of_timeLeft hcancelled hpos, guarded_of_timeLeft hcancelled hpos',
        guarded_of_timeLeft hcancelled hpos'', bounded_bounded,
        RequestContext.lesser_lesser_remaining]

/-- A client that guards its call, without a limit of its own, can be used under a guard like one
that does not: whatever comes of the call comes of it at the same time, and the service is called in
the same cases. -/
theorem guarded_within_guarded (context : RequestContext) (now : Moment)
    (timeout : Option Duration) (call : Call α) :
    (call.guarded context now none).guarded context now timeout =
      call.guarded context now timeout := by
  rw [guarded_guarded]
  rfl

end Call

-- ---------------------------------------------------------------------------
-- Services that guard their own calls
-- ---------------------------------------------------------------------------

/-- A generator that guards its calls, without a limit of its own. -/
def Generator.guarding (generator : Generator) : Generator where
  generate context now systemPrompt messages :=
    (generator.generate context now systemPrompt messages).guarded context now none

/-- A searcher that guards its calls, without a limit of its own. -/
def Searcher.guarding (searcher : Searcher) : Searcher where
  search context now query := (searcher.search context now query).guarded context now none

/-- Services that guard their calls. -/
def Collaborators.guarding (services : Collaborators) : Collaborators where
  generator := services.generator.guarding
  searcher := services.searcher.map Searcher.guarding
  counter := services.counter

/-- The generator over HTTP guards its calls. -/
theorem Http.Completions.exists_generator_eq_guarding (transport : Transport)
    (settings : LlmSettings) :
    ∃ bare : Generator, generator transport settings = bare.guarding := by
  refine ⟨⟨fun _ _ systemPrompt messages => (request? settings systemPrompt messages).elim
    { answer := some { after := 0, result := .error (.network "builder error") } }
    fun request => (transport.send request).map (classify answerText)⟩, ?_⟩
  unfold generator Generator.guarding
  congr 1
  funext context now systemPrompt messages
  dsimp only
  cases request? settings systemPrompt messages <;> rfl

/-- The searcher over HTTP guards its calls. -/
theorem Http.Passages.exists_searcherAt_eq_guarding (transport : Transport) (endpoint : String) :
    ∃ bare : Searcher, searcherAt transport endpoint = bare.guarding :=
  ⟨{ search := fun _ _ query =>
      (transport.send (request endpoint query)).map (classify (readBody hits?)) }, rfl⟩

/-- A service that guards its calls is not asked otherwise. -/
theorem Stage.Outcome.ofCall_guarding {guarding service : Service ρ α}
    (hask : ∀ context now question, guarding.ask context now question =
      (service.ask context now question).guarded context now none)
    (hnote : guarding.note = service.note) (question : ρ) (limit : Duration) (c : Conversation)
    (context : RequestContext) (now : Moment) (decide : α → Work Bool) :
    ofCall guarding question limit c context now decide =
      ofCall service question limit c context now decide := by
  simp only [ofCall, Service.call, hask, hnote, Call.guarded_guarded]
  rfl

theorem Summary.stage_guarding (generator : Generator) (tokenThreshold : Nat)
    (timeout : Duration) (counter : TokenCounter) :
    stage generator.guarding tokenThreshold timeout counter =
      stage generator tokenThreshold timeout counter := by
  have hcall := @Stage.Outcome.ofCall_guarding _ _ generator.guarding.service generator.service
    (fun _ _ _ => rfl) rfl
  simp only [stage, hcall]

theorem Passages.stage_guarding (searcher : Searcher) (options : Options) :
    stage searcher.guarding options = stage searcher options := by
  have hcall := @Stage.Outcome.ofCall_guarding _ _ searcher.guarding.service searcher.service
    (fun _ _ _ => rfl) rfl
  simp only [stage, hcall]

theorem Plan.stages_guarding (plan : Plan) (identity : Identity) (services : Collaborators) :
    plan.stages identity services.guarding = plan.stages identity services := by
  have hpassages : plan.passages? identity services.guarding.searcher =
      plan.passages? identity services.searcher := by
    simp only [passages?, Collaborators.guarding, Option.map_map, Function.comp_def,
      Passages.stage_guarding]
  have hsummary : Summary.stage services.guarding.generator plan.tokenThreshold
        plan.summaryTimeout services.guarding.counter =
      Summary.stage services.generator plan.tokenThreshold plan.summaryTimeout services.counter :=
    Summary.stage_guarding _ _ _ _
  unfold stages
  rw [hpassages, hsummary]

/-- It makes no difference to a request whether its services guard their calls themselves. -/
theorem arrange_guarding (plan : Plan) (identity : Identity) (services : Collaborators)
    (context : RequestContext) (now : Moment) (messages : List Message) :
    arrange plan identity services.guarding context now messages =
      arrange plan identity services context now messages := by
  unfold arrange
  rw [Plan.stages_guarding]
  rfl

end PromptBudget
