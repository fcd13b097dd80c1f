import PromptBudget.Proofs.Bounds

/-!
# PromptBudget — waiting for a service, moment by moment

A guarded call is an answer and the time it takes. Whoever waits for it does not see this: at each
moment he can only look whether the request is cancelled, whether the service has answered and
whether his time is over, in this order, and otherwise wait on. `Call.due?` is such a look. As long
as he looks at every moment, he sees nothing until the guarded call ends, and at that moment he sees
its end.

A stage that waits has two halves: what it does until it asks its service (`Stage.Kind.start`), and
what it does with the answer (`Stage.Outcome.answered`). Put together around a guarded call they are
the stage.

Main results:

* `Call.ends_iff` — a bounded call ends with whatever comes first.
* `Call.due?_of_lt`, `Call.due?_of_eq` — what is seen of a call at each moment until its end.
* `Stage.Kind.begins` — what the first half says of the stage.
* `Stage.Kind.run_of_ended`, `Stage.Kind.run_of_refused`, `Stage.Kind.run_of_asked` — a stage from
  its two halves.
-/

namespace PromptBudget

-- ---------------------------------------------------------------------------
-- Leave to call
-- ---------------------------------------------------------------------------

namespace RequestContext

/-- How long a call may take that is made at a moment. -/
def limit (context : RequestContext) (now : Moment) (timeout : Duration) : Duration :=
  (context.remaining now).elim timeout (min timeout)

/-- Why a call cannot be made at a moment, or how long it may take. -/
def grant (context : RequestContext) (now : Moment) (timeout : Duration) :
    Except ServiceError Duration :=
  if context.isCancelled now then .error .cancelled
  else if context.limit now timeout = 0 then .error (.timeout 0)
  else .ok (context.limit now timeout)

variable {context : RequestContext} {now : Moment} {timeout : Duration}

theorem lesser_remaining :
    lesser (some timeout) (context.remaining now) = some (context.limit now timeout) := by
  unfold limit
  cases context.remaining now <;> rfl

theorem limit_le : context.limit now timeout ≤ timeout := by
  unfold limit
  cases context.remaining now with
  | none => exact Nat.le_refl timeout
  | some left => exact Nat.min_le_left timeout left

theorem le_of_grant {limit : Duration} (h : context.grant now timeout = .ok limit) :
    limit ≤ timeout := by
  unfold grant at h
  split at h
  · cases h
  · split at h
    · cases h
    · rw [← Except.ok.inj h]
      exact limit_le

end RequestContext

namespace Call

variable {context : RequestContext} {now : Moment} {timeout : Duration}

theorem guarded_of_refused {e : ServiceError} (h : context.grant now timeout = .error e)
    (call : Call α) : call.guarded context now (some timeout) = refused e := by
  unfold RequestContext.grant at h
  split at h
  · next hcancelled =>
    obtain rfl := Except.error.inj h
    exact guarded_of_isCancelled hcancelled (some timeout) call
  · next hopen =>
    split at h
    · next hzero =>
      obtain rfl := Except.error.inj h
      refine guarded_of_limit_zero (Bool.eq_false_iff.2 hopen) ?_ call
      rw [RequestContext.lesser_remaining, hzero]
    · cases h

theorem guarded_of_grant {limit : Duration} (h : context.grant now timeout = .ok limit)
    (call : Call α) :
    call.guarded context now (some timeout) =
      call.bounded (some limit) (context.cancelledFrom.map (· - now)) := by
  unfold RequestContext.grant at h
  split at h
  · cases h
  · next hopen =>
    split at h
    · cases h
    · next hpositive =>
      obtain rfl := Except.ok.inj h
      unfold guarded
      rw [if_neg hopen, RequestContext.lesser_remaining]
      exact if_neg fun hzero => hpositive (Option.some.inj hzero)

-- ---------------------------------------------------------------------------
-- Looking at a call
-- ---------------------------------------------------------------------------

/-- What is seen of a call some time after its start: that the request is cancelled, else the answer
of the service, else that the time is over. -/
def due? (call : Call α) (limit cancellation : Option Duration) (elapsed : Duration) :
    Option (Answer α) :=
  match cancellation.filter (· ≤ elapsed) with
  | some c => some (abandoned c)
  | none =>
    match call.answer.filter (·.after ≤ elapsed) with
    | some answer => some answer
    | none => (limit.filter (· ≤ elapsed)).map expired

/-- How a call ends that is bounded, perhaps by a limit and perhaps by a cancellation. -/
inductive Ends (call : Call α) (limit cancellation : Option Duration) : Answer α → Prop where
  | cancelled {c : Duration} (hc : cancellation = some c)
      (hsilent : ∀ answer, call.answer = some answer → c ≤ answer.after)
      (hlimit : ∀ l, limit = some l → c ≤ l) : Ends call limit cancellation (abandoned c)
  | answered {answer : Answer α} (hanswer : call.answer = some answer)
      (hfree : ∀ c, cancellation = some c → answer.after < c)
      (hlimit : ∀ l, limit = some l → answer.after ≤ l) : Ends call limit cancellation answer
  | expired {l : Duration} (hl : limit = some l)
      (hfree : ∀ c, cancellation = some c → l < c)
      (hsilent : ∀ answer, call.answer = some answer → l < answer.after) :
      Ends call limit cancellation (expired l)

section Due

variable {call : Call α} {limit cancellation : Option Duration} {ending : Answer α}
  {elapsed : Duration}

theorem ends_of_bounded (h : (call.bounded limit cancellation).answer = some ending) :
    Ends call limit cancellation ending := by
  rcases earlier_eq_some_iff.1 h with ⟨hcancelled, hfirst⟩ | ⟨hinner, hfree⟩
  · obtain ⟨c, rfl, rfl⟩ := Option.map_eq_some_iff.1 hcancelled
    -- the earlier one of answer and limit, if there is any, comes no later than either
    have hbefore : ∀ x, call.answer = some x ∨ limit.map expired = some x → c ≤ x.after := by
      intro x hx
      cases hinner : earlier call.answer (limit.map expired) with
      | none =>
        obtain ⟨hnone, hnone'⟩ := earlier_eq_none_iff.1 hinner
        rw [hnone, hnone'] at hx
        rcases hx with hx | hx <;> cases hx
      | some y =>
        obtain ⟨hle, hle'⟩ := after_le_of_earlier hinner
        exact Nat.le_trans (hfirst y hinner) (hx.elim (hle x) (hle' x))
    refine .cancelled rfl (fun answer hanswer => hbefore answer (Or.inl hanswer)) ?_
    rintro l rfl
    exact hbefore (expired l) (Or.inr rfl)
  · have hopen : ∀ c, cancellation = some c → ending.after < c := by
      rintro c rfl
      exact hfree (abandoned c) rfl
    rcases earlier_eq_some_iff.1 hinner with ⟨hanswer, hlimit⟩ | ⟨hexpired, hsilent⟩
    · refine .answered hanswer hopen ?_
      rintro l rfl
      exact hlimit (expired l) rfl
    · obtain ⟨l, rfl, rfl⟩ := Option.map_eq_some_iff.1 hexpired
      exact .expired rfl hopen hsilent

/-- A bounded call ends with whatever comes first of its cancellation, its answer and its limit. -/
theorem ends_iff : (call.bounded limit cancellation).answer = some ending ↔
    Ends call limit cancellation ending := by
  refine ⟨ends_of_bounded, fun h => earlier_eq_some_iff.2 ?_⟩
  cases h with
  | @cancelled c hc hsilent hlimit =>
    refine Or.inl ⟨by rw [hc, Option.map_some], fun y hy => ?_⟩
    rcases earlier_eq_some_iff.1 hy with ⟨hanswer, -⟩ | ⟨hexpired, -⟩
    · exact hsilent y hanswer
    · obtain ⟨l, hl, rfl⟩ := Option.map_eq_some_iff.1 hexpired
      exact hlimit l hl
  | answered hanswer hfree hlimit =>
    refine Or.inr ⟨earlier_eq_some_iff.2 (Or.inl ⟨hanswer, fun y hy => ?_⟩), fun x hx => ?_⟩
    · obtain ⟨l, hl, rfl⟩ := Option.map_eq_some_iff.1 hy
      exact hlimit l hl
    · obtain ⟨c, hc, rfl⟩ := Option.map_eq_some_iff.1 hx
      exact hfree c hc
  | expired hl hfree hsilent =>
    refine Or.inr ⟨earlier_eq_some_iff.2 (Or.inr ⟨by rw [hl, Option.map_some], hsilent⟩), ?_⟩
    intro x hx
    obtain ⟨c, hc, rfl⟩ := Option.map_eq_some_iff.1 hx
    exact hfree c hc

/-- A bounded call never ends if nothing ends it. -/
theorem bounded_answer_eq_none_iff : (call.bounded limit cancellation).answer = none ↔
    call.answer = none ∧ limit = none ∧ cancellation = none := by
  show earlier _ _ = none ↔ _
  rw [earlier_eq_none_iff, earlier_eq_none_iff, Option.map_eq_none_iff, Option.map_eq_none_iff]
  exact and_comm.trans and_assoc

/-- What has not come yet is not seen. -/
theorem filter_eq_none_of_lt {time : Option Duration} (h : ∀ t, time = some t → elapsed < t) :
    time.filter (· ≤ elapsed) = none := by
  rw [Option.filter_eq_none_iff]
  intro t ht
  rw [decide_eq_true_eq]
  exact Nat.not_le_of_lt (h t ht)

/-- A service that has not answered is not heard. -/
theorem filter_answer_of_lt
    (h : ∀ answer, call.answer = some answer → elapsed < answer.after) :
    call.answer.filter (·.after ≤ elapsed) = none := by
  rw [Option.filter_eq_none_iff]
  intro answer hanswer
  rw [decide_eq_true_eq]
  exact Nat.not_le_of_lt (h answer hanswer)

/-- Until a call ends, nothing is seen of it. -/
theorem due?_of_lt (hends : Ends call limit cancellation ending)
    (h : elapsed < ending.after) : call.due? limit cancellation elapsed = none := by
  -- of the cancellation, the answer and the limit none comes before the end
  have hfree : ∀ c, cancellation = some c → elapsed < c := by
    intro c hc
    cases hends with
    | cancelled hcancelled =>
      obtain rfl := Option.some.inj (hc.symm.trans hcancelled)
      exact h
    | answered _ hlt => exact Nat.lt_trans h (hlt c hc)
    | expired _ hlt => exact Nat.lt_trans h (hlt c hc)
  have hsilent : ∀ answer, call.answer = some answer → elapsed < answer.after := by
    intro answer hanswer
    cases hends with
    | cancelled _ hle => exact Nat.lt_of_lt_of_le h (hle answer hanswer)
    | answered hending =>
      obtain rfl := Option.some.inj (hanswer.symm.trans hending)
      exact h
    | expired _ _ hlt => exact Nat.lt_trans h (hlt answer hanswer)
  have hlimit : ∀ l, limit = some l → elapsed < l := by
    intro l hl
    cases hends with
    | cancelled _ _ hle => exact Nat.lt_of_lt_of_le h (hle l hl)
    | answered _ _ hle => exact Nat.lt_of_lt_of_le h (hle l hl)
    | expired hlimit =>
      obtain rfl := Option.some.inj (hl.symm.trans hlimit)
      exact h
  unfold due?
  rw [filter_eq_none_of_lt hfree, filter_answer_of_lt hsilent, filter_eq_none_of_lt hlimit]
  rfl

/-- At the moment at which a call ends, its end is seen. -/
theorem due?_of_eq (hends : Ends call limit cancellation ending) :
    call.due? limit cancellation ending.after = some ending := by
  unfold due?
  cases hends with
  | @cancelled c hc =>
    have hseen : cancellation.filter (· ≤ (abandoned c : Answer α).after) = some c := by
      rw [hc]
      simp [abandoned]
    rw [hseen]
  | answered hanswer hfree =>
    have hheard : call.answer.filter (·.after ≤ ending.after) = some ending := by
      rw [hanswer]
      simp
    rw [filter_eq_none_of_lt hfree, hheard]
  | @expired l hl hfree hsilent =>
    have hopen : cancellation.filter (· ≤ (expired l : Answer α).after) = none :=
      filter_eq_none_of_lt hfree
    have hunheard : call.answer.filter (·.after ≤ (expired l : Answer α).after) = none :=
      filter_answer_of_lt hsilent
    have hover : limit.filter (· ≤ (expired l : Answer α).after) = some l := by
      rw [hl]
      simp [expired]
    rw [hopen, hunheard, hover]
    rfl

end Due

-- ---------------------------------------------------------------------------
-- Calls whose values are turned into others
-- ---------------------------------------------------------------------------

theorem earlier_map (g : Answer α → Answer β) (hg : ∀ answer, (g answer).after = answer.after)
    (a b : Option (Answer α)) : earlier (a.map g) (b.map g) = (earlier a b).map g := by
  cases a with
  | none => rfl
  | some x =>
    cases b with
    | none => rfl
    | some y =>
      simp only [earlier, Option.map_some, hg]
      split <;> rfl

theorem bounded_map (f : α → Except ServiceError β) (limit cancellation : Option Duration)
    (call : Call α) :
    (call.map f).bounded limit cancellation = (call.bounded limit cancellation).map f := by
  let g (answer : Answer α) : Answer β :=
    { after := answer.after, result := answer.result.bind f, cancels := answer.cancels }
  have hcancelled : cancellation.map abandoned = (cancellation.map abandoned).map g := by
    cases cancellation <;> rfl
  have hexpired : limit.map expired = (limit.map expired).map g := by
    cases limit <;> rfl
  unfold bounded map
  rw [hcancelled, hexpired, earlier_map g fun _ => rfl, earlier_map g fun _ => rfl]

end Call

-- ---------------------------------------------------------------------------
-- The halves of a stage
-- ---------------------------------------------------------------------------

namespace Stage

/-- What a stage asks its service. The call gives what the stage does when it has the value. -/
structure Question where
  call : Call (Work Bool)
  request : Consultation.Request

/-- A question to a service, with what is done with the value. -/
def Question.ofService (service : Service ρ α) (question : ρ) (decide : α → Work Bool)
    (context : RequestContext) (now : Moment) : Question where
  call := (service.ask context now question).map fun value => .ok (decide value)
  request := service.note question

/-- The first half of a stage. -/
inductive Start where
  | ended (out : Outcome)
  | asked (question : Question)

/-- What a stage of a kind does until it waits. -/
def Kind.start (c : Conversation) (context : RequestContext) (now : Moment) : Kind → Start
  | passages searcher options =>
    let question := Text.trimmed c.query
    if question.isEmpty then .ended (.untouched c context now)
    else .asked (.ofService searcher.service (options.query question) (Passages.useHits options)
      context now)
  | summary generator tokenThreshold _ counter =>
    let tokens := counter.countMessages c.assembled
    if tokens ≤ tokenThreshold || c.older.isEmpty then .ended (.untouched c context now)
    else .asked (.ofService generator.service (Summary.systemPrompt, Summary.request c.older)
      (Summary.useSummary counter tokens) context now)
  | k => .ended (k.stage.run c context now)

/-- The second half of a stage, which has asked at one moment and has its answer at a later one. -/
def Question.outcome (question : Question) (c : Conversation) (context : RequestContext)
    (asked finished : Moment) (answer : Answer (Work Bool)) : Outcome :=
  let context := if answer.cancels then context.cancelAt finished else context
  { Outcome.worked (Work.onAnswer answer.result id) c context finished with
    consultations := if question.call.started then [⟨asked, question.request⟩] else [] }

/-- Whatever the answer is, the second half takes no time. -/
theorem Question.finished_outcome (question : Question) (c : Conversation)
    (context : RequestContext) (asked finished : Moment) (answer : Answer (Work Bool)) :
    (question.outcome c context asked finished answer).finished = finished :=
  (Outcome.atOnce_worked _ c).finished

/-- A stage that asks has the outcome of its question if the call is made, and fails at once if it
is not. -/
theorem Outcome.ofCall_eq (service : Service ρ α) (question : ρ) (limit : Duration)
    (c : Conversation) (context : RequestContext) (now : Moment) (decide : α → Work Bool) :
    ofCall service question limit c context now decide =
      match context.grant now limit with
      | .error e => .failed (.service e) c context now
      | .ok limit' =>
        let asked := Question.ofService service question decide context now
        let answer := (asked.call.bounded (some limit')
          (context.cancelledFrom.map (· - now))).answerWithin limit
        asked.outcome c context now (now + answer.after) answer := by
  cases hgrant : context.grant now limit with
  | error e => exact ofCall_of_refused (Call.guarded_of_refused hgrant _)
  | ok limit' =>
    have hcall : service.call question limit context now = _ := Call.guarded_of_grant hgrant _
    have hstarted : ((service.ask context now question).map
        fun value => .ok (decide value)).started =
          ((service.ask context now question).bounded (some limit')
            (context.cancelledFrom.map (· - now))).started := rfl
    simp only [ofCall, hcall, Question.outcome, Question.ofService, Call.bounded_map, hstarted]
    -- what is done with the value may be known before the call or after it
    obtain ⟨answer, started⟩ := (service.ask context now question).bounded (some limit')
      (context.cancelledFrom.map (· - now))
    cases answer with
    | none => rfl
    | some answer =>
      obtain ⟨after, result, cancels⟩ := answer
      cases result <;> rfl

/-- What the first half of a stage says of the stage. -/
inductive Begins (k : Kind) (c : Conversation) (context : RequestContext) (now : Moment) :
    Start → Prop where
  /-- It ends at once, as the stage does. -/
  | ended {out : Outcome} (hrun : k.stage.run c context now = out)
      (hout : out.AtOnce context now) : Begins k c context now (.ended out)
  /-- It asks, and the stage waits for the guarded call. -/
  | asked {ρ α : Type} (service : Service ρ α) (question : ρ) (decide : α → Work Bool)
      (hrun : k.stage.run c context now =
        .ofCall service question k.limit c context now decide) :
      Begins k c context now (.asked (.ofService service question decide context now))

namespace Kind

variable {k : Kind} {c : Conversation} {context : RequestContext} {now : Moment}

theorem begins (k : Kind) (c : Conversation) (context : RequestContext) (now : Moment) :
    Begins k c context now (k.start c context now) := by
  cases k with
  | toolDocs settings =>
    refine .ended rfl ?_
    cases (toolDocs settings).runs c context now with
    | alone hout => exact hout
    | asking service question decide hrequest => cases hrequest
  | loopBreak =>
    refine .ended rfl ?_
    cases loopBreak.runs c context now with
    | alone hout => exact hout
    | asking service question decide hrequest => cases hrequest
  | passages searcher options =>
    simp only [start]
    split
    · next hblank =>
      refine .ended ?_ Outcome.atOnce_untouched
      simp only [stage, Passages.stage]
      rw [if_pos hblank]
    · next hblank =>
      refine .asked searcher.service _ _ ?_
      simp only [stage, Passages.stage]
      rw [if_neg hblank]
      rfl
  | summary generator tokenThreshold timeout counter =>
    simp only [start]
    split
    · next hsmall =>
      refine .ended ?_ Outcome.atOnce_untouched
      simp only [stage, Summary.stage]
      rw [if_pos hsmall]
    · next hsmall =>
      refine .asked generator.service _ _ ?_
      simp only [stage, Summary.stage]
      rw [if_neg hsmall]
      rfl

theorem begins_of_start {first : Start} (h : k.start c context now = first) :
    Begins k c context now first := h ▸ k.begins c context now

theorem run_of_ended {out : Outcome} (h : k.start c context now = .ended out) :
    k.stage.run c context now = out ∧ out.AtOnce context now := by
  cases begins_of_start h with
  | ended hrun hout => exact ⟨hrun, hout⟩

theorem run_of_refused {question : Question} {e : ServiceError}
    (h : k.start c context now = .asked question)
    (hgrant : context.grant now k.limit = .error e) :
    k.stage.run c context now = .failed (.service e) c context now := by
  cases begins_of_start h with
  | asked service question decide hrun => rw [hrun, Outcome.ofCall_eq, hgrant]

theorem run_of_asked {question : Question} {limit : Duration} {ending : Answer (Work Bool)}
    (h : k.start c context now = .asked question)
    (hgrant : context.grant now k.limit = .ok limit)
    (hending : (question.call.bounded (some limit) (context.cancelledFrom.map (· - now))).answer =
      some ending) :
    k.stage.run c context now =
      question.outcome c context now (now + ending.after) ending := by
  cases begins_of_start h with
  | asked service question decide hrun =>
    rw [hrun, Outcome.ofCall_eq, hgrant]
    simp only [Call.answerWithin, hending, Option.getD_some]

end Kind

end Stage

end PromptBudget
