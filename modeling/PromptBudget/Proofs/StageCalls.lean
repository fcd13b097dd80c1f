import PromptBudget.Proofs.StageEffects

/-!
# PromptBudget — how a stage asks a service

A stage ends at the moment at which it starts, unless it asks a service. Then it puts the call under
the bounds of the request and a limit of its own, waits, and ends as soon as it has the answer.

`Stage.Outcome.Runs` says this of all stages at once. How long a stage takes, when it calls its
service and what it asks is shown by cases on it, without looking at the stages themselves.

Main results:

* `Stage.Kind.runs` — each stage runs so, on any conversation, under any bounds, with any service.
-/

namespace PromptBudget

-- ---------------------------------------------------------------------------
-- Calls of a kind of stage
-- ---------------------------------------------------------------------------

namespace Stage.Kind

/-- Whether a stage needs a service for its work. -/
def asks : Kind → Bool
  | passages .. => true
  | summary .. => true
  | _ => false

/-- How long a stage may wait for its service. -/
def limit : Kind → Duration
  | passages _ options => options.timeout
  | summary _ _ timeout _ => timeout
  | _ => 0

/-- What a stage asks its service, given the query and the older part of a conversation. A blank
query is not asked. -/
def request? (query : String) (older : List Message) : Kind → Option Consultation.Request
  | passages _ options =>
    if (Text.trimmed query).isEmpty then none
    else some (.search (options.query (Text.trimmed query)))
  | summary .. => some (.generation Summary.systemPrompt (Summary.request older))
  | _ => none

end Stage.Kind

-- ---------------------------------------------------------------------------
-- Ways to run
-- ---------------------------------------------------------------------------

namespace Stage.Outcome

/-- A stage that ends at the moment at which it starts and calls nobody. -/
structure AtOnce (context : RequestContext) (now : Moment) (out : Outcome) : Prop where
  context : out.context = context
  finished : out.finished = now
  consultations : out.consultations = []

/-- How a stage runs. -/
inductive Runs (k : Stage.Kind) (c : Conversation) (context : RequestContext) (now : Moment)
    (out : Outcome) : Prop where
  /-- It asks nobody. If it needs a service for its work, it does nothing then. -/
  | alone (hout : AtOnce context now out) (hidle : k.asks = true → out.result = .ok false)
  /-- It waits for the answer to its request, and ends when it has it. -/
  | asking {ρ α : Type} (service : Service ρ α) (question : ρ) (decide : α → Work Bool)
      (hrequest : k.request? c.query c.older = some (service.note question))
      (hout : out = .ofCall service question k.limit c context now decide)

variable {context : RequestContext} {now : Moment} {c : Conversation}

/-- Work takes no time. -/
theorem atOnce_worked (work : Work Bool) (c : Conversation) :
    AtOnce context now (.worked work c context now) := by
  unfold worked
  split <;> exact ⟨rfl, rfl, rfl⟩

theorem atOnce_untouched : AtOnce context now (.untouched c context now) := atOnce_worked _ c

variable {service : Service ρ α} {question : ρ} {limit : Duration} {decide : α → Work Bool}

/-- A stage that asks ends when its call does. -/
theorem finished_ofCall :
    (ofCall service question limit c context now decide).finished =
      now + ((service.call question limit context now).answerWithin limit).after :=
  (atOnce_worked _ c).finished

theorem context_ofCall :
    (ofCall service question limit c context now decide).context =
      let answer := (service.call question limit context now).answerWithin limit
      if answer.cancels then context.cancelAt (now + answer.after) else context :=
  (atOnce_worked _ c).context

/-- A stage whose call is refused ends at once. -/
theorem ofCall_of_refused {e : ServiceError}
    (h : service.call question limit context now = .refused e) :
    ofCall service question limit c context now decide = .failed (.service e) c context now := by
  simp only [ofCall, h]
  rfl

theorem Runs.untouched {k : Stage.Kind} : Runs k c context now (.untouched c context now) :=
  .alone atOnce_untouched fun _ => rfl

end Stage.Outcome

open Stage.Outcome (atOnce_worked)

theorem Stage.Kind.runs (k : Kind) (c : Conversation) (context : RequestContext) (now : Moment) :
    Outcome.Runs k c context now (k.stage.run c context now) := by
  cases k with
  | toolDocs settings =>
    simp only [stage, ToolDocs.stage]
    split
    · exact .untouched
    · exact .alone (atOnce_worked _ c) fun hasks => absurd hasks Bool.false_ne_true
  | loopBreak =>
    simp only [stage, LoopBreak.stage]
    split
    · exact .alone (atOnce_worked _ c) fun hasks => absurd hasks Bool.false_ne_true
    · exact .untouched
  | passages searcher options =>
    simp only [stage, Passages.stage]
    split
    · exact .untouched
    · next hasked =>
      refine .asking searcher.service _ _ ?_ rfl
      rw [request?, if_neg hasked]
      rfl
  | summary generator tokenThreshold timeout counter =>
    simp only [stage, Summary.stage]
    split
    · exact .untouched
    · exact .asking generator.service _ _ rfl rfl

end PromptBudget
