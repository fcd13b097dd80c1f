import PromptBudget.Stage.Basic

/-!
# PromptBudget — pipelines

A pipeline is a list of stages. They run one after another, each on the conversation that the one
before it left, and each leaves a record in the diagnostics.

Main statement:

* `run_cons` — the rest of a pipeline runs on what its first stage left.
-/

namespace PromptBudget

/-- A list of stages. -/
abbrev Pipeline := List Stage

namespace Pipeline

/-- The state of a request between two stages. -/
structure Progress where
  /-- The conversation. -/
  conversation : Conversation
  /-- The bounds of the request. -/
  context : RequestContext
  /-- The moment. -/
  now : Moment
  /-- The services that were called, in order. -/
  consultations : List Consultation := []

/-- What went wrong, as a message. -/
def errorMessage? : Except StageError Bool → Option String
  | .ok _ => none
  | .error error => some error.message

/-- The record of a stage that started at a moment. -/
def record (name : String) (started : Moment) (outcome : Stage.Outcome) : StageRecord :=
  { stage := name
    handled := outcome.result.toOption.getD false
    latency := outcome.finished - started
    error := errorMessage? outcome.result }

/-- The state after a stage. -/
def Progress.step (p : Progress) (stage : Stage) : Progress :=
  let outcome := stage.run p.conversation p.context p.now
  { conversation := outcome.conversation.addRecord (record stage.name p.now outcome)
    context := outcome.context
    now := outcome.finished
    consultations := p.consultations ++ outcome.consultations }

/-- The state after all stages. -/
def run (pipeline : Pipeline) (p : Progress) : Progress :=
  pipeline.foldl Progress.step p

/-- The names of the stages. -/
def names (pipeline : Pipeline) : List String := pipeline.map (·.name)

theorem run_cons (stage : Stage) (rest : Pipeline) (p : Progress) : run (stage :: rest) p = run rest (p.step stage) := rfl

end Pipeline

end PromptBudget
