import PromptBudget.Conversation.Basic
import PromptBudget.Service.Generation
import PromptBudget.Service.Search

/-!
# PromptBudget — stages

A stage looks at a conversation and may change it. It runs under the bounds of a request, starts at
a moment and ends at a later one, and consults at most a service in between.

What a stage does to the conversation is its work. Work says whether it changed the conversation, or
what went wrong. Either way there is a conversation afterwards, as the work left it: nothing takes
back the edits that were made before something went wrong.

Main statements:

* `Stage.Work.make_of_error` — an edit that fails has not been made.
* `Stage.Work.bind_of_error` — what was done before something went wrong is not undone.
-/

namespace PromptBudget

/-- What a service was asked. -/
inductive Consultation.Request where
  | search (query : SearchQuery)
  | generation (systemPrompt : String) (messages : List Message)

/-- A call to a service that was started. -/
structure Consultation where
  /-- When it was started. -/
  started : Moment
  /-- What the service was asked. -/
  request : Consultation.Request

/-- A service as a stage consults it. -/
structure Service (ρ α : Type) where
  /-- The call for a question. -/
  ask : RequestContext → Moment → ρ → Call α
  /-- What is noted of a question. -/
  note : ρ → Consultation.Request

namespace Service

/-- The call for a question under the bounds of a request and a limit of its own. -/
def call (service : Service ρ α) (question : ρ) (limit : Duration) (context : RequestContext)
    (now : Moment) : Call α :=
  (service.ask context now question).guarded context now (some limit)

end Service

/-- The service of a searcher. -/
def Searcher.service (searcher : Searcher) : Service SearchQuery (List SearchHit) where
  ask := searcher.search
  note := .search

/-- The service of a generator, which is asked with a system prompt and messages. -/
def Generator.service (generator : Generator) : Service (String × List Message) String where
  ask context now question := generator.generate context now question.1 question.2
  note question := .generation question.1 question.2

/-- What a stage ends with. -/
structure Stage.Outcome where
  /-- Whether the stage changed the conversation, or what went wrong. -/
  result : Except StageError Bool
  /-- The conversation. -/
  conversation : Conversation
  /-- The bounds of the request, which a service may have cancelled. -/
  context : RequestContext
  /-- When the stage ended. -/
  finished : Moment
  /-- The services that were called, in order. -/
  consultations : List Consultation := []

/-- A stage. -/
structure Stage where
  /-- The name in the diagnostics. -/
  name : String
  /-- What it does with a conversation, under some bounds, from a moment on. -/
  run : Conversation → RequestContext → Moment → Stage.Outcome

namespace Stage

/-- What is done to a conversation. If something goes wrong, the edits made before stay made. -/
abbrev Work (α : Type) := EStateM StageError Conversation α

namespace Work

/-- An edit of the conversation, which is made or fails before anything is changed. -/
def make (edit : Conversation → Except StageError Conversation) : Work Unit := fun c =>
  match edit c with
  | .ok edited => .ok () edited
  | .error error => .error error c

/-- What is done with the answer of a service, or nothing if the service has failed. -/
def onAnswer (result : Except ServiceError α) (decide : α → Work Bool) : Work Bool :=
  match result with
  | .ok value => decide value
  | .error error => throw (.service error)

variable {edit : Conversation → Except StageError Conversation} {c d : Conversation} {e : StageError}

theorem make_of_ok (h : edit c = .ok d) : make edit c = .ok () d := by
  rw [make, h]

theorem make_of_error (h : edit c = .error e) : make edit c = .error e c := by
  rw [make, h]

variable {work : Work α} {next : α → Work β}

theorem bind_of_ok {a : α} (h : work c = .ok a d) : (work >>= next) c = next a d := by
  show EStateM.bind work next c = next a d
  rw [EStateM.bind, h]

/-- What comes after something that went wrong is not done, and what came before it is not undone. -/
theorem bind_of_error (h : work c = .error e d) : (work >>= next) c = .error e d := by
  show EStateM.bind work next c = .error e d
  rw [EStateM.bind, h]

end Work

namespace Outcome

/-- A stage ends at once with its work, and with the conversation as the work left it. -/
def worked (work : Work Bool) (c : Conversation) (context : RequestContext) (now : Moment) : Outcome :=
  match work c with
  | .ok handled edited => { result := .ok handled, conversation := edited, context, finished := now }
  | .error error edited => { result := .error error, conversation := edited, context, finished := now }

/-- A stage ends at once without doing anything. -/
def untouched (c : Conversation) (context : RequestContext) (now : Moment) : Outcome :=
  worked (return false) c context now

/-- A stage ends at once with an error. -/
def failed (error : StageError) (c : Conversation) (context : RequestContext) (now : Moment) : Outcome :=
  worked (throw error) c context now

/-- A stage ends at once with a single edit, made or failed. -/
def changed (edited : Except StageError Conversation) (c : Conversation) (context : RequestContext)
    (now : Moment) : Outcome :=
  worked (do Work.make fun _ => edited; return true) c context now

/-- A stage asks a service a question and ends when the call ends, with the work that is done on the
answer. The call and what is noted of it are those of one question. -/
def ofCall (service : Service ρ α) (question : ρ) (limit : Duration) (c : Conversation)
    (context : RequestContext) (now : Moment) (decide : α → Work Bool) : Outcome :=
  let call := service.call question limit context now
  let answer := call.answerWithin limit
  let finished := now + answer.after
  let context := if answer.cancels then context.cancelAt finished else context
  { worked (Work.onAnswer answer.result decide) c context finished with
    consultations := if call.started then [⟨now, service.note question⟩] else [] }

end Outcome

end Stage

end PromptBudget
