import PromptBudget.Identity
import PromptBudget.Stage.LoopBreak
import PromptBudget.Stage.Passages
import PromptBudget.Stage.Pipeline
import PromptBudget.Stage.Summary
import PromptBudget.Stage.ToolDocs

/-!
# PromptBudget — arranging a request

A request is arranged by the stages that its plan asks for: tool documentation is moved, loops are
broken, passages are put in, and old messages are summarised. At the end the system message says in
which language to answer. Services may fail; the messages are arranged without them then.

Main statement:

* `arrange_nil` — a request without messages is not arranged.
-/

namespace PromptBudget

/-- The services of a request. -/
structure Collaborators where
  /-- The service that writes summaries. -/
  generator : Generator
  /-- The service that searches passages, if there is one. -/
  searcher : Option Searcher := none
  /-- How tokens are counted. -/
  counter : TokenCounter := .heuristic

/-- A request that has been arranged. -/
structure Arranged where
  /-- The messages to send. -/
  messages : List Message
  /-- What is known about the stages. -/
  diagnostics : Diagnostics
  /-- The tokens of the request as it came. -/
  tokensBefore : Nat
  /-- The tokens of the messages to send. -/
  tokensAfter : Nat
  /-- The language of the answers. -/
  language : Option String
  /-- The bounds of the request afterwards. -/
  context : RequestContext
  /-- When the request was done. -/
  finished : Moment
  /-- The services that were called, in order. -/
  consultations : List Consultation := []

namespace Plan

/-- The stage that searches passages, if the plan asks for it and there is a searcher. -/
def passages? (plan : Plan) (identity : Identity) (searcher : Option Searcher) : Option Stage :=
  if plan.search then
    searcher.map fun searcher => Passages.stage searcher {
      projectPath := identity.projectPath
      topK := plan.topK
      scoreThreshold := plan.scoreThreshold
      target := plan.target
      timeout := plan.searchTimeout }
  else none

/-- The stages that a plan asks for. -/
def stages (plan : Plan) (identity : Identity) (services : Collaborators) : Pipeline :=
  (if plan.moveToolDocs then [ToolDocs.stage plan.toolDocs] else [])
    ++ (if plan.detectLoops then [LoopBreak.stage] else [])
    ++ (plan.passages? identity services.searcher).toList
    ++ (if plan.compress then
        [Summary.stage services.generator plan.tokenThreshold plan.summaryTimeout services.counter]
      else [])

end Plan

/-- What says in which language to answer. -/
def languageBlock (language : String) : Block :=
  .ofText ("Always respond in " ++ language ++ ".")

/-- The conversation with the language of the answers in its system message. -/
def Conversation.inLanguage (c : Conversation) : Option String → Conversation
  | some language => c.appendToSystem (languageBlock language)
  | none => c

/-- A request arranged from a moment on. -/
def arrange (plan : Plan) (identity : Identity) (services : Collaborators) (context : RequestContext) (now : Moment)
    (messages : List Message) : Except ArrangeError Arranged := do
  let conversation ← Conversation.ofMessages? messages plan.recentWindow
  let progress := (plan.stages identity services).run { conversation, context, now }
  let final := progress.conversation.inLanguage identity.language?
  return {
    messages := final.assembled
    diagnostics := final.diagnostics
    tokensBefore := services.counter.countMessages messages
    tokensAfter := services.counter.countMessages final.assembled
    language := identity.language?
    context := progress.context
    finished := progress.now
    consultations := progress.consultations }

/-- Messages that are sent as they came. -/
def Arranged.unchanged (counter : TokenCounter) (context : RequestContext) (now : Moment)
    (messages : List Message) : Arranged :=
  { messages, diagnostics := {}, tokensBefore := counter.countMessages messages
    tokensAfter := counter.countMessages messages, language := none, context, finished := now }

/-- A request arranged from a moment on, or sent as it came if it cannot be arranged. -/
def arrangeOrPass (plan : Plan) (identity : Identity) (services : Collaborators) (context : RequestContext)
    (now : Moment) (messages : List Message) : Arranged :=
  match arrange plan identity services context now messages with
  | .ok arranged => arranged
  | .error _ => .unchanged services.counter context now messages

theorem arrange_nil (plan : Plan) (identity : Identity) (services : Collaborators) (context : RequestContext)
    (now : Moment) :
    arrange plan identity services context now [] = .error (.malformedInput "empty message list") := rfl

end PromptBudget
