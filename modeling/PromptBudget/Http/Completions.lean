import PromptBudget.Chat.Codec
import PromptBudget.Http.Exchange
import PromptBudget.Service.Generation
import PromptBudget.Settings.Basic
import PromptBudget.Text.Find

/-!
# PromptBudget — a generator over HTTP

The generator posts the messages to the `chat/completions` of an endpoint and takes the content of
the first choice. Parts of the response that it does not look at only have to be well formed.
-/

namespace PromptBudget.Http.Completions

open Json

/-- The name of the service in logs. -/
def name : String := "openai-compat"

/-- The messages with the system prompt in front of them, unless it is empty. -/
def requestMessages (systemPrompt : String) (messages : List Message) : List Message :=
  (if systemPrompt.isEmpty then [] else [.system (.plain systemPrompt)]) ++ messages

/-- The body of a request. It is built as a value before it is written, so each object in it is a
map: of a field that a message has twice, the last one is sent. -/
def requestBody (model systemPrompt : String) (messages : List Message) : Json :=
  canonical (.object [("model", .string model),
    ("messages", .array ((requestMessages systemPrompt messages).map Message.encode)),
    ("stream", .bool false)])

/-- The address of the service at an endpoint. -/
def url (endpoint : String) : String :=
  String.ofList (Text.dropTrailing '/' endpoint.toList) ++ "/chat/completions"

/-- The credentials for a key, unless it is empty. -/
def authorization (apiKey : Option String) : Option String :=
  (apiKey.filter (!·.isEmpty)).map ("Bearer " ++ ·)

/-- The request for messages; `none` if the credentials cannot be sent. -/
def request? (settings : LlmSettings) (systemPrompt : String) (messages : List Message) : Option Request :=
  let credentials := authorization settings.apiKey
  if credentials.all isHeaderValue then
    some { url := url settings.endpoint, authorization := credentials
           body := requestBody settings.summaryModel systemPrompt messages }
  else none

/-! ## Responses -/

/-- The content of a choice's message, which may be missing or null. -/
def messageContent? (draft : Draft) : Option (Option String) := do
  let r ← record? .json ["content"] draft.shape
  match r.get? "content" with
  | some content => nullableText? content
  | none => if r.listed then none else some none

/-- The content of a choice. -/
def choiceContent? (draft : Draft) : Option (Option String) := do
  let r ← record? .json ["message"] draft.shape
  r.required "message" messageContent?

/-- A count of tokens. -/
def count? (draft : Draft) : Option Nat := (scalar? draft).bind (asNat? 32)

/-- The usage of a response, which may be null. -/
def usage? (draft : Draft) : Option (Option Usage) :=
  match draft with
  | .null => some none
  | draft => do
    let r ← record? .json Usage.fieldNames draft.shape
    return some (← Usage.ofRecord? count? r)

/-- The contents of the choices of a response. -/
def contents? (draft : Draft) : Option (List (Option String)) := do
  let r ← record? .json ["choices", "usage"] draft.shape
  let contents ← r.required "choices" fun choices => choices.shape.listOf? choiceContent?
  let _ ← r.withDefault "usage" usage? none
  return contents

/-- The text that a response gives. -/
def answerText (bytes : List UInt8) : Except ServiceError String := do
  match (← readBody contents? bytes).head?.join with
  | some text => return text
  | none => throw (.invalidResponse "No choices in response")

/-- The generator of some settings. -/
def generator (transport : Transport) (settings : LlmSettings) : Generator where
  generate context now systemPrompt messages :=
    let call := match request? settings systemPrompt messages with
      | some request => (transport.send request).map (classify answerText)
      | none => { answer := some { after := 0, result := .error (.network "builder error") } }
    call.guarded context now none

end PromptBudget.Http.Completions
