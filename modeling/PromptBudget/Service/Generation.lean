import PromptBudget.Service.Call
import PromptBudget.Chat.Message
import PromptBudget.Json.Record

/-!
# PromptBudget — text generation

A generator takes a system prompt and messages and gives a text. With its answer a service may
report its usage in tokens.
-/

namespace PromptBudget

open Json

/-- A service that generates text, as the calls that it answers to requests at moments. -/
structure Generator where
  /-- The call for a system prompt and messages. -/
  generate : RequestContext → Moment → String → List Message → Call String

/-- How many tokens a generation took. -/
structure Usage where
  /-- The tokens of the request. -/
  promptTokens : Nat
  /-- The tokens of the answer. -/
  completionTokens : Nat
  /-- The tokens of both. -/
  totalTokens : Nat
  deriving DecidableEq, Repr

/-- The fields of a usage. -/
def Usage.fieldNames : List String := ["prompt_tokens", "completion_tokens", "total_tokens"]

/-- A usage in JSON. -/
def Usage.encode (u : Usage) : Json :=
  .object [("prompt_tokens", Json.nat u.promptTokens), ("completion_tokens", Json.nat u.completionTokens),
    ("total_tokens", Json.nat u.totalTokens)]

/-- The usage that a record writes. -/
def Usage.ofRecord? (asCount? : Doc → Option Nat) (r : Record Doc) : Option Usage := do
  return {
    promptTokens := ← r.required "prompt_tokens" asCount?
    completionTokens := ← r.required "completion_tokens" asCount?
    totalTokens := ← r.required "total_tokens" asCount? }

/-- The usage that a value writes. -/
def Usage.decode? (value : Json) : Option Usage := do
  ofRecord? (asNat? 32) (← record? .json fieldNames value.shape)

end PromptBudget
