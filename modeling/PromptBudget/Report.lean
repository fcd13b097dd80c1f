import PromptBudget.Arrange
import PromptBudget.Chat.Codec

/-!
# PromptBudget — arranged requests in JSON

An arranged request is written with its messages, its diagnostics and its tokens. What is missing is
left out.
-/

namespace PromptBudget

/-- A stage record in JSON. -/
def StageRecord.encode (r : StageRecord) : Json :=
  .object ([("stage", .string r.stage), ("handled", .bool r.handled), ("latency_ms", Json.nat r.latency.millis)]
    ++ (r.error.map fun e => ("error", Json.string e)).toList)

/-- The numbers of a compression in JSON. -/
def CompressionStats.encode (s : CompressionStats) : Json :=
  .object [("tokens_before", Json.nat s.tokensBefore), ("tokens_after", Json.nat s.tokensAfter),
    ("messages_replaced", Json.nat s.messagesReplaced)]

/-- Diagnostics in JSON. -/
def Diagnostics.encode (d : Diagnostics) : Json :=
  .object ([("stages", .array (d.stages.map StageRecord.encode))]
    ++ (d.passages.map fun p => ("semantic_context", Json.string p)).toList
    ++ (d.compression.map fun s => ("compression", s.encode)).toList)

/-- Messages in JSON. -/
def Message.encodeList (messages : List Message) : Json := .array (messages.map Message.encode)

/-- An arranged request in JSON. -/
def Arranged.encode (a : Arranged) : Json :=
  .object ([("messages", Message.encodeList a.messages), ("diagnostics", a.diagnostics.encode),
    ("original_tokens", Json.nat a.tokensBefore), ("final_tokens", Json.nat a.tokensAfter)]
    ++ (a.language.map fun l => ("language", Json.string l)).toList)

end PromptBudget
