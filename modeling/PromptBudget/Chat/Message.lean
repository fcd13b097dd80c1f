import PromptBudget.Chat.Content

/-!
# PromptBudget — messages

A message has a role, a content, and fields that are kept without being interpreted. It also knows
where it comes from: from the client, or from compression, which put it in the place of others.

Main statement:

* `text_push` — a text block that is pushed adds its text to a message.
-/

namespace PromptBudget

/-- Who speaks in a message. -/
inductive Role where
  | system
  | user
  | assistant
  | tool
  deriving DecidableEq, Repr, Inhabited

/-- The name of a role. -/
def Role.name : Role → String
  | .system => "system"
  | .user => "user"
  | .assistant => "assistant"
  | .tool => "tool"

/-- Where a message comes from. -/
inductive Origin where
  /-- It was in the request. -/
  | client
  /-- It stands for the messages that it replaced. -/
  | compression
  deriving DecidableEq, Repr, Inhabited

/-- A message of a conversation. -/
structure Message where
  /-- Who speaks. -/
  role : Role
  /-- What is said. -/
  content : Content
  /-- The other fields. -/
  extras : Json.Extras := .none
  /-- Where it comes from. -/
  origin : Origin := .client
  deriving DecidableEq, Repr

namespace Message

/-- A system message. -/
def system (content : Content) : Message := { role := .system, content }

/-- A user message. -/
def user (content : Content) : Message := { role := .user, content }

/-- An assistant message. -/
def assistant (content : Content) : Message := { role := .assistant, content }

/-- A tool message that answers the call with the given name. -/
def tool (callId : String) (content : Content) : Message :=
  { role := .tool, content, extras := .ofFields [("tool_call_id", .string callId)] }

instance : Inhabited Message := ⟨system (.plain "")⟩

/-- The text of a message. -/
def text (m : Message) : String := m.content.text

/-- A message with a block added at the end of its content. -/
def push (m : Message) (b : Block) : Message := { m with content := m.content.pushed b }

/-- Whether a message stands for others. -/
def isSummary (m : Message) : Bool := m.origin == .compression

/-- Whether the user speaks. -/
def isUser (m : Message) : Bool := m.role == .user

/-- Whether a message is a system message. -/
def isSystem (m : Message) : Bool := m.role == .system

/-- Whether the assistant speaks. -/
def isAssistant (m : Message) : Bool := m.role == .assistant

theorem text_push (m : Message) (b : Block) : (m.push b).text.toList = m.text.toList ++ b.chars :=
  Content.text_pushed m.content b

end Message

end PromptBudget
