import PromptBudget.Chat.Message
import PromptBudget.Conversation.Diagnostics
import PromptBudget.Service.Error

/-!
# PromptBudget — a conversation being arranged

A conversation is a list of messages with some positions in it: the first system message, the last
user message, and where its recent part starts. What lies between the system message and the recent
part is its older part. Without a system message there is an empty one that stands in for it, and
that goes in front of the messages as soon as it holds something.

Main statement:

* `ofMessages?_nil` — there is no conversation without messages.
-/

namespace PromptBudget

/-- A conversation being arranged. -/
structure Conversation where
  /-- The messages. -/
  messages : List Message
  /-- Where the first system message is. -/
  systemIndex : Option Nat
  /-- The system message that stands in if there is none. -/
  standIn : Message
  /-- Where the recent part starts. -/
  recentStart : Nat
  /-- Where the last user message is. -/
  lastUserIndex : Option Nat
  /-- What the user asked last, before anything was added to it. -/
  query : String
  /-- What is known about the stages that ran. -/
  diagnostics : Diagnostics := {}
  deriving DecidableEq, Repr

namespace Conversation

/-! ## Positions -/

/-- The positions of the user messages, in order. -/
def userPositions (messages : List Message) : List Nat :=
  (messages.zipIdx.filter (·.1.isUser)).map (·.2)

/-- The position of the user message that is number `k` counted from the end, starting with 1. -/
def userFromEnd? (messages : List Message) (k : Nat) : Option Nat :=
  (userPositions messages).reverse[k - 1]?

/-- The conversation of some messages, of which the recent part has so many user messages, and at
least one. -/
def ofMessages? (messages : List Message) (window : Nat) : Except ArrangeError Conversation :=
  if messages.isEmpty then .error (.malformedInput "empty message list")
  else
    let systemIndex := messages.findIdx? (·.isSystem)
    let olderStart := systemIndex.elim 0 (· + 1)
    let lastUserIndex := userFromEnd? messages 1
    .ok {
      messages
      systemIndex
      standIn := .system (.plain "")
      recentStart := (userFromEnd? messages (max window 1)).elim olderStart (max · olderStart)
      lastUserIndex
      query := (lastUserIndex.bind (messages[·]?)).elim "" (·.text) }

/-! ## Parts -/

/-- Where the older part starts. -/
def olderStart (c : Conversation) : Nat := c.systemIndex.elim 0 (· + 1)

/-- The system message, or the one that stands in for it. -/
def systemMessage (c : Conversation) : Message :=
  (c.systemIndex.bind (c.messages[·]?)).getD c.standIn

/-- Whether there is a system message among the messages. -/
def hasSystemMessage (c : Conversation) : Bool := c.systemIndex.isSome

/-- The older part. -/
def older (c : Conversation) : List Message :=
  (c.messages.drop c.olderStart).take (c.recentStart - c.olderStart)

/-- The recent part. -/
def recent (c : Conversation) : List Message := c.messages.drop c.recentStart

/-- The last user message. -/
def lastUser? (c : Conversation) : Option Message := c.lastUserIndex.bind (c.messages[·]?)

/-- The messages to send: those of the conversation, after the stand-in if it is needed and holds something. -/
def assembled (c : Conversation) : List Message :=
  if !c.hasSystemMessage && !c.standIn.content.isEmpty then c.standIn :: c.messages else c.messages

/-! ## Edits -/

/-- The conversation with its system message edited. -/
def editSystem (c : Conversation) (f : Message → Message) : Conversation :=
  match c.systemIndex with
  | some i => { c with messages := c.messages.modify i f }
  | none => { c with standIn := f c.standIn }

/-- The conversation with another text in its system message. -/
def setSystemText (c : Conversation) (text : String) : Conversation :=
  c.editSystem fun m => { m with content := .plain text }

/-- The conversation with the bytes from `start` up to `stop` cut out of its system message, if they fit. -/
def removeSystemText? (c : Conversation) (start stop : Nat) : Option Conversation :=
  (c.systemMessage.content.removeText? start stop).map fun content =>
    c.editSystem fun m => { m with content }

/-- The conversation with a block added to its system message. -/
def appendToSystem (c : Conversation) (b : Block) : Conversation :=
  c.editSystem (·.push b)

/-- The conversation with its last user message edited; `none` without one. -/
def editLastUser? (c : Conversation) (f : Message → Message) : Option Conversation :=
  c.lastUserIndex.map fun i => { c with messages := c.messages.modify i f }

/-- The conversation with a block added to its last user message. -/
def appendToLastUser (c : Conversation) (b : Block) : Except StageError Conversation :=
  match c.editLastUser? (·.push b) with
  | some edited => .ok edited
  | none => .error (.degraded "no user message to append to")

/-- The conversation with one message in the place of its older part, and how many were replaced. An
empty older part is left alone. -/
def replaceOlder (c : Conversation) (replacement : Message) : Nat × Conversation :=
  let replaced := c.recentStart - c.olderStart
  if replaced = 0 then (0, c)
  else
    (replaced, { c with
      messages := c.messages.take c.olderStart ++ replacement :: c.messages.drop c.recentStart
      recentStart := c.olderStart + 1
      lastUserIndex := c.lastUserIndex.bind fun i =>
        if c.recentStart ≤ i then some (i + 1 - replaced)
        else if i < c.olderStart then some i
        else none })

/-- The conversation with a stage record added to its diagnostics. -/
def addRecord (c : Conversation) (r : StageRecord) : Conversation :=
  { c with diagnostics := c.diagnostics.add r }

theorem ofMessages?_nil (window : Nat) :
    ofMessages? [] window = .error (.malformedInput "empty message list") := rfl

end Conversation

end PromptBudget
