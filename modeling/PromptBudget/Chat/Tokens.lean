import PromptBudget.Chat.Message

/-!
# PromptBudget — counting tokens

Requests are measured by a token counter, which is one of the services of a request. The heuristic
counter takes a token to be four bytes of text. A message costs three more, and so does a list of
messages that is not empty.
-/

namespace PromptBudget

/-- A way to count tokens. -/
structure TokenCounter where
  /-- The tokens of a text. -/
  count : String → Nat
  /-- The tokens of a list of messages. -/
  countMessages : List Message → Nat

namespace Tokens

/-- The tokens of so many bytes, a part of one counted as one. -/
def ofBytes (n : Nat) : Nat := (n + 3) / 4

/-- The tokens of a text. -/
def count (text : String) : Nat := ofBytes (Text.byteLength text.toList)

/-- What every message costs beside its role and its text, and every list of messages. -/
def overhead : Nat := 3

/-- The tokens of a message. -/
def ofMessage (m : Message) : Nat := overhead + count m.role.name + count m.text

/-- The tokens of some messages together. -/
def ofMessages (messages : List Message) : Nat :=
  messages.foldr (fun m n => ofMessage m + n) 0

@[simp] theorem ofMessages_nil : ofMessages [] = 0 := rfl

@[simp] theorem ofMessages_cons (m : Message) (rest : List Message) :
    ofMessages (m :: rest) = ofMessage m + ofMessages rest := rfl

/-- The tokens of a list of messages. -/
def countMessages (messages : List Message) : Nat :=
  if messages.isEmpty then 0 else ofMessages messages + overhead

end Tokens

/-- The counter by the length of texts. -/
def TokenCounter.heuristic : TokenCounter where
  count := Tokens.count
  countMessages := Tokens.countMessages

end PromptBudget
