import PromptBudget.Chat.Codec

/-!
# PromptBudget — reading a request

A request is a JSON array of messages, or an object whose `messages` are such an array.

Main statement:

* `requestMessages?_object` — fields other than the messages do not matter.
-/

namespace PromptBudget

open Json

/-- Why a text is no request. -/
inductive InputError where
  /-- It is not JSON. -/
  | syntaxError
  /-- It is JSON of another form. -/
  | shapeError
  deriving DecidableEq, Repr

/-- What a request must be. -/
def InputError.message (_ : InputError) : String :=
  "input must be a JSON message array or an object with a `messages` field"

/-- The messages of a request. -/
def requestMessages? : Json → Option (List Message)
  | .array items => items.mapM Message.decode?
  | .object fields =>
    if occurrences "messages" fields = 1 then (lookup "messages" fields).bind Message.decodeList? else none
  | _ => none

/-- The messages of a request in JSON text. -/
def readMessages (text : String) : Except InputError (List Message) :=
  match Json.ofText? text with
  | none => .error .syntaxError
  | some value =>
    match requestMessages? value with
    | none => .error .shapeError
    | some messages => .ok messages

theorem requestMessages?_object (fields : List (String × Json)) (h : occurrences "messages" fields = 1) :
    requestMessages? (.object fields) = (lookup "messages" fields).bind Message.decodeList? := by
  simp [requestMessages?, h]

end PromptBudget
