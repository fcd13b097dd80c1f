import PromptBudget.Json.Record
import PromptBudget.Service.Call

/-!
# PromptBudget — exchanges over HTTP

A service over HTTP gets a request with a JSON body and gives a response with a status and bytes. A
status of 2xx means that the bytes are the answer; any other is an error, told apart by the status.

Main statement:

* `classify_success` — the bytes count only with a status of 2xx.
-/

namespace PromptBudget.Http

open Json

/-- A request that posts a JSON body. -/
structure Request where
  /-- Where it is sent. -/
  url : String
  /-- The credentials, if any. -/
  authorization : Option String
  /-- What it says. -/
  body : Json

/-- A response. -/
structure Response where
  /-- Its status. -/
  status : Nat
  /-- Its bytes. -/
  bytes : List UInt8

/-- How requests are sent, as the calls that they are. A call fails only if there is no response. -/
structure Transport where
  /-- The call for a request. -/
  send : Request → Call Response

/-- A network that reaches nothing: every request fails at once. -/
def Transport.offline (reason : String) : Transport where
  send _ := { answer := some { after := 0, result := .error (.network reason) } }

/-- What a response contains: with some statuses, nothing. -/
def Response.body (r : Response) : List UInt8 :=
  if r.status = 204 || r.status = 304 then [] else r.bytes

/-- The error of a status that is not 2xx. -/
def statusError (status : Nat) (body : String) : ServiceError :=
  if status = 401 || status = 403 then .unauthorized "Invalid API key or insufficient permissions"
  else if status = 429 then .rateLimited
  else .api status body

/-- The answer of bytes that cannot be read. -/
def undecodable : ServiceError := .invalidResponse "error decoding response body"

/-- What a response means, given what the bytes of a successful one mean. -/
def classify (read : List UInt8 → Except ServiceError α) (r : Response) : Except ServiceError α :=
  if 200 ≤ r.status && r.status < 300 then read r.body
  else .error (statusError r.status (Text.decodeLossy r.body))

/-- Whether a text can stand in a header: it has no control characters other than tabs. -/
def isHeaderValue (text : String) : Bool :=
  text.toList.all fun c => c == '\t' || (0x20 ≤ c.toNat && c.toNat != 0x7F)

/-- The value of a part without parts of its own. -/
def scalar? (draft : Draft) : Option Json := ofDraft? 0 draft

/-- A text in a response. -/
def text? (draft : Draft) : Option String := (scalar? draft).bind asString?

/-- A text or null in a response. -/
def nullableText? (draft : Draft) : Option (Option String) := (scalar? draft).bind (nullable asString?)

/-- What the bytes of a response are, read by a decoder of drafts. -/
def readBody (decode : Draft → Option α) (bytes : List UInt8) : Except ServiceError α :=
  match (Draft.read? bytes).bind decode with
  | some value => .ok value
  | none => .error undecodable

theorem classify_success {read : List UInt8 → Except ServiceError α} {r : Response}
    (h : 200 ≤ r.status) (h' : r.status < 300) : classify read r = read r.body := by
  simp [classify, h, h']

end PromptBudget.Http
