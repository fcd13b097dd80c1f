import PromptBudget.Json.Record
import PromptBudget.Text.Blank

/-!
# PromptBudget — who asks

The identity of a request says which client asks about which project, and in which language the
answers should be. A language of blanks is none.
-/

namespace PromptBudget

open Json

/-- The identity of a request. -/
structure Identity where
  /-- The name of the request. -/
  requestId : String := ""
  /-- The name of the client. -/
  clientId : String := ""
  /-- The project that the request is about. -/
  projectPath : String := ""
  /-- The language of the answers. -/
  language : String := ""
  deriving DecidableEq, Repr, Inhabited

namespace Identity

/-- How many characters the name of a new request has: 32 hexadecimal digits in five groups. -/
def requestIdLength : Nat := 32 + 4

/-- The identity with another project. -/
def withProjectPath (identity : Identity) (path : String) : Identity := { identity with projectPath := path }

/-- The identity with another language. -/
def withLanguage (identity : Identity) (language : String) : Identity := { identity with language }

/-- The language of the answers without blanks around it. -/
def language? (identity : Identity) : Option String :=
  let language := Text.trimmed identity.language
  if language.isEmpty then none else some language

/-- An identity in JSON. -/
def encode (identity : Identity) : Json :=
  .object [("request_id", .string identity.requestId), ("client_id", .string identity.clientId),
    ("project_path", .string identity.projectPath), ("language", .string identity.language)]

/-- The identity that a value writes. -/
def decode? (value : Json) : Option Identity := do
  let r ← record? .json ["request_id", "client_id", "project_path", "language"] value.shape
  return {
    requestId := ← r.withDefault "request_id" asString? ""
    clientId := ← r.withDefault "client_id" asString? ""
    projectPath := ← r.withDefault "project_path" asString? ""
    language := ← r.withDefault "language" asString? "" }

end Identity

end PromptBudget
