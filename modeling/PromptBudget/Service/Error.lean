import PromptBudget.Time.Duration

/-!
# PromptBudget — what goes wrong

A call to a service fails with a `ServiceError`, a stage with a `StageError`, and a whole request
with an `ArrangeError`. Each has a message.
-/

namespace PromptBudget

/-- Why a call to a service gave no answer. -/
inductive ServiceError where
  /-- The call took longer than it may. -/
  | timeout (limit : Duration)
  /-- The request was cancelled. -/
  | cancelled
  /-- The service was not reached. -/
  | network (reason : String)
  /-- The service refused with a status. -/
  | api (status : Nat) (body : String)
  /-- The service takes no more requests for now. -/
  | rateLimited
  /-- The service does not accept the credentials. -/
  | unauthorized (reason : String)
  /-- The answer has the wrong form. -/
  | invalidResponse (reason : String)
  deriving DecidableEq, Repr, Inhabited

/-- The message of a failed call. -/
def ServiceError.message : ServiceError → String
  | .timeout limit => "Request timed out after " ++ limit.text
  | .cancelled => "Request cancelled"
  | .network reason => "Network error: " ++ reason
  | .api status body => "API request failed: " ++ body ++ " (status: " ++ toString status ++ ")"
  | .rateLimited => "Rate limited by upstream"
  | .unauthorized reason => "Authentication failed: " ++ reason
  | .invalidResponse reason => "Invalid response: " ++ reason

/-- What went wrong in a stage. -/
inductive StageError where
  /-- The stage could not do its work. -/
  | degraded (reason : String)
  /-- The service that it needs failed. -/
  | service (error : ServiceError)
  deriving DecidableEq, Repr, Inhabited

/-- The message of a failed stage. -/
def StageError.message : StageError → String
  | .degraded reason => "Stage degraded: " ++ reason
  | .service error => "Collaborator failed: " ++ error.message

/-- Why a request was not arranged. -/
inductive ArrangeError where
  /-- There is nothing to arrange. -/
  | malformedInput (reason : String)
  deriving DecidableEq, Repr, Inhabited

/-- The message of a request that was not arranged. -/
def ArrangeError.message : ArrangeError → String
  | .malformedInput reason => "Malformed input: " ++ reason

end PromptBudget
