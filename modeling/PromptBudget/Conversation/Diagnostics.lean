import PromptBudget.Time.Duration

/-!
# PromptBudget — diagnostics

Every stage that runs leaves a record. Two stages also say what they did: the passages that were
put into the conversation, and the numbers of a compression.

Main statement:

* `record?_add_of_some` — a record stays the first of its name when others follow.
-/

namespace PromptBudget

/-- How a stage went. -/
structure StageRecord where
  /-- The name of the stage. -/
  stage : String
  /-- Whether it changed the conversation. -/
  handled : Bool
  /-- How long it took. -/
  latency : Duration
  /-- What went wrong. -/
  error : Option String
  deriving DecidableEq, Repr

/-- The numbers of a compression. -/
structure CompressionStats where
  /-- The tokens of the conversation before. -/
  tokensBefore : Nat
  /-- The tokens of the conversation after. -/
  tokensAfter : Nat
  /-- How many messages were replaced. -/
  messagesReplaced : Nat
  deriving DecidableEq, Repr

/-- What is known about how a request was arranged. -/
structure Diagnostics where
  /-- The records of the stages, in order. -/
  stages : List StageRecord := []
  /-- The passages that were put into the conversation. -/
  passages : Option String := none
  /-- The numbers of the compression. -/
  compression : Option CompressionStats := none
  deriving DecidableEq, Repr, Inhabited

namespace Diagnostics

/-- The first record with the name of a stage. -/
def record? (d : Diagnostics) (name : String) : Option StageRecord :=
  d.stages.find? (·.stage == name)

/-- Whether a stage changed the conversation. -/
def handled (d : Diagnostics) (name : String) : Bool :=
  (d.record? name).any (·.handled)

/-- What went wrong in a stage. -/
def error? (d : Diagnostics) (name : String) : Option String :=
  (d.record? name).bind (·.error)

/-- The records of stages in which something went wrong. -/
def failures (d : Diagnostics) : List StageRecord :=
  d.stages.filter (·.error.isSome)

/-- The diagnostics with a record added. -/
def add (d : Diagnostics) (r : StageRecord) : Diagnostics :=
  { d with stages := d.stages ++ [r] }

theorem record?_add_of_some {d : Diagnostics} {name : String} {r : StageRecord} (h : d.record? name = some r)
    (other : StageRecord) : (d.add other).record? name = some r := by
  simp only [record?, add] at h ⊢
  rw [List.find?_append, h]
  rfl

end Diagnostics

end PromptBudget
