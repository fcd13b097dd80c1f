import PromptBudget.Service.Error

/-!
# PromptBudget — calls under a request's bounds

A request has a deadline, and it can be cancelled at some moment. A call to a service answers after
some time or never. `guarded` puts a call under the bounds of a request and a limit of its own: the
earliest of answer, limit and cancellation decides, and a call that has no time left is not started.
The result is a call again, so calls can be guarded twice.

Main statements:

* `guarded_of_isCancelled` — a cancelled request starts no call.
* `guarded_of_limit_zero` — a call without time is not started.
* `guarded_unbounded` — without bounds a call stays as it is.
* `earlier_eq_some_iff` — the earlier of two ends is one of them, the first if they come together.
-/

namespace PromptBudget

/-- The bounds of a request. -/
structure RequestContext where
  /-- The moment from which it is cancelled. -/
  cancelledFrom : Option Moment := none
  /-- The moment at which it must be done. -/
  deadline : Option Moment := none
  deriving DecidableEq, Repr, Inhabited

/-- The lesser of two bounds, where a missing one is no bound. -/
def lesser : Option Nat → Option Nat → Option Nat
  | some a, some b => some (min a b)
  | some a, none => some a
  | none, b => b

namespace RequestContext

/-- Whether a request is cancelled at a moment. -/
def isCancelled (context : RequestContext) (now : Moment) : Bool :=
  context.cancelledFrom.any (· ≤ now)

/-- How much time is left until the deadline. -/
def remaining (context : RequestContext) (now : Moment) : Option Duration :=
  context.deadline.map (· - now)

/-- A request that is cancelled at a moment, if not before. -/
def cancelAt (context : RequestContext) (moment : Moment) : RequestContext :=
  { context with cancelledFrom := lesser context.cancelledFrom (some moment) }

/-- A request that must be done a given time after a moment. -/
def withTimeout (context : RequestContext) (now : Moment) (budget : Duration) : RequestContext :=
  { context with deadline := some (now + budget) }

/-- A request that must be done at a moment. -/
def withDeadline (context : RequestContext) (deadline : Moment) : RequestContext :=
  { context with deadline := some deadline }

/-- A request that nobody has cancelled and that earlier cancellations do not reach. -/
def withFreshCancellation (context : RequestContext) : RequestContext :=
  { context with cancelledFrom := none }

end RequestContext

/-- What a call ends with. -/
structure Answer (α : Type) where
  /-- How long the call takes. -/
  after : Duration
  /-- The result. -/
  result : Except ServiceError α
  /-- Whether the request is cancelled as the call ends. -/
  cancels : Bool := false

/-- A call to a service. -/
structure Call (α : Type) where
  /-- The answer; a call without one never ends. -/
  answer : Option (Answer α)
  /-- Whether the service was called at all. -/
  started : Bool := true

namespace Call

/-- A call that ends at once without reaching the service. -/
def refused (error : ServiceError) : Call α :=
  { answer := some { after := 0, result := .error error }, started := false }

/-- The end of a call that is given up because its request is cancelled. -/
def abandoned (cancellation : Duration) : Answer α :=
  { after := cancellation, result := .error .cancelled }

/-- The end of a call that is given up because its limit is over. -/
def expired (limit : Duration) : Answer α :=
  { after := limit, result := .error (.timeout limit) }

/-- The earlier of two ends of a call, the first if they come together. -/
def earlier : Option (Answer α) → Option (Answer α) → Option (Answer α)
  | some a, some b => if a.after ≤ b.after then some a else some b
  | some a, none => some a
  | none, b => b

/-- The call under a limit and a cancellation, both counted from its start. At every moment the
cancellation is looked at first, then the call, then the limit: an answer at the limit is in time. -/
def bounded (limit cancellation : Option Duration) (call : Call α) : Call α :=
  { call with answer := earlier (cancellation.map abandoned) (earlier call.answer (limit.map expired)) }

/-- The call under the bounds of a request and a limit of its own, made at a moment. -/
def guarded (context : RequestContext) (now : Moment) (timeout : Option Duration) (call : Call α) : Call α :=
  if context.isCancelled now then refused .cancelled
  else
    let limit := lesser timeout (context.remaining now)
    if limit = some 0 then refused (.timeout 0)
    else bounded limit (context.cancelledFrom.map (· - now)) call

/-- The answer of a call that is given up when its limit is over. -/
def answerWithin (limit : Duration) (call : Call α) : Answer α :=
  call.answer.getD { after := limit, result := .error (.timeout limit) }

/-- The call whose results are turned into others. -/
def map (f : α → Except ServiceError β) (call : Call α) : Call β :=
  { answer := call.answer.map fun answer =>
      { after := answer.after, result := answer.result.bind f, cancels := answer.cancels }
    started := call.started }

theorem guarded_of_isCancelled {context : RequestContext} {now : Moment} (h : context.isCancelled now = true)
    (timeout : Option Duration) (call : Call α) : call.guarded context now timeout = refused .cancelled := by
  simp [guarded, h]

theorem guarded_of_limit_zero {context : RequestContext} {now : Moment} {timeout : Option Duration}
    (hcancelled : context.isCancelled now = false) (hlimit : lesser timeout (context.remaining now) = some 0)
    (call : Call α) : call.guarded context now timeout = refused (.timeout 0) := by
  simp [guarded, hcancelled, hlimit]

theorem guarded_unbounded (now : Moment) (call : Call α) : call.guarded {} now none = call := by
  obtain ⟨answer, started⟩ := call
  cases answer <;> rfl

theorem earlier_none (a : Option (Answer α)) : earlier a none = a := by
  cases a <;> rfl

/-- The earlier of two ends is one of them, the second only if it comes before the first. -/
theorem earlier_eq_some_iff {a b : Option (Answer α)} {e : Answer α} :
    earlier a b = some e ↔
      (a = some e ∧ ∀ y, b = some y → e.after ≤ y.after) ∨
        (b = some e ∧ ∀ x, a = some x → e.after < x.after) := by
  cases a with
  | none => simp [earlier]
  | some x =>
    cases b with
    | none => simp [earlier]
    | some y =>
      by_cases h : x.after ≤ y.after
      · simp only [earlier, if_pos h, Option.some.injEq]
        constructor
        · rintro rfl
          exact Or.inl ⟨rfl, fun _ hy => hy ▸ h⟩
        · rintro (⟨rfl, -⟩ | ⟨rfl, hlt⟩)
          · rfl
          · exact absurd h (Nat.not_le_of_lt (hlt x rfl))
      · simp only [earlier, if_neg h, Option.some.injEq]
        constructor
        · rintro rfl
          exact Or.inr ⟨rfl, fun _ hx => hx ▸ Nat.lt_of_not_le h⟩
        · rintro (⟨rfl, hle⟩ | ⟨rfl, -⟩)
          · exact absurd (hle y rfl) h
          · rfl

/-- There is an earlier end if there is any. -/
theorem earlier_eq_none_iff {a b : Option (Answer α)} :
    earlier a b = none ↔ a = none ∧ b = none := by
  cases a with
  | none => simp [earlier]
  | some x =>
    cases b with
    | none => simp [earlier]
    | some y =>
      simp only [earlier]
      split <;> simp

end Call

end PromptBudget
