/-!
# PromptBudget — powers of two and of ten

The bounds of integers of fixed width are powers of two, and the places of decimals are powers of
ten. Both are natural numbers, computed exactly.
-/

namespace PromptBudget

/-- Two to the power `n`. -/
def twoPow (n : Nat) : Nat := Nat.pow 2 n

/-- Ten to the power `n`. -/
def tenPow (n : Nat) : Nat := Nat.pow 10 n

theorem tenPow_succ (n : Nat) : tenPow (n + 1) = tenPow n * 10 := rfl

end PromptBudget
