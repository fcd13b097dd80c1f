import PromptBudget.Number.Power

/-!
# PromptBudget — binary floating-point numbers

A floating-point number is a significand times a power of two, an infinity, or undefined. A format
bounds the two parts. Every operation is exact arithmetic on natural numbers followed by one
rounding to the nearest number of the format, where a tie goes to the even significand.

Main statement:

* `two_mul_roundQuotient` — a rounded quotient is within half a unit of the quotient.
-/

namespace PromptBudget

/-- What a floating-point format can hold: significands below `2 ^ precision`, and the exponents
of their last binary digit. -/
structure Floating.Format where
  /-- How many binary digits a significand has. -/
  precision : Nat
  /-- The exponent of the smallest numbers. -/
  leastExponent : Int
  /-- The exponent of the greatest numbers. -/
  greatestExponent : Int
  deriving DecidableEq, Repr

/-- A floating-point number. In a format, zero has exponent 0, and any other number has the least
exponent or a significand of full length, so equal numbers are equal values. -/
inductive Floating where
  /-- `significand * 2 ^ exponent`, with its sign. -/
  | finite (negative : Bool) (significand : Nat) (exponent : Int)
  /-- Beyond the greatest number of the format. -/
  | infinite (negative : Bool)
  /-- No number. -/
  | undefined
  deriving DecidableEq, Repr, Inhabited

namespace Floating

/-- The format with 32 bits. -/
def single : Format := ⟨24, -149, 104⟩

/-- The format with 64 bits. -/
def double : Format := ⟨53, -1074, 971⟩

/-- Zero. -/
def zero : Floating := .finite false 0 0

/-- One, in the format with 32 bits. -/
def one : Floating := .finite false (twoPow 23) (-23)

/-! ## Rounding -/

/-- A quotient rounded to the nearest natural number; a tie goes to the even one. -/
def roundQuotient (num den : Nat) : Nat :=
  let quotient := num / den
  let doubled := 2 * (num % den)
  if doubled < den then quotient
  else if den < doubled then quotient + 1
  else quotient + quotient % 2

theorem two_mul_roundQuotient (num den : Nat) (hden : 0 < den) :
    2 * num ≤ (2 * roundQuotient num den + 1) * den ∧ (2 * roundQuotient num den) * den ≤ 2 * num + den := by
  have hdiv := Nat.div_add_mod num den
  have hmod := Nat.mod_lt num hden
  simp only [roundQuotient]
  generalize hq : num / den = q at *
  generalize hr : num % den = r at *
  have hexp : (2 * q + 1) * den = 2 * (den * q) + den := by rw [Nat.add_mul, Nat.mul_assoc, Nat.mul_comm q]; omega
  have hsucc : (2 * (q + 1)) * den = 2 * (den * q) + 2 * den := by
    rw [Nat.mul_add, Nat.add_mul, Nat.mul_assoc, Nat.mul_comm q]
  have hsame : 2 * q * den = 2 * (den * q) := by rw [Nat.mul_assoc, Nat.mul_comm q]
  have hnext : (2 * (q + 1) + 1) * den = 2 * (den * q) + 3 * den := by
    rw [Nat.add_mul, hsucc]; omega
  split
  · omega
  · split
    · omega
    · rcases Nat.mod_two_eq_zero_or_one q with h | h <;> rw [h]
      · simp only [Nat.add_zero]; omega
      · omega

/-- The exponent `k` with `2 ^ k ≤ num / den < 2 ^ (k + 1)`. -/
def binaryOrder (num den : Nat) : Int :=
  let estimate : Int := (num.log2 : Int) - den.log2
  if den * twoPow estimate.toNat ≤ num * twoPow (-estimate).toNat then estimate else estimate - 1

/-- The number of the format nearest to `num / den`, with the given sign. -/
def round (format : Format) (negative : Bool) (num den : Nat) : Floating :=
  if num = 0 then .finite negative 0 0
  else
    let exponent := max (binaryOrder num den - (format.precision - 1)) format.leastExponent
    let significand := roundQuotient (num * twoPow (-exponent).toNat) (den * twoPow exponent.toNat)
    if significand = 0 then .finite negative 0 0
    else if significand < twoPow format.precision then
      if exponent ≤ format.greatestExponent then .finite negative significand exponent else .infinite negative
    else
      if exponent < format.greatestExponent then .finite negative (twoPow (format.precision - 1)) (exponent + 1)
      else .infinite negative

/-- A significand and its exponent as a fraction. -/
def fraction (significand : Nat) (exponent : Int) : Nat × Nat :=
  (significand * twoPow exponent.toNat, twoPow (-exponent).toNat)

/-- The number of the format nearest to a number. -/
def convert (format : Format) : Floating → Floating
  | .finite negative significand exponent =>
    round format negative (fraction significand exponent).1 (fraction significand exponent).2
  | .infinite negative => .infinite negative
  | .undefined => .undefined

/-- The number of the format nearest to an integer. -/
def ofInt (format : Format) (n : Int) : Floating :=
  round format (n < 0) n.natAbs 1

/-- The number of the format nearest to `coefficient * 10 ^ exponent`. Beyond 400 decimal places on
either side of the point the answer is known without the power. -/
def ofDecimal (format : Format) (negative : Bool) (coefficient : Nat) (exponent : Int) : Floating :=
  let places : Int := (Nat.toDigits 10 coefficient).length + exponent
  if coefficient = 0 || places < -400 then .finite negative 0 0
  else if 400 < places then .infinite negative
  else round format negative (coefficient * tenPow exponent.toNat) (tenPow (-exponent).toNat)

/-! ## Arithmetic and order -/

/-- The product, rounded to the format. -/
def mul (format : Format) : Floating → Floating → Floating
  | .finite s m e, .finite t n d =>
    round format (s != t) (fraction (m * n) (e + d)).1 (fraction (m * n) (e + d)).2
  | .finite s m _, .infinite t | .infinite s, .finite t m _ => if m = 0 then .undefined else .infinite (s != t)
  | .infinite s, .infinite t => .infinite (s != t)
  | .undefined, _ | _, .undefined => .undefined

/-- The quotient, rounded to the format; by zero it is infinite or undefined. -/
def div (format : Format) : Floating → Floating → Floating
  | .finite s m e, .finite t n d =>
    if n = 0 then (if m = 0 then .undefined else .infinite (s != t))
    else
      let top := fraction m (e - d)
      round format (s != t) top.1 (top.2 * n)
  | .finite s _ _, .infinite t => .finite (s != t) 0 0
  | .infinite s, .finite t _ _ => .infinite (s != t)
  | .infinite _, .infinite _ => .undefined
  | .undefined, _ | _, .undefined => .undefined

/-- A signed significand brought to a lower exponent. -/
def aligned (negative : Bool) (significand : Nat) (exponent lower : Int) : Int :=
  let n : Int := (significand * twoPow (exponent - lower).toNat : Nat)
  if negative then -n else n

/-- Whether a number is at most another. No number is comparable with the undefined one. -/
def le : Floating → Floating → Bool
  | .finite s m e, .finite t n d => aligned s m e (min e d) ≤ aligned t n d (min e d)
  | .finite _ _ _, .infinite t => !t
  | .infinite s, .finite _ _ _ => s
  | .infinite s, .infinite t => s || !t
  | .undefined, _ | _, .undefined => false

end Floating

end PromptBudget
