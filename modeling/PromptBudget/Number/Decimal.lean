import PromptBudget.Number.Floating

/-!
# PromptBudget — the shortest decimal of a floating-point number

Every floating-point number is printed with the fewest digits that read back as the same number,
and of those decimals the nearest. `shortest` finds it by exact arithmetic: for one digit, two
digits and so on it tries the two neighbours of the number on that decimal grid. How a decimal is
written, with a point or with an exponent, is the choice of a `Style`.

Main statement:

* `stripZeros_mul` — taking trailing zeros off a coefficient keeps the number.
-/

namespace PromptBudget

/-- The number `coefficient * 10 ^ exponent`. -/
structure Decimal where
  /-- The digits, read as a natural number. -/
  coefficient : Nat
  /-- The power of ten of the last digit. -/
  exponent : Int
  deriving DecidableEq, Repr

namespace Decimal

/-! ## The fewest digits -/

/-- Takes up to `fuel` trailing zeros off a coefficient. -/
def stripZeros : Nat → Decimal → Decimal
  | 0, d => d
  | fuel + 1, d =>
    if d.coefficient % 10 = 0 then stripZeros fuel ⟨d.coefficient / 10, d.exponent + 1⟩ else d

/-- The numbers that a format rounds to one significand, as fractions over a common denominator. -/
structure Basin where
  /-- The number itself. -/
  value : Nat
  /-- The least of the numbers that round to it. -/
  low : Nat
  /-- The greatest of the numbers that round to it. -/
  high : Nat
  /-- The denominator of all three. -/
  den : Nat
  /-- Whether the two ends round to it as well: they are ties, so they do for an even significand. -/
  closed : Bool

/-- The basin of a nonzero number. The step below a power of two is half as wide as the one above it. -/
def basin (format : Floating.Format) (significand : Nat) (exponent : Int) : Basin :=
  let atPower := significand = twoPow (format.precision - 1) && decide (format.leastExponent < exponent)
  let unit := twoPow (exponent - 2).toNat
  { value := 4 * significand * unit
    low := (4 * significand - (if atPower then 1 else 2)) * unit
    high := (4 * significand + 2) * unit
    den := twoPow (2 - exponent).toNat
    closed := significand % 2 = 0 }

/-- Whether `coefficient * 10 ^ exponent` lies in the basin. -/
def Basin.holds (b : Basin) (coefficient : Nat) (exponent : Int) : Bool :=
  let point := coefficient * tenPow exponent.toNat * b.den
  let scale := tenPow (-exponent).toNat
  if b.closed then b.low * scale ≤ point && point ≤ b.high * scale
  else b.low * scale < point && point < b.high * scale

/-- The exponent `k` with `10 ^ k ≤ value < 10 ^ (k + 1)`. -/
def Basin.order (b : Basin) : Int :=
  if b.den ≤ b.value then ((Nat.toDigits 10 (b.value / b.den)).length : Int) - 1
  else
    let places := (Nat.toDigits 10 (b.den / b.value)).length
    if b.den ≤ b.value * tenPow (places - 1) then -((places : Int) - 1) else -(places : Int)

/-- The neighbour of the value on the grid of a power of ten that lies in the basin, and of two the
nearer one. -/
def Basin.neighbour? (b : Basin) (exponent : Int) : Option Decimal :=
  let num := b.value * tenPow (-exponent).toNat
  let step := b.den * tenPow exponent.toNat
  let below := num / step
  match b.holds below exponent, b.holds (below + 1) exponent with
  | true, false => some ⟨below, exponent⟩
  | false, true => some ⟨below + 1, exponent⟩
  | true, true =>
    let past := 2 * (num % step)
    if past < step || (past = step && below % 2 = 0) then some ⟨below, exponent⟩ else some ⟨below + 1, exponent⟩
  | false, false => none

/-- The first grid, from the given one to finer ones, with a neighbour in the basin. -/
def Basin.search (b : Basin) : Nat → Int → Decimal
  | 0, exponent => ⟨b.value * tenPow (-exponent).toNat / (b.den * tenPow exponent.toNat), exponent⟩
  | fuel + 1, exponent =>
    match b.neighbour? exponent with
    | some d => d
    | none => b.search fuel (exponent - 1)

/-- The decimal of fewest digits that the format rounds to `significand * 2 ^ exponent`. -/
def shortest (format : Floating.Format) (significand : Nat) (exponent : Int) : Decimal :=
  if significand = 0 then ⟨0, 0⟩
  else
    let b := basin format significand exponent
    stripZeros 400 (b.search 17 b.order)

theorem stripZeros_mul (fuel : Nat) (d : Decimal) (shift : Nat) (h : d.exponent = shift) :
    ∃ s : Nat, (stripZeros fuel d).exponent = s ∧
      (stripZeros fuel d).coefficient * tenPow s = d.coefficient * tenPow shift := by
  induction fuel generalizing d shift with
  | zero => exact ⟨shift, h, rfl⟩
  | succ fuel ih =>
    rw [stripZeros]
    split
    · next hzero =>
      obtain ⟨s, hs, heq⟩ := ih ⟨d.coefficient / 10, d.exponent + 1⟩ (shift + 1) (by simp [h])
      refine ⟨s, hs, heq.trans ?_⟩
      have hten : d.coefficient / 10 * 10 = d.coefficient :=
        Nat.div_mul_cancel (Nat.dvd_of_mod_eq_zero hzero)
      rw [tenPow_succ, Nat.mul_comm (tenPow shift), ← Nat.mul_assoc, hten]
    · exact ⟨shift, h, rfl⟩

/-! ## Writing -/

/-- Which decimals are written with a point only. A decimal `0.d₁d₂… * 10 ^ places` is when its
`places` lie between the two bounds; a missing bound sets no limit. -/
structure Style where
  /-- The fewest places of a decimal written with a point. -/
  least : Option Int
  /-- The most places of a decimal written with a point. -/
  greatest : Option Int

/-- Whether a decimal with so many places is written with a point only. -/
def Style.positional (style : Style) (places : Int) : Bool :=
  (style.least.all (· ≤ places)) && (style.greatest.all (places ≤ ·))

/-- The digits of a decimal. -/
def digits (d : Decimal) : List Char :=
  Nat.toDigits 10 d.coefficient

/-- The digits of a decimal with a point, and with a zero on a side of the point that has no digit. -/
def withPoint (digits : List Char) (places : Int) : List Char :=
  if places ≤ 0 then ['0', '.'] ++ List.replicate (-places).toNat '0' ++ digits
  else if digits.length ≤ places.toNat then
    digits ++ List.replicate (places.toNat - digits.length) '0' ++ ['.', '0']
  else digits.take places.toNat ++ ['.'] ++ digits.drop places.toNat

/-- The digits of a decimal with a point after the first and an exponent. -/
def withExponent (digits : List Char) (places : Int) : List Char :=
  let mantissa := match digits with
    | [] => []
    | [d] => [d]
    | d :: rest => d :: '.' :: rest
  mantissa ++ ['e'] ++ (toString (places - 1)).toList

/-- A decimal in a style; there is always a digit after a point. -/
def write (style : Style) (negative : Bool) (d : Decimal) : String :=
  let places : Int := d.digits.length + d.exponent
  let body :=
    if d.coefficient = 0 then ['0', '.', '0']
    else if style.positional places then withPoint d.digits places
    else withExponent d.digits places
  String.ofList (if negative then '-' :: body else body)

end Decimal

/-- A finite number of a format in a style; `none` if it is infinite or undefined. -/
def Floating.write? (format : Floating.Format) (style : Decimal.Style) : Floating → Option String
  | .finite negative significand exponent =>
    some (Decimal.write style negative (Decimal.shortest format significand exponent))
  | .infinite _ | .undefined => none

end PromptBudget
