import PromptBudget.Json.Basic
import PromptBudget.Json.Draft
import PromptBudget.Text.Utf8

/-!
# PromptBudget — reading JSON

Reading a draft gives its strings and numbers their meaning. Strings must be UTF-8 and name no half
of a surrogate pair. A number that is no 64-bit integer is a floating-point number, computed as the
leading digits that fit in 64 bits times or divided by a power of ten, each rounded once; one beyond
the range of the format is refused. Containers may be nested 127 deep.
-/

namespace PromptBudget.Json

/-! ## Strings -/

/-- The number written by four hexadecimal digits. -/
def codeUnit? (h₁ h₂ h₃ h₄ : UInt8) : Option Nat := do
  return (((← hexDigit? h₁) * 16 + (← hexDigit? h₂)) * 16 + (← hexDigit? h₃)) * 16 + (← hexDigit? h₄)

/-- The character of a single letter after a backslash. -/
def shortEscape (b : UInt8) : Char :=
  match Char.ofUInt8 b with
  | 'b' => '\x08'
  | 'f' => '\x0c'
  | 'n' => '\n'
  | 'r' => '\r'
  | 't' => '\t'
  | c => c

/-- The UTF-8 form of a character. -/
def charBytes (c : Char) : List UInt8 :=
  Text.encode (String.singleton c)

/-- The bytes that the inside of a string stands for; `none` if it names half a surrogate pair. -/
def unescape : List UInt8 → Option (List UInt8)
  | [] => some []
  | b :: rest =>
    if b == '\\'.toUInt8 then
      match rest with
      | [] => none
      | e :: rest =>
        if e == 'u'.toUInt8 then
          match rest with
          | h₁ :: h₂ :: h₃ :: h₄ :: rest => do
            let unit ← codeUnit? h₁ h₂ h₃ h₄
            if 0xDC00 ≤ unit && unit < 0xE000 then none
            else if 0xD800 ≤ unit && unit < 0xDC00 then
              match rest with
              | b :: u :: l₁ :: l₂ :: l₃ :: l₄ :: rest => do
                let low ← codeUnit? l₁ l₂ l₃ l₄
                if b == '\\'.toUInt8 && u == 'u'.toUInt8 && 0xDC00 ≤ low && low < 0xE000 then
                  let char := Char.ofNat (0x10000 + (unit - 0xD800) * 0x400 + (low - 0xDC00))
                  return charBytes char ++ (← unescape rest)
                else none
              | _ => none
            else return charBytes (Char.ofNat unit) ++ (← unescape rest)
          | _ => none
        else (unescape rest).map (charBytes (shortEscape e) ++ ·)
    else (unescape rest).map (b :: ·)

/-- The text of a string as written. -/
def textOf? (raw : List UInt8) : Option String :=
  (unescape raw).bind Text.decode?

/-! ## Numbers -/

/-- The greatest integer of 64 bits. -/
def maxWord : Nat := twoPow 64 - 1

/-- Digits appended to a number as long as it fits in 64 bits, and the digits left over. -/
def appendDigits (n : Nat) : List Nat → Nat × List Nat
  | [] => (n, [])
  | d :: rest => if n * 10 + d ≤ maxWord then appendDigits (n * 10 + d) rest else (n, d :: rest)

/-- The power of ten of a written exponent, up to the greatest signed number of 32 bits. -/
def exponentOf (negative : Bool) (digits : List Nat) : Option Int :=
  let n : Nat := digits.foldl (fun n d => min (n * 10 + d) (twoPow 31)) 0
  if n = twoPow 31 then none else some (if negative then -(n : Int) else n)

/-- A power of ten in the format with 64 bits. -/
def powerOfTen (n : Nat) : Floating :=
  Floating.ofDecimal Floating.double false 1 n

/-- A number divided by a power of ten, in steps of at most 308 places. -/
def scaleDown : Nat → Floating → Nat → Floating
  | 0, x, _ => x
  | fuel + 1, x, places =>
    if places ≤ 308 then Floating.div Floating.double x (powerOfTen places)
    else scaleDown fuel (Floating.div Floating.double x (powerOfTen 308)) (places - 308)

/-- A whole number times a power of ten; `none` beyond the range of the format. -/
def scale (significand : Nat) (exponent : Int) : Option Floating :=
  let x := Floating.ofInt Floating.double significand
  if significand = 0 then some .zero
  else if exponent < 0 then some (scaleDown 8 x (min (-exponent).toNat 2000))
  else if 308 < exponent then none
  else
    match Floating.mul Floating.double x (powerOfTen exponent.toNat) with
    | .infinite _ => none
    | y => some y

/-- The number with the other sign. -/
def negate : Floating → Floating
  | .finite negative significand exponent => .finite (!negative) significand exponent
  | .infinite negative => .infinite (!negative)
  | .undefined => .undefined

/-- The floating-point number of a literal; `none` beyond the range of the format. -/
def floatOf? (literal : Literal) : Option Floating := do
  let (significand, left) := appendDigits 0 literal.whole
  let (significand, unread) := appendDigits significand literal.fraction
  let places : Int := left.length - (literal.fraction.length - unread.length : Nat)
  let x ← match literal.exponent with
    | none => scale significand places
    | some (negative, digits) =>
      match exponentOf negative digits with
      | some exponent => scale significand (places + exponent)
      | none => if significand = 0 || negative then some .zero else none
  return if literal.negative then negate x else x

/-- The number of a literal: an integer if it is written as one and fits in 64 bits. Minus zero is not one. -/
def numberOf? (literal : Literal) : Option Number :=
  let n := literal.whole.foldl (fun n d => n * 10 + d) 0
  if literal.isWhole && !literal.negative && n ≤ maxWord then some (.int n)
  else if literal.isWhole && literal.negative && n ≠ 0 && n ≤ twoPow 63 then some (.int (-n))
  else (floatOf? literal).map .float

/-! ## Documents -/

mutual

/-- The value of a draft whose containers are nested at most so deep. -/
def ofDraft? (depth : Nat) : Draft → Option Json
  | .null => some .null
  | .bool b => some (.bool b)
  | .number literal => (numberOf? literal).map .number
  | .string raw => (textOf? raw).map .string
  | .array items => if depth = 0 then none else (ofItems? (depth - 1) items).map .array
  | .object fields => if depth = 0 then none else (ofFields? (depth - 1) fields).map .object

/-- The values of drafts. -/
def ofItems? (depth : Nat) : List Draft → Option (List Json)
  | [] => some []
  | draft :: rest => do return (← ofDraft? depth draft) :: (← ofItems? depth rest)

/-- The fields of drafts. -/
def ofFields? (depth : Nat) : List (List UInt8 × Draft) → Option (List (String × Json))
  | [] => some []
  | (key, draft) :: rest => do return (← textOf? key, ← ofDraft? depth draft) :: (← ofFields? depth rest)

end

/-- How deep containers may be nested. -/
def maxDepth : Nat := 127

/-- The value of a text in bytes. -/
def read? (bytes : List UInt8) : Option Json :=
  (Draft.read? bytes).bind (ofDraft? maxDepth)

/-- The value of a text. -/
def ofText? (text : String) : Option Json :=
  read? (Text.encode text)

end PromptBudget.Json
