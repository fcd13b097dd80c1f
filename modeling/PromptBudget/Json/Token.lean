/-!
# PromptBudget — the tokens of JSON text

A JSON text is read in bytes. Its tokens are the punctuation marks, the three words, numbers kept
as they are written, and strings kept as the bytes between their quotes: what a number or a string
stands for is a later question, so that parts of a document nobody looks at need only be well formed.

Main statements:

* `length_takeDigits`, `length_takeString`, `length_takeNumber` — a scanner leaves no more than it was given.
-/

namespace PromptBudget.Json

/-- A punctuation mark. -/
inductive Mark where
  | openArray
  | closeArray
  | openObject
  | closeObject
  | colon
  | comma
  deriving DecidableEq, Repr

/-- A number as it is written. -/
structure Literal where
  /-- Whether it starts with a minus sign. -/
  negative : Bool
  /-- The digits before the point. -/
  whole : List Nat
  /-- The digits after the point. -/
  fraction : List Nat
  /-- Whether the exponent has a minus sign, and its digits. -/
  exponent : Option (Bool × List Nat)
  deriving DecidableEq, Repr

namespace Literal

/-- Whether a number is written without a point and without an exponent. -/
def isWhole (literal : Literal) : Bool :=
  literal.fraction.isEmpty && literal.exponent.isNone

end Literal

/-- A token. -/
inductive Token where
  | mark (m : Mark)
  | null
  | bool (b : Bool)
  | number (literal : Literal)
  | string (raw : List UInt8)
  deriving DecidableEq, Repr

/-! ## Scanners -/

/-- The value of a digit, if the byte is one. -/
def digit? (b : UInt8) : Option Nat :=
  if 0x30 ≤ b && b ≤ 0x39 then some (b.toNat - 0x30) else none

/-- The value of a hexadecimal digit, if the byte is one. -/
def hexDigit? (b : UInt8) : Option Nat :=
  if 0x30 ≤ b && b ≤ 0x39 then some (b.toNat - 0x30)
  else if 0x41 ≤ b && b ≤ 0x46 then some (b.toNat - 0x37)
  else if 0x61 ≤ b && b ≤ 0x66 then some (b.toNat - 0x57)
  else none

/-- Takes the leading digits. -/
def takeDigits : List UInt8 → List Nat × List UInt8
  | [] => ([], [])
  | b :: rest =>
    match digit? b with
    | some d => (d :: (takeDigits rest).1, (takeDigits rest).2)
    | none => ([], b :: rest)

/-- Whether a byte may follow a backslash on its own. -/
def isShortEscape (b : UInt8) : Bool :=
  ['"', '\\', '/', 'b', 'f', 'n', 'r', 't'].any (·.toNat == b.toNat)

/-- Takes the rest of a string, up to and without its closing quote. -/
def takeString : List UInt8 → Option (List UInt8 × List UInt8)
  | [] => none
  | b :: rest =>
    if b == '"'.toUInt8 then some ([], rest)
    else if b < 0x20 then none
    else if b == '\\'.toUInt8 then
      match rest with
      | [] => none
      | e :: rest =>
        if isShortEscape e then (takeString rest).map fun (raw, left) => (b :: e :: raw, left)
        else if e == 'u'.toUInt8 then
          match rest with
          | h₁ :: h₂ :: h₃ :: h₄ :: rest =>
            if [h₁, h₂, h₃, h₄].all (hexDigit? · |>.isSome) then
              (takeString rest).map fun (raw, left) => (b :: e :: h₁ :: h₂ :: h₃ :: h₄ :: raw, left)
            else none
          | _ => none
        else none
    else (takeString rest).map fun (raw, left) => (b :: raw, left)

/-- Takes the digits before the point: a lone zero, or digits that do not start with one. -/
def takeWhole : List UInt8 → Option (List Nat × List UInt8)
  | [] => none
  | b :: rest =>
    match digit? b with
    | none => none
    | some 0 => some ([0], rest)
    | some d => some (d :: (takeDigits rest).1, (takeDigits rest).2)

/-- Takes a point and the digits after it, if a point comes next. -/
def takeFraction : List UInt8 → Option (List Nat × List UInt8)
  | [] => some ([], [])
  | b :: rest =>
    if b == '.'.toUInt8 then
      if (takeDigits rest).1.isEmpty then none else some (takeDigits rest)
    else some ([], b :: rest)

/-- Takes a sign, if one comes next, and says whether it is a minus. -/
def takeSign : List UInt8 → Bool × List UInt8
  | [] => (false, [])
  | b :: rest =>
    if b == '-'.toUInt8 then (true, rest)
    else if b == '+'.toUInt8 then (false, rest)
    else (false, b :: rest)

/-- Takes an exponent, if one comes next. -/
def takeExponent : List UInt8 → Option (Option (Bool × List Nat) × List UInt8)
  | [] => some (none, [])
  | b :: rest =>
    if b == 'e'.toUInt8 || b == 'E'.toUInt8 then
      let (negative, unsigned) := takeSign rest
      let (digits, left) := takeDigits unsigned
      if digits.isEmpty then none else some (some (negative, digits), left)
    else some (none, b :: rest)

/-- Takes a number. -/
def takeNumber (bytes : List UInt8) : Option (Literal × List UInt8) := do
  let negative := bytes.head? == some '-'.toUInt8
  let (whole, rest) ← takeWhole (if negative then bytes.tail else bytes)
  let (fraction, rest) ← takeFraction rest
  let (exponent, rest) ← takeExponent rest
  return (⟨negative, whole, fraction, exponent⟩, rest)

/-- Takes the given text. -/
def takeWord (word : List Char) (bytes : List UInt8) : Option (List UInt8) :=
  match word, bytes with
  | [], bytes => some bytes
  | _ :: _, [] => none
  | c :: word, b :: rest => if b == c.toUInt8 then takeWord word rest else none

/-! ### What the scanners leave -/

theorem length_takeDigits (bytes : List UInt8) : (takeDigits bytes).2.length ≤ bytes.length := by
  induction bytes with
  | nil => simp [takeDigits]
  | cons b rest ih =>
    rw [takeDigits]
    split
    · simp only [List.length_cons]; omega
    · simp

theorem length_takeString {bytes raw left : List UInt8} (h : takeString bytes = some (raw, left)) :
    left.length < bytes.length := by
  fun_induction takeString bytes generalizing raw with
  | case1 => simp at h
  | case2 b rest hquote => simp_all
  | case3 => simp at h
  | case4 => simp at h
  | case5 b _ _ _ e rest _ ih =>
    obtain ⟨⟨raw', left'⟩, hrest, hpair⟩ := Option.map_eq_some_iff.1 h
    obtain ⟨rfl, rfl⟩ := Prod.mk.inj hpair
    have := ih hrest
    simp only [List.length_cons]; omega
  | case6 b _ _ _ e _ _ h₁ h₂ h₃ h₄ rest _ ih =>
    obtain ⟨⟨raw', left'⟩, hrest, hpair⟩ := Option.map_eq_some_iff.1 h
    obtain ⟨rfl, rfl⟩ := Prod.mk.inj hpair
    have := ih hrest
    simp only [List.length_cons]; omega
  | case7 => simp at h
  | case8 => simp at h
  | case9 => simp at h
  | case10 b rest _ _ _ ih =>
    obtain ⟨⟨raw', left'⟩, hrest, hpair⟩ := Option.map_eq_some_iff.1 h
    obtain ⟨rfl, rfl⟩ := Prod.mk.inj hpair
    have := ih hrest
    simp only [List.length_cons]; omega

theorem length_takeWhole {bytes left : List UInt8} {digits : List Nat}
    (h : takeWhole bytes = some (digits, left)) : left.length < bytes.length := by
  cases bytes with
  | nil => simp [takeWhole] at h
  | cons b rest =>
    rw [takeWhole] at h
    have := length_takeDigits rest
    split at h
    · simp at h
    · simp_all
    · obtain ⟨rfl, rfl⟩ := Prod.mk.inj (Option.some.inj h)
      simp only [List.length_cons]; omega

theorem length_takeFraction {bytes left : List UInt8} {digits : List Nat}
    (h : takeFraction bytes = some (digits, left)) : left.length ≤ bytes.length := by
  cases bytes with
  | nil => simp_all [takeFraction]
  | cons b rest =>
    rw [takeFraction] at h
    have := length_takeDigits rest
    split at h
    · split at h
      · simp at h
      · obtain ⟨rfl, rfl⟩ := Prod.mk.inj (Option.some.inj h)
        simp only [List.length_cons]; omega
    · simp_all

theorem length_takeSign (bytes : List UInt8) : (takeSign bytes).2.length ≤ bytes.length := by
  cases bytes with
  | nil => simp [takeSign]
  | cons b rest => rw [takeSign]; split <;> (try split) <;> simp

theorem length_takeExponent {bytes left : List UInt8} {exponent : Option (Bool × List Nat)}
    (h : takeExponent bytes = some (exponent, left)) : left.length ≤ bytes.length := by
  cases bytes with
  | nil => simp_all [takeExponent]
  | cons b rest =>
    simp only [takeExponent] at h
    have hsign := length_takeSign rest
    have hdigits := length_takeDigits (takeSign rest).2
    split at h
    · split at h
      · simp at h
      · obtain ⟨_, rfl⟩ := Prod.mk.inj (Option.some.inj h)
        simp only [List.length_cons]; omega
    · simp_all

theorem length_takeNumber {bytes left : List UInt8} {literal : Literal}
    (h : takeNumber bytes = some (literal, left)) : left.length < bytes.length := by
  simp only [takeNumber, Option.bind_eq_bind, Option.bind_eq_some_iff, Prod.exists] at h
  obtain ⟨whole, rest, hwhole, fraction, rest', hfraction, exponent, rest'', hexponent, hpair⟩ := h
  obtain ⟨_, rfl⟩ := Prod.mk.inj (Option.some.inj hpair)
  have h₁ := length_takeWhole hwhole
  have h₂ := length_takeFraction hfraction
  have h₃ := length_takeExponent hexponent
  have : (if (bytes.head? == some '-'.toUInt8) = true then bytes.tail else bytes).length ≤ bytes.length := by
    split
    · simp
    · simp
  omega

theorem length_takeWord {word : List Char} {bytes left : List UInt8} (h : takeWord word bytes = some left) :
    left.length ≤ bytes.length := by
  fun_induction takeWord word bytes with
  | case1 => simp_all
  | case2 => simp at h
  | case3 c word b rest _ ih =>
    have := ih h
    simp only [List.length_cons]; omega
  | case4 => simp at h

/-! ## Tokens -/

/-- The punctuation mark of a byte. -/
def mark? (b : UInt8) : Option Mark :=
  match Char.ofUInt8 b with
  | '[' => some .openArray
  | ']' => some .closeArray
  | '\x7b' => some .openObject
  | '\x7d' => some .closeObject
  | ':' => some .colon
  | ',' => some .comma
  | _ => none

/-- Whether a byte may stand between tokens. -/
def isSpace (b : UInt8) : Bool :=
  b == 0x20 || b == 0x09 || b == 0x0A || b == 0x0D

/-- Takes a token that is a word or a number. -/
def takeScalar (bytes : List UInt8) : Option (Token × List UInt8) :=
  match bytes with
  | [] => none
  | b :: rest =>
    match Char.ofUInt8 b with
    | 'n' => (takeWord ['u', 'l', 'l'] rest).map fun left => (.null, left)
    | 't' => (takeWord ['r', 'u', 'e'] rest).map fun left => (.bool true, left)
    | 'f' => (takeWord ['a', 'l', 's', 'e'] rest).map fun left => (.bool false, left)
    | '"' => (takeString rest).map fun (raw, left) => (.string raw, left)
    | _ => (takeNumber (b :: rest)).map fun (literal, left) => (.number literal, left)

theorem length_takeScalar {bytes left : List UInt8} {token : Token}
    (h : takeScalar bytes = some (token, left)) : left.length < bytes.length := by
  cases bytes with
  | nil => simp [takeScalar] at h
  | cons b rest =>
    simp only [takeScalar] at h
    split at h
    · obtain ⟨left', hword, hpair⟩ := Option.map_eq_some_iff.1 h
      obtain ⟨_, rfl⟩ := Prod.mk.inj hpair
      exact Nat.lt_succ_of_le (length_takeWord hword)
    · obtain ⟨left', hword, hpair⟩ := Option.map_eq_some_iff.1 h
      obtain ⟨_, rfl⟩ := Prod.mk.inj hpair
      exact Nat.lt_succ_of_le (length_takeWord hword)
    · obtain ⟨left', hword, hpair⟩ := Option.map_eq_some_iff.1 h
      obtain ⟨_, rfl⟩ := Prod.mk.inj hpair
      exact Nat.lt_succ_of_le (length_takeWord hword)
    · obtain ⟨⟨raw, left'⟩, hstring, hpair⟩ := Option.map_eq_some_iff.1 h
      obtain ⟨_, rfl⟩ := Prod.mk.inj hpair
      have := length_takeString hstring
      simp only [List.length_cons]; omega
    · obtain ⟨⟨literal, left'⟩, hnumber, hpair⟩ := Option.map_eq_some_iff.1 h
      obtain ⟨_, rfl⟩ := Prod.mk.inj hpair
      exact length_takeNumber hnumber

/-- The tokens of a text, the last one first, in front of those already taken. -/
def collectTokens (taken : List Token) (bytes : List UInt8) : Option (List Token) :=
  match bytes with
  | [] => some taken
  | b :: rest =>
    if isSpace b then collectTokens taken rest
    else
      match mark? b with
      | some m => collectTokens (.mark m :: taken) rest
      | none =>
        match h : takeScalar (b :: rest) with
        | none => none
        | some (token, left) =>
          have := length_takeScalar h
          collectTokens (token :: taken) left
  termination_by bytes.length
  decreasing_by all_goals simp only [List.length_cons] at *; omega

/-- The tokens of a text. -/
def tokens? (bytes : List UInt8) : Option (List Token) :=
  (collectTokens [] bytes).map List.reverse

end PromptBudget.Json
