/-!
# PromptBudget — text measured in UTF-8 bytes

Positions in a text are counted in bytes of its UTF-8 form, but a text is a list of characters, so
a position either falls between two characters or inside one. `splitAtByte?` splits at a position
and refuses those inside a character, `cut?` removes the part between two positions, and
`decodeLossy` reads bytes of which some are not UTF-8.

Main statements:

* `splitAtByte?_append` — a split at the length of the first of two joined texts gives the two back.
* `append_of_splitAtByte?` — the two parts of a split are the text, and the first has the length asked for.
* `cut?_append` — a cut from the end of `a` to the end of `a ++ b` takes `b` out of `a ++ b ++ c`.
-/

namespace PromptBudget.Text

/-- The number of bytes of the UTF-8 form of a text. -/
def byteLength (text : List Char) : Nat :=
  text.foldr (fun c n => c.utf8Size + n) 0

/-- Splits a text after the given number of bytes; `none` past its end or inside a character. -/
def splitAtByte? : Nat → List Char → Option (List Char × List Char)
  | 0, text => some ([], text)
  | _ + 1, [] => none
  | n + 1, c :: rest =>
    if c.utf8Size ≤ n + 1 then
      (splitAtByte? (n + 1 - c.utf8Size) rest).map fun (front, back) => (c :: front, back)
    else none

/-- Removes the bytes from `start` up to `stop`. Both must fall between characters, in this order. -/
def cut? (start stop : Nat) (text : List Char) : Option (List Char) :=
  if start ≤ stop then
    (splitAtByte? start text).bind fun (front, rest) =>
      (splitAtByte? (stop - start) rest).map fun (_, back) => front ++ back
  else none

/-! ## Lengths and splits -/

@[simp] theorem byteLength_nil : byteLength [] = 0 := rfl

@[simp] theorem byteLength_cons (c : Char) (text : List Char) :
    byteLength (c :: text) = c.utf8Size + byteLength text := rfl

@[simp] theorem byteLength_append (a b : List Char) :
    byteLength (a ++ b) = byteLength a + byteLength b := by
  induction a with
  | nil => exact (Nat.zero_add _).symm
  | cons c a ih => rw [List.cons_append, byteLength_cons, ih, byteLength_cons, Nat.add_assoc]

theorem splitAtByte?_append (a b : List Char) : splitAtByte? (byteLength a) (a ++ b) = some (a, b) := by
  induction a with
  | nil => simp [splitAtByte?]
  | cons c a ih =>
    have hc := Char.utf8Size_pos c
    obtain ⟨n, hn⟩ : ∃ n, byteLength (c :: a) = n + 1 := ⟨c.utf8Size + byteLength a - 1, by simp; omega⟩
    have hle : c.utf8Size ≤ n + 1 := by simp at hn; omega
    have hsub : n + 1 - c.utf8Size = byteLength a := by simp at hn; omega
    rw [hn, List.cons_append, splitAtByte?, if_pos hle, hsub, ih]
    rfl

theorem append_of_splitAtByte? {n : Nat} {text front back : List Char}
    (h : splitAtByte? n text = some (front, back)) : text = front ++ back ∧ byteLength front = n := by
  fun_induction splitAtByte? n text generalizing front back with
  | case1 text =>
    obtain ⟨rfl, rfl⟩ := by simpa using h
    simp
  | case2 => simp at h
  | case3 n c rest hle ih =>
    obtain ⟨⟨f, b⟩, hsplit, hpair⟩ := Option.map_eq_some_iff.1 h
    obtain ⟨rfl, rfl⟩ := Prod.mk.inj hpair
    obtain ⟨rfl, hlen⟩ := ih hsplit
    exact ⟨rfl, by simp; omega⟩
  | case4 => simp at h

theorem cut?_append (a b c : List Char) :
    cut? (byteLength a) (byteLength a + byteLength b) (a ++ b ++ c) = some (a ++ c) := by
  simp [cut?, splitAtByte?_append, List.append_assoc]

/-! ## Bytes that are not all UTF-8 -/

/-- The character that stands for bytes that are no UTF-8. -/
def replacement : Char := '\uFFFD'

/-- The continuation bytes that may follow a first byte: how many, and the least and the greatest
value of the first of them. The ranges keep out overlong forms, surrogates and values over U+10FFFF. -/
def continuation? (first : UInt8) : Option (Nat × UInt8 × UInt8) :=
  if first < 0x80 then some (0, 0x80, 0xBF)
  else if 0xC2 ≤ first && first ≤ 0xDF then some (1, 0x80, 0xBF)
  else if first == 0xE0 then some (2, 0xA0, 0xBF)
  else if first == 0xED then some (2, 0x80, 0x9F)
  else if 0xE1 ≤ first && first ≤ 0xEF then some (2, 0x80, 0xBF)
  else if first == 0xF0 then some (3, 0x90, 0xBF)
  else if 0xF1 ≤ first && first ≤ 0xF3 then some (3, 0x80, 0xBF)
  else if first == 0xF4 then some (3, 0x80, 0x8F)
  else none

/-- Takes up to `count` continuation bytes, of which the first lies in `low … high`. -/
def takeContinuation : Nat → UInt8 → UInt8 → List UInt8 → List UInt8 × List UInt8
  | 0, _, _, bytes => ([], bytes)
  | _ + 1, _, _, [] => ([], [])
  | count + 1, low, high, b :: rest =>
    if low ≤ b && b ≤ high then
      let (taken, left) := takeContinuation count 0x80 0xBF rest
      (b :: taken, left)
    else ([], b :: rest)

theorem length_takeContinuation (count : Nat) (low high : UInt8) (bytes : List UInt8) :
    (takeContinuation count low high bytes).2.length ≤ bytes.length := by
  fun_induction takeContinuation count low high bytes with
  | case1 => simp
  | case2 => simp
  | case3 count low high b rest hb taken left heq ih =>
    simp only [heq] at ih
    simp only [List.length_cons]
    omega
  | case4 => simp

/-- The character of a first byte and its continuation bytes. -/
def assemble (first : UInt8) (tail : List UInt8) : Char :=
  let bits := match tail.length with
    | 0 => first.toNat
    | 1 => first.toNat % 32
    | 2 => first.toNat % 16
    | _ => first.toNat % 8
  Char.ofNat (tail.foldl (fun n b => n * 64 + b.toNat % 64) bits)

/-- Reads bytes as UTF-8. Each longest run of bytes that starts a character but does not finish it,
and each byte that starts none, is handed to `broken`, which says what stands in its place. -/
def decodeWith (broken : Option Char) (bytes : List UInt8) : Option (List Char) :=
  match bytes with
  | [] => some []
  | first :: rest =>
    match continuation? first with
    | none => do
      let c ← broken
      let more ← decodeWith broken rest
      return c :: more
    | some (count, low, high) =>
      have := length_takeContinuation count low high rest
      if (takeContinuation count low high rest).1.length = count then do
        let more ← decodeWith broken (takeContinuation count low high rest).2
        return assemble first (takeContinuation count low high rest).1 :: more
      else do
        let c ← broken
        let more ← decodeWith broken (takeContinuation count low high rest).2
        return c :: more
  termination_by bytes.length
  decreasing_by all_goals (simp only [List.length_cons]; omega)

/-- The text of bytes that are UTF-8 throughout. -/
def decode? (bytes : List UInt8) : Option String :=
  (decodeWith none bytes).map String.ofList

/-- The text of any bytes, with U+FFFD for each part that is no UTF-8. -/
def decodeLossy (bytes : List UInt8) : String :=
  String.ofList ((decodeWith (some replacement) bytes).getD [])

/-- The UTF-8 form of a text. -/
def encode (text : String) : List UInt8 :=
  text.toUTF8.data.toList

end PromptBudget.Text
