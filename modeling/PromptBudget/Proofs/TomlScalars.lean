import PromptBudget.Proofs.TomlStrings

/-!
# PromptBudget — TOML scalars read back

A value is written on the rest of a line. Numbers are read up to the first character that is none of
theirs, so what reads as a number at the end of a text reads as that number at the end of a line,
too. A whole number is never taken for a date, a time or a fraction.

Main results:

* `floatText_finite` — a floating-point number is written as a fraction, without an exponent.
* `readsAs_string`, `readsAs_boolean`, `readsAs_integer` — these values read as they are.
* `readsAs_float` — a floating-point number reads as what its text alone reads as.
-/

namespace PromptBudget.Toml

open Scan

-- ---------------------------------------------------------------------------
-- Digits
-- ---------------------------------------------------------------------------

/-- A text that does not go on with digits. -/
def EndsDigits (text : List Char) : Prop :=
  ∀ c, text.head? = some c → c.isDigit = false ∧ c ≠ '_'

theorem endsDigits_nil : EndsDigits [] := fun _ h => nomatch h

theorem endsDigits_cons {c : Char} {rest : List Char} (hc : c.isDigit = false)
    (hunderscore : c ≠ '_') : EndsDigits (c :: rest) := by
  intro d hd
  obtain rfl := Option.some.inj hd
  exact ⟨hc, hunderscore⟩

section Digits

variable {ds rest : List Char}

theorem moreDigits_append (hds : ∀ c ∈ ds, c.isDigit = true) (hrest : EndsDigits rest) :
    moreDigits Char.isDigit (ds ++ rest) = (ds, rest) := by
  induction ds with
  | nil =>
    rw [List.nil_append]
    match rest with
    | [] => rfl
    | [c] => rw [moreDigits, if_neg (by simp [(hrest c rfl).1])]
    | c :: d :: rest =>
      obtain ⟨hc, hunderscore⟩ := hrest c rfl
      rw [moreDigits, if_neg (by simp [hc])]
      all_goals simp [hunderscore]
  | cons c ds ih =>
    obtain ⟨hc, hds⟩ := List.forall_mem_cons.1 hds
    have hunderscore : c ≠ '_' := by rintro rfl; exact absurd hc (by decide)
    rw [List.cons_append]
    cases hmore : ds ++ rest with
    | nil =>
      obtain ⟨rfl, rfl⟩ := List.append_eq_nil_iff.1 hmore
      rw [moreDigits, if_pos hc]
    | cons d more =>
      rw [moreDigits, if_pos hc, ← hmore, ih hds]
      all_goals simp [hunderscore]

theorem digits_append (hne : ds ≠ []) (hds : ∀ c ∈ ds, c.isDigit = true) (hrest : EndsDigits rest) :
    digits Char.isDigit (ds ++ rest) = some (ds, rest) := by
  obtain ⟨c, ds, rfl⟩ := List.exists_cons_of_ne_nil hne
  obtain ⟨hc, hds⟩ := List.forall_mem_cons.1 hds
  rw [List.cons_append, digits, if_pos hc, moreDigits_append hds hrest]

/-- The digits of a natural number, without zeros in front. -/
structure IsWhole (ds : List Char) : Prop where
  isDigit : ∀ c ∈ ds, c.isDigit = true
  leading : ds = ['0'] ∨ ∃ c rest, ds = c :: rest ∧ c ≠ '0'

theorem isWhole_zero : IsWhole ['0'] := ⟨List.forall_mem_singleton.2 rfl, .inl rfl⟩

theorem IsWhole.exists_cons (h : IsWhole ds) : ∃ c rest, ds = c :: rest ∧ c.isDigit = true := by
  rcases h.leading with rfl | ⟨c, rest, rfl, _⟩
  · exact ⟨_, _, rfl, rfl⟩
  · exact ⟨_, _, rfl, h.isDigit c List.mem_cons_self⟩

theorem wholeDigits_append (hwhole : IsWhole ds) (hrest : EndsDigits rest) :
    wholeDigits (ds ++ rest) = some (ds, rest) := by
  rcases hwhole.leading with rfl | ⟨c, more, rfl, hzero⟩
  · rfl
  · rw [List.cons_append, wholeDigits, ← List.cons_append]
    · exact digits_append (List.cons_ne_nil c more) hwhole.isDigit hrest
    · exact fun _ h => hzero (List.cons.inj h).1

theorem sign_append (hwhole : IsWhole ds) : sign (ds ++ rest) = (false, ds ++ rest) := by
  obtain ⟨c, more, rfl, hc⟩ := hwhole.exists_cons
  rw [List.cons_append, sign]
  · rintro _ ⟨⟩; exact absurd hc (by decide)
  · rintro _ ⟨⟩; exact absurd hc (by decide)

theorem head_toDigits {n : Nat} (hn : 0 < n) :
    ∃ c rest, Nat.toDigits 10 n = c :: rest ∧ c ≠ '0' := by
  induction n using Nat.strongRecOn with
  | _ n ih =>
    by_cases hsmall : n < 10
    · refine ⟨n.digitChar, [], Nat.toDigits_of_lt_base hsmall, ?_⟩
      have hdigit : ∀ m : Fin 10, 0 < m.val → Nat.digitChar m ≠ '0' := by decide
      exact hdigit ⟨n, hsmall⟩ hn
    · obtain ⟨c, rest, hdigits, hc⟩ := ih (n / 10) (by omega) (by omega)
      rw [Nat.toDigits_of_base_le (by decide) (by omega), hdigits]
      exact ⟨c, _, rfl, hc⟩

theorem isWhole_toDigits (n : Nat) : IsWhole (Nat.toDigits 10 n) where
  isDigit := fun _ => Nat.isDigit_of_mem_toDigits (by decide) (by decide)
  leading := by
    rcases Nat.eq_zero_or_pos n with rfl | hn
    · exact .inl rfl
    · exact .inr (head_toDigits hn)

theorem hexValue?_digit {c : Char} (hc : c.isDigit = true) : hexValue? c = some (c.toNat - 48) := by
  have hrange : (decide ('0' ≤ c) && decide (c ≤ '9')) = true := by
    simpa [Char.isDigit, Char.le_def] using hc
  rw [hexValue?, if_pos hrange]

theorem foldl_numberOf (hds : ∀ c ∈ ds, c.isDigit = true) (n : Nat) :
    ds.foldl (fun n c => n * 10 + (hexValue? c).getD 0) n = Nat.ofDigitChars 10 ds n := by
  induction ds generalizing n with
  | nil => rfl
  | cons c ds ih =>
    obtain ⟨hc, hds⟩ := List.forall_mem_cons.1 hds
    rw [List.foldl_cons, Nat.ofDigitChars_cons, ih hds, hexValue?_digit hc, Nat.mul_comm]
    rfl

theorem numberOf_toDigits (n : Nat) : numberOf 10 (Nat.toDigits 10 n) = n := by
  rw [numberOf, foldl_numberOf (isWhole_toDigits n).isDigit,
    Nat.ofDigitChars_toDigits (by decide) (by decide)]

end Digits

-- ---------------------------------------------------------------------------
-- Numbers
-- ---------------------------------------------------------------------------

/-- A text in which no date and no time goes on. -/
def EndsMoment (text : List Char) : Prop :=
  ∃ c rest, text = c :: rest ∧ c.isDigit = false ∧ c ≠ '-' ∧ c ≠ ':'

section Numbers

variable {ds rest left : List Char}

/-- Digits are taken off digits only, so digits are left, perhaps none. -/
theorem left_of_fixedDigits (hds : ∀ c ∈ ds, c.isDigit = true) (hrest : EndsMoment rest)
    {count n m : Nat} (h : fixedDigits count n (ds ++ rest) = some (m, left)) :
    ∃ more, left = more ++ rest ∧ ∀ c ∈ more, c.isDigit = true := by
  induction count generalizing n ds with
  | zero =>
    obtain ⟨_, rfl⟩ := Option.some.inj h
    exact ⟨ds, rfl, hds⟩
  | succ count ih =>
    cases ds with
    | nil =>
      obtain ⟨c, rest, rfl, hc, _⟩ := hrest
      rw [List.nil_append, fixedDigits, if_neg (by simp [hc])] at h
      exact nomatch h
    | cons c ds =>
      obtain ⟨hc, hds⟩ := List.forall_mem_cons.1 hds
      rw [List.cons_append, fixedDigits, if_pos hc] at h
      exact ih hds h

theorem expect_eq_none {c : Char} (hds : ∀ d ∈ ds, d.isDigit = true) (hc : c.isDigit = false)
    (hrest : rest.head? ≠ some c) : expect c (ds ++ rest) = none := by
  have hhead : (ds ++ rest).head? ≠ some c := by
    cases ds with
    | nil => exact hrest
    | cons d ds =>
      intro h
      obtain rfl := Option.some.inj h
      exact absurd (hds d List.mem_cons_self) (by simp [hc])
  cases hmore : ds ++ rest with
  | nil => rfl
  | cons d more =>
    rw [hmore] at hhead
    rw [expect, if_neg fun h => hhead (congrArg some (beq_iff_eq.1 h))]

/-- After digits that are taken off digits, no date and no time goes on. -/
theorem expect_of_fixedDigits (hds : ∀ c ∈ ds, c.isDigit = true) (hrest : EndsMoment rest)
    {count n m : Nat} (h : fixedDigits count n (ds ++ rest) = some (m, left)) {c : Char}
    (hc : c = '-' ∨ c = ':') : expect c left = none := by
  obtain ⟨more, rfl, hmore⟩ := left_of_fixedDigits hds hrest h
  obtain ⟨d, rest, rfl, _, hdash, hcolon⟩ := hrest
  have hdigit : c.isDigit = false := by rcases hc with rfl | rfl <;> rfl
  refine expect_eq_none hmore hdigit fun hhead => ?_
  obtain rfl := Option.some.inj hhead
  exact hc.elim hdash hcolon

theorem skipDate_eq_none (hds : ∀ c ∈ ds, c.isDigit = true) (hrest : EndsMoment rest) :
    skipDate (ds ++ rest) = none := by
  rw [skipDate]
  cases hyear : fixedDigits 4 0 (ds ++ rest) with
  | none => rfl
  | some found =>
    obtain ⟨_, left⟩ := found
    have hexpect := expect_of_fixedDigits hds hrest hyear (.inl rfl)
    simp only [Option.bind_eq_bind, Option.bind_some, hexpect, Option.bind_none]

theorem skipTime_eq_none (hds : ∀ c ∈ ds, c.isDigit = true) (hrest : EndsMoment rest) :
    skipTime (ds ++ rest) = none := by
  rw [skipTime, twoDigits]
  cases hhour : fixedDigits 2 0 (ds ++ rest) with
  | none => rfl
  | some found =>
    obtain ⟨_, left⟩ := found
    have hexpect := expect_of_fixedDigits hds hrest hhour (.inr rfl)
    simp only [Option.bind_eq_bind, Option.bind_some]
    split
    · simp only [Option.bind_some, hexpect, Option.bind_none]
    · rfl

/-- Digits are no date and no time if none goes on after them. -/
theorem moment_eq_none (hds : ∀ c ∈ ds, c.isDigit = true) (hrest : EndsMoment rest) :
    Scan.moment (ds ++ rest) = none := by
  rw [Scan.moment, skipDate_eq_none hds hrest, skipTime_eq_none hds hrest]
  rfl

/-- There is no fraction and no exponent in front of the end of the line. -/
theorem exponent_eq_none (hrest : rest = [] ∨ ∃ more, rest = '\n' :: more) :
    exponent rest = none := by
  rcases hrest with rfl | ⟨more, rfl⟩ <;> rfl

theorem word_eq_none {c : Char} (w : List Char) (hwhole : IsWhole ds) (hc : c.isDigit = false) :
    word (c :: w) (ds ++ rest) = none := by
  obtain ⟨d, more, rfl, hd⟩ := hwhole.exists_cons
  have hne : (c == d) = false := by
    rw [beq_eq_false_iff_ne]
    rintro rfl
    exact absurd hd (by simp [hc])
  rw [word, List.cons_append, List.isPrefixOf_cons_cons, hne, Bool.false_and,
    if_neg Bool.false_ne_true]

/-- A number with digits after its sign is neither infinite nor undefined. -/
theorem specialFloat_eq_none {text : List Char} {negative : Bool}
    (hsign : sign text = (negative, ds ++ rest)) (hwhole : IsWhole ds) :
    specialFloat text = none := by
  rw [specialFloat, hsign]
  simp only [word_eq_none _ hwhole (show 'i'.isDigit = false by decide),
    word_eq_none _ hwhole (show 'n'.isDigit = false by decide), Option.map_none]

theorem decimalInteger_of_sign {text : List Char} (hsign : sign text = (false, rest)) :
    decimalInteger text = (wholeDigits rest).bind fun (whole, left) =>
      let n : Int := numberOf 10 whole
      if -(twoPow 63) ≤ n && n < twoPow 63 then some (.integer n, left) else none := by
  rw [decimalInteger, hsign]
  rfl

theorem decimalInteger_eq {text : List Char} (hsign : sign text = (false, rest))
    (hwhole : wholeDigits rest = some (ds, left)) (hbound : numberOf 10 ds < twoPow 63) :
    decimalInteger text = some (Toml.integer (numberOf 10 ds), left) := by
  have hrange : (decide (-(twoPow 63 : Int) ≤ (numberOf 10 ds : Int)) &&
      decide ((numberOf 10 ds : Int) < twoPow 63)) = true := by
    generalize twoPow 63 = bound at hbound ⊢
    simp only [Bool.and_eq_true, decide_eq_true_eq]
    omega
  rw [decimalInteger_of_sign hsign, hwhole, Option.bind_some]
  exact if_pos hrange

theorem decimalInteger_nat {n : Nat} (hn : n < twoPow 63) (hrest : EndsDigits rest) :
    decimalInteger (Nat.toDigits 10 n ++ rest) = some (Toml.integer n, rest) := by
  have hwhole := isWhole_toDigits n
  have hnumber := numberOf_toDigits n
  rw [decimalInteger_eq (sign_append hwhole) (wholeDigits_append hwhole hrest) (by rwa [hnumber]),
    hnumber]

theorem integer_nat {n : Nat} (hn : n < twoPow 63) (rest : List Char) :
    Scan.integer (Nat.toDigits 10 n ++ '\n' :: rest) = some (Toml.integer n, '\n' :: rest) := by
  have hends : EndsDigits ('\n' :: rest) := endsDigits_cons (by decide) (by decide)
  rw [← decimalInteger_nat hn hends]
  rcases (isWhole_toDigits n).leading with hzero | ⟨c, more, hdigits, hc⟩
  · rw [hzero]
    rfl
  · rw [hdigits, List.cons_append, Scan.integer]
    exact fun _ _ h => hc (List.cons.inj h).1

theorem numeric_nat {n : Nat} (hn : n < twoPow 63) (rest : List Char) :
    numeric (Nat.toDigits 10 n ++ '\n' :: rest) = some (Toml.integer n, '\n' :: rest) := by
  have hwhole := isWhole_toDigits n
  have hends : EndsDigits ('\n' :: rest) := endsDigits_cons (by decide) (by decide)
  have hmoment : Scan.moment (Nat.toDigits 10 n ++ '\n' :: rest) = none :=
    moment_eq_none hwhole.isDigit ⟨_, _, rfl, by decide, by decide, by decide⟩
  have hfloat : decimalFloat (Nat.toDigits 10 n ++ '\n' :: rest) = none := by
    rw [decimalFloat, sign_append hwhole]
    simp only [wholeDigits_append hwhole hends]
    rfl
  rw [numeric, hmoment, hfloat, specialFloat_eq_none (sign_append hwhole) hwhole, integer_nat hn]
  rfl

/-- A fraction: its digits in front of the point and after it. -/
structure IsFraction (whole fraction : List Char) : Prop where
  isWhole : IsWhole whole
  nonempty : fraction ≠ []
  isDigit : ∀ c ∈ fraction, c.isDigit = true

/-- The number that a fraction with a sign writes. -/
def fractionValue (negative : Bool) (whole fraction : List Char) : Floating :=
  Floating.ofDecimal Floating.double negative (numberOf 10 (whole ++ fraction))
    (0 - fraction.length)

theorem fractionAndExponent_append {fraction : List Char} (hne : fraction ≠ [])
    (hdigits : ∀ c ∈ fraction, c.isDigit = true) (hrest : rest = [] ∨ ∃ more, rest = '\n' :: more) :
    fractionAndExponent ('.' :: fraction ++ rest) = some ((fraction, 0), rest) := by
  have hends : EndsDigits rest := by
    rcases hrest with rfl | ⟨more, rfl⟩
    · exact endsDigits_nil
    · exact endsDigits_cons (by decide) (by decide)
  rw [List.cons_append, fractionAndExponent]
  simp only [digits_append hne hdigits hends, exponent_eq_none hrest, Option.bind_eq_bind,
    Option.bind_some]

theorem decimalFloat_append {whole fraction : List Char} (h : IsFraction whole fraction)
    (negative : Bool) (hrest : rest = [] ∨ ∃ more, rest = '\n' :: more) :
    decimalFloat ((if negative then ['-'] else []) ++ whole ++ '.' :: fraction ++ rest) =
      if fractionValue negative whole fraction = .infinite false then none
      else some (Toml.float (fractionValue negative whole fraction), rest) := by
  have hsign : sign ((if negative then ['-'] else []) ++ whole ++ '.' :: fraction ++ rest) =
      (negative, whole ++ ('.' :: fraction ++ rest)) := by
    cases negative
    · simp only [Bool.false_eq_true, if_false, List.nil_append, List.append_assoc]
      exact sign_append h.isWhole
    · simp [sign]
  have hends : EndsDigits ('.' :: fraction ++ rest) := endsDigits_cons (by decide) (by decide)
  rw [decimalFloat, hsign]
  simp only [wholeDigits_append h.isWhole hends,
    fractionAndExponent_append h.nonempty h.isDigit hrest, Option.bind_eq_bind, Option.bind_some]
  rfl

end Numbers

-- ---------------------------------------------------------------------------
-- Numbers with a fraction, as they are written
-- ---------------------------------------------------------------------------

/-- Digits without a zero in front, with a point between them, in front of them or after them. -/
theorem withPoint_eq {c : Char} {rest : List Char} (hc : c ≠ '0')
    (hdigits : ∀ d ∈ c :: rest, d.isDigit = true) (places : Int) :
    ∃ whole fraction, IsFraction whole fraction ∧
      Decimal.withPoint (c :: rest) places = whole ++ '.' :: fraction := by
  have hzeros : ∀ n, ∀ d ∈ List.replicate n '0', d.isDigit = true := by
    intro n d hd
    rw [List.eq_of_mem_replicate hd]
    rfl
  rw [Decimal.withPoint]
  split
  next =>
    refine ⟨['0'], List.replicate (-places).toNat '0' ++ c :: rest,
      ⟨isWhole_zero, ?_, ?_⟩, ?_⟩
    · simp
    · exact List.forall_mem_append.2 ⟨hzeros _, hdigits⟩
    · rfl
  next hpositive =>
    split
    next =>
      refine ⟨_, ['0'], ⟨⟨?_, ?_⟩, List.cons_ne_nil _ _, isWhole_zero.isDigit⟩, rfl⟩
      · exact List.forall_mem_append.2 ⟨hdigits, hzeros _⟩
      · exact .inr ⟨c, _, List.cons_append, hc⟩
    next hlong =>
      obtain ⟨n, hn⟩ : ∃ n, places.toNat = n + 1 := ⟨places.toNat - 1, by omega⟩
      refine ⟨(c :: rest).take places.toNat, (c :: rest).drop places.toNat, ⟨⟨?_, ?_⟩, ?_, ?_⟩,
        List.append_assoc _ _ _⟩
      · exact fun d hd => hdigits d (List.mem_of_mem_take hd)
      · rw [hn, List.take_succ_cons]
        exact .inr ⟨c, _, rfl, hc⟩
      · exact fun hnil => hlong (List.drop_eq_nil_iff.1 hnil)
      · exact fun d hd => hdigits d (List.mem_of_mem_drop hd)

/-- A number of the format is written as a fraction. -/
theorem floatText_finite (negative : Bool) (significand : Nat) (exponent : Int) :
    ∃ whole fraction, IsFraction whole fraction ∧
      (floatText (.finite negative significand exponent)).toList =
        (if negative then ['-'] else []) ++ whole ++ '.' :: fraction := by
  obtain ⟨d, hd⟩ : ∃ d, d = Decimal.shortest Floating.double significand exponent := ⟨_, rfl⟩
  obtain ⟨whole, fraction, h, hbody⟩ : ∃ whole fraction, IsFraction whole fraction ∧
      (if d.coefficient = 0 then ['0', '.', '0']
        else Decimal.withPoint d.digits (d.digits.length + d.exponent)) =
          whole ++ '.' :: fraction := by
    split
    next => exact ⟨['0'], ['0'], ⟨isWhole_zero, List.cons_ne_nil _ _, isWhole_zero.isDigit⟩, rfl⟩
    next hne =>
      obtain ⟨c, rest, hdigits, hc⟩ := head_toDigits (Nat.pos_of_ne_zero hne)
      have hall := (isWhole_toDigits d.coefficient).isDigit
      rw [Decimal.digits, hdigits] at *
      exact withPoint_eq hc hall _
  refine ⟨whole, fraction, h, ?_⟩
  have hwritten : (floatText (.finite negative significand exponent)).toList =
      if negative then '-' :: (whole ++ '.' :: fraction) else whole ++ '.' :: fraction := by
    rw [← hbody, hd]
    exact String.toList_ofList
  rw [hwritten]
  cases negative <;> simp

-- ---------------------------------------------------------------------------
-- Values at the end of a line
-- ---------------------------------------------------------------------------

/-- A value whose text reads, up to the end of its line, as a value. -/
def ReadsAs (value found : Toml) : Prop :=
  ∀ rest, scalar ((scalarText value).toList ++ '\n' :: rest) = some (found, '\n' :: rest)

theorem readsAs_string (text : String) : ReadsAs (.string text) (.string text) := by
  intro rest
  obtain ⟨c, more, hwritten, hquote⟩ : ∃ c more, (Toml.quoted text).toList = c :: more ∧
      (c == '"' || c == '\'') = true := by
    rw [Toml.quoted, String.toList_ofList]
    cases form text.toList <;> exact ⟨_, _, rfl, rfl⟩
  have hread := quoted_quoted text rest
  rw [scalarText, hwritten, List.cons_append, scalar, if_pos hquote, ← List.cons_append, ← hwritten,
    hread, Option.map_some]
  simp only [String.ofList_toList]

theorem readsAs_boolean (b : Bool) : ReadsAs (.boolean b) (.boolean b) := by
  intro rest
  cases b <;> rfl

/-- What starts with a digit or a minus is read as a number. -/
theorem scalar_eq_numeric {c : Char} (hc : c.isDigit = true ∨ c = '-') (rest : List Char) :
    scalar (c :: rest) = numeric (c :: rest) := by
  have hlist : ∀ d ∈ ['"', '\'', 't', 'f'], d.isDigit = false ∧ d ≠ '-' := by simp
  have hne : ∀ d ∈ ['"', '\'', 't', 'f'], (c == d) = false := by
    intro d hd
    rw [beq_eq_false_iff_ne]
    rintro rfl
    obtain ⟨hdigit, hminus⟩ := hlist c hd
    rcases hc with hc | hc
    · exact absurd hc (by simp [hdigit])
    · exact hminus hc
  simp only [List.forall_mem_cons] at hne
  obtain ⟨hdouble, hsingle, ht, hf, _⟩ := hne
  rw [scalar, hdouble, hsingle, ht, hf]
  rfl

theorem readsAs_integer {n : Nat} (hn : n < twoPow 63) : ReadsAs (.integer n) (.integer n) := by
  intro rest
  obtain ⟨c, more, hdigits, hc⟩ := (isWhole_toDigits n).exists_cons
  have hwritten : (scalarText (.integer n)).toList = Nat.toDigits 10 n := String.toList_ofList
  have hread := numeric_nat hn rest
  rw [hwritten, hdigits, List.cons_append, scalar_eq_numeric (.inl hc), ← List.cons_append,
    ← hdigits, hread]

theorem exists_of_decimalInteger {text left : List Char} {value : Toml}
    (h : decimalInteger text = some (value, left)) : ∃ n, value = .integer n := by
  obtain ⟨⟨negative, start⟩, hsign⟩ : ∃ p, sign text = p := ⟨_, rfl⟩
  rw [decimalInteger, hsign] at h
  obtain ⟨⟨whole, more⟩, _, h⟩ := Option.bind_eq_some_iff.1 h
  obtain ⟨_, h⟩ := Option.ite_none_right_eq_some.1 h
  exact ⟨_, (Prod.mk.inj (Option.some.inj h)).1.symm⟩

theorem exists_of_integer {text left : List Char} {value : Toml}
    (h : Scan.integer text = some (value, left)) : ∃ n, value = .integer n := by
  rw [Scan.integer.eq_def] at h
  split at h
  · split at h
    · exact exists_of_decimalInteger h
    · obtain ⟨⟨whole, more⟩, _, h⟩ := Option.bind_eq_some_iff.1 h
      obtain ⟨_, h⟩ := Option.ite_none_right_eq_some.1 h
      exact ⟨_, (Prod.mk.inj (Option.some.inj h)).1.symm⟩
  · exact exists_of_decimalInteger h

section Fractions

variable {whole fraction rest : List Char}

/-- A fraction is neither a date nor a time, and no special number. -/
theorem scalar_fraction (h : IsFraction whole fraction) (negative : Bool) (rest : List Char) :
    scalar ((if negative then ['-'] else []) ++ whole ++ '.' :: fraction ++ rest) =
      (decimalFloat ((if negative then ['-'] else []) ++ whole ++ '.' :: fraction ++ rest) <|>
        Scan.integer ((if negative then ['-'] else []) ++ whole ++ '.' :: fraction ++ rest)) := by
  obtain ⟨c, more, hwhole, hc⟩ := h.isWhole.exists_cons
  cases negative with
  | false =>
    simp only [Bool.false_eq_true, if_false, List.nil_append, List.append_assoc]
    have hmoment : Scan.moment (whole ++ ('.' :: fraction ++ rest)) = none :=
      moment_eq_none h.isWhole.isDigit ⟨_, _, rfl, by decide, by decide, by decide⟩
    have hnumeric : scalar (whole ++ ('.' :: fraction ++ rest)) =
        numeric (whole ++ ('.' :: fraction ++ rest)) := by
      rw [hwhole]
      exact scalar_eq_numeric (.inl hc) _
    rw [hnumeric, numeric, hmoment, specialFloat_eq_none (sign_append h.isWhole) h.isWhole]
    cases decimalFloat (whole ++ ('.' :: fraction ++ rest)) <;> rfl
  | true =>
    simp only [if_true, List.append_assoc, List.cons_append, List.nil_append]
    have hspecial : specialFloat ('-' :: (whole ++ '.' :: (fraction ++ rest))) = none :=
      specialFloat_eq_none rfl h.isWhole
    have hmoment : Scan.moment ('-' :: (whole ++ '.' :: (fraction ++ rest))) = none := rfl
    rw [scalar_eq_numeric (.inr rfl), numeric, hmoment, hspecial]
    cases decimalFloat ('-' :: (whole ++ '.' :: (fraction ++ rest))) <;> rfl

end Fractions

/-- The floating-point number that a text is. -/
def readFloat? (text : String) : Option Floating :=
  match scalar text.toList with
  | some (.float x, []) => some x
  | _ => none

theorem scalar_of_readFloat? {text : String} {x : Floating} (h : readFloat? text = some x) :
    scalar text.toList = some (.float x, []) := by
  rw [readFloat?] at h
  split at h
  next heq =>
    obtain rfl := Option.some.inj h
    exact heq
  next => exact nomatch h

/-- What a number with a fraction reads as does not depend on what the next lines are. -/
theorem readsAs_float {x y : Floating} (hread : readFloat? (floatText x) = some y) :
    ReadsAs (.float x) (.float y) := by
  intro rest
  have h := scalar_of_readFloat? hread
  cases x with
  | infinite negative =>
    have hvalue : scalar (floatText (.infinite negative)).toList =
        some (.float (.infinite negative), []) := by
      cases negative <;> rfl
    obtain ⟨⟨⟩⟩ := hvalue.symm.trans h
    cases negative <;> rfl
  | undefined =>
    have hvalue : scalar (floatText .undefined).toList = some (.float .undefined, []) := rfl
    obtain ⟨⟨⟩⟩ := hvalue.symm.trans h
    rfl
  | finite negative significand exponent =>
    obtain ⟨whole, fraction, hfraction, hwritten⟩ := floatText_finite negative significand exponent
    have hhere := scalar_fraction hfraction negative []
    rw [decimalFloat_append hfraction negative (.inl rfl), List.append_nil, ← hwritten, h] at hhere
    rw [scalarText, hwritten, scalar_fraction hfraction,
      decimalFloat_append hfraction negative (.inr ⟨rest, rfl⟩)]
    split at hhere
    next =>
      obtain ⟨n, hn⟩ := exists_of_integer hhere.symm
      exact nomatch hn
    next hfinite =>
      rw [if_neg hfinite]
      obtain ⟨⟨⟩⟩ := hhere
      rfl

end PromptBudget.Toml
