import Mathlib.Data.List.Infix
import PromptBudget.Toml.Printer
import PromptBudget.Toml.Scalar

/-!
# PromptBudget — TOML strings read back

A string is written in one of four forms. Whatever the text is, the reader takes the form that was
chosen for what it is, and finds the text in it.

Main results:

* `quoted_quoted` — every text reads back, up to the end of its line.
-/

namespace PromptBudget.Toml

open Scan

-- a reader opens at the character in front of it
attribute [local simp] basicString longString literalString longLiteral Scan.quoted

-- ---------------------------------------------------------------------------
-- Runs of quotes
-- ---------------------------------------------------------------------------

/-- What `longestRun` does at a character: the run that it ends, and the longest one so far. -/
def runStep (c : Char) (state : Nat × Nat) (d : Char) : Nat × Nat :=
  if d == c then (state.1 + 1, max state.2 (state.1 + 1)) else (0, state.2)

theorem longestRun_eq (c : Char) (text : List Char) :
    longestRun c text = (text.foldl (runStep c) (0, 0)).2 := rfl

theorem le_foldl_runStep (c : Char) (text : List Char) (state : Nat × Nat) :
    state.2 ≤ (text.foldl (runStep c) state).2 := by
  induction text generalizing state with
  | nil => exact le_refl _
  | cons d rest ih =>
    refine le_trans ?_ (ih (runStep c state d))
    rw [runStep]
    split
    · exact le_max_left _ _
    · exact le_refl _

/-- So many of the characters in a row make a run of that length. -/
theorem le_foldl_replicate (c : Char) (n : Nat) (state : Nat × Nat) (hstate : state.1 ≤ state.2) :
    state.1 + n ≤ ((List.replicate n c).foldl (runStep c) state).2 := by
  induction n generalizing state with
  | zero => exact hstate
  | succ n ih =>
    have hstep : runStep c state c = (state.1 + 1, max state.2 (state.1 + 1)) := by
      rw [runStep, if_pos (beq_self_eq_true c)]
    rw [List.replicate_succ, List.foldl_cons, hstep]
    have hrun := ih (state.1 + 1, max state.2 (state.1 + 1)) (le_max_right _ _)
    omega

theorem runStep_le (c d : Char) (state : Nat × Nat) :
    (runStep c state d).1 ≤ (runStep c state d).2 := by
  rw [runStep]
  split
  · exact le_max_right _ _
  · exact Nat.zero_le _

theorem foldl_runStep_le {c : Char} (text : List Char) {state : Nat × Nat} (h : state.1 ≤ state.2) :
    (text.foldl (runStep c) state).1 ≤ (text.foldl (runStep c) state).2 := by
  induction text generalizing state with
  | nil => exact h
  | cons d rest ih => exact ih (runStep_le c d state)

/-- No run is longer than the longest one. -/
theorem le_longestRun {c : Char} {n : Nat} {text : List Char} (h : List.replicate n c <:+: text) :
    n ≤ longestRun c text := by
  obtain ⟨before, after, rfl⟩ := h
  rw [longestRun_eq, List.foldl_append, List.foldl_append]
  refine le_trans ?_ (le_foldl_runStep c after _)
  have hrun := le_foldl_replicate c n (before.foldl (runStep c) (0, 0))
    (foldl_runStep_le before (le_refl 0))
  omega

theorem not_mem_of_longestRun {c : Char} {text : List Char} (h : longestRun c text = 0) :
    c ∉ text := by
  intro hmem
  have hone : List.replicate 1 c <:+: text := List.singleton_infix_iff _ _ |>.2 hmem
  have hle := le_longestRun hone
  omega

theorem ne_of_not_prefix {c : Char} {text : List Char} (h : ¬[c, c] <+: text) (rest : List Char) :
    text ≠ c :: c :: rest := by
  rintro rfl
  exact h (List.prefix_append [c, c] rest)

-- ---------------------------------------------------------------------------
-- Characters
-- ---------------------------------------------------------------------------

/-- What needs no escape and does not end a line may stand in a string. -/
theorem isShown_of_not_needsEscape {c : Char} (hescape : needsEscape c = false) (hline : c ≠ '\n') :
    isShown c = true := by
  by_cases htab : c = '\t'
  · rw [htab]; rfl
  · have hcontrol : ¬(c.toNat < 0x20 ∨ c.toNat = 0x7F) := by
      simpa [needsEscape, htab, hline] using hescape
    simp only [isShown, Bool.or_eq_true, Bool.and_eq_true, decide_eq_true_eq, bne_iff_ne]
    omega

theorem ne_return_of_not_needsEscape {c : Char} (hescape : needsEscape c = false) : c ≠ '\r' := by
  rintro rfl
  exact absurd hescape (by decide)

/-- The code point of a character below 128 reads as that character. -/
theorem codePoint_below : ∀ n : Fin 128,
    (codePoint (Char.ofNat n)).take 2 = ['\\', 'u'] ∧ (codePoint (Char.ofNat n)).length = 6 ∧
      charOfHex? ((codePoint (Char.ofNat n)).drop 2) = some (Char.ofNat n) := by
  decide +kernel

theorem codePoint_eq {c : Char} (h : needsEscape c = true) :
    ∃ x y z w, codePoint c = ['\\', 'u', x, y, z, w] ∧ charOfHex? [x, y, z, w] = some c := by
  have hbelow : c.toNat < 128 := by
    simp only [needsEscape, Bool.and_eq_true, Bool.or_eq_true, decide_eq_true_eq, beq_iff_eq] at h
    omega
  obtain ⟨hfront, hlength, hread⟩ := codePoint_below ⟨c.toNat, hbelow⟩
  simp only [Char.ofNat_toNat] at hfront hlength hread
  rw [← List.take_append_drop 2 (codePoint c), hfront]
  have hdigits : ((codePoint c).drop 2).length = 4 := by rw [List.length_drop, hlength]
  obtain ⟨x, y, z, w, hdrop⟩ := List.length_eq_four.1 hdigits
  rw [hdrop] at hread ⊢
  exact ⟨x, y, z, w, rfl, hread⟩

/-- How a character other than a quote is written between double quotes: by a letter after a
backslash, by its code point, as the end of a line, or as it is. -/
theorem escapeChar_cases (isLong : Bool) {c : Char} :
    (∃ letter, escapeChar isLong c = ['\\', letter] ∧ shortEscape? letter = some c) ∨
    (∃ x y z w, escapeChar isLong c = ['\\', 'u', x, y, z, w] ∧ charOfHex? [x, y, z, w] = some c) ∨
    (escapeChar isLong c = ['\n'] ∧ c = '\n' ∧ isLong = true) ∨
    (escapeChar isLong c = [c] ∧ isShown c = true ∧ c ≠ '\\') := by
  rw [escapeChar.eq_def]
  split
  case h_3 =>
    cases isLong
    · exact .inl ⟨'n', rfl, rfl⟩
    · exact .inr (.inr (.inl ⟨rfl, rfl, rfl⟩))
  case h_7 c _ _ hline _ _ hslash =>
    split
    case isTrue h =>
      exact .inr (.inl (codePoint_eq h))
    case isFalse h =>
      have hshown := isShown_of_not_needsEscape (Bool.eq_false_iff.2 h) hline
      exact .inr (.inr (.inr ⟨rfl, hshown, hslash⟩))
  all_goals exact .inl ⟨_, rfl, rfl⟩

-- ---------------------------------------------------------------------------
-- Between double quotes
-- ---------------------------------------------------------------------------

section DoubleQuotes

variable {c letter : Char} {more : List Char}

theorem basicString_letter (h : shortEscape? letter = some c) :
    basicString ('\\' :: letter :: more) = push c (basicString more) := by
  have hu : letter ≠ 'u' := by rintro rfl; exact nomatch h
  have hU : letter ≠ 'U' := by rintro rfl; exact nomatch h
  rw [basicString, h]
  · rfl
  · exact fun _ _ _ _ _ h => absurd h hu
  · exact fun _ _ _ _ _ _ _ _ _ h => absurd h hU

theorem basicString_codePoint {x y z w : Char} (h : charOfHex? [x, y, z, w] = some c) :
    basicString ('\\' :: 'u' :: x :: y :: z :: w :: more) = push c (basicString more) := by
  rw [basicString, h]
  rfl

theorem basicString_plain (hshown : isShown c = true) (hslash : c ≠ '\\') (hquote : c ≠ '"') :
    basicString (c :: more) = push c (basicString more) := by
  rw [basicString, if_pos (by simp [hshown, hslash])]
  all_goals simp_all

theorem basicString_escapeChar (hquote : c ≠ '"') :
    basicString (escapeChar false c ++ more) = push c (basicString more) := by
  rcases escapeChar_cases false (c := c) with
    ⟨letter, hwritten, hread⟩ | ⟨x, y, z, w, hwritten, hread⟩ | ⟨_, _, hlong⟩ |
    ⟨hwritten, hshown, hslash⟩
  · rw [hwritten]
    exact basicString_letter hread
  · rw [hwritten]
    exact basicString_codePoint hread
  · exact absurd hlong (by decide)
  · rw [hwritten]
    exact basicString_plain hshown hslash hquote

theorem basicString_escape (quotes : Nat) (text rest : List Char) :
    basicString (escape false 0 quotes text ++ '"' :: rest) = some (text, rest) := by
  induction text generalizing quotes with
  | nil => rw [escape, List.nil_append, basicString]
  | cons c text ih =>
    rw [escape]
    by_cases hquote : c = '"'
    · subst hquote
      rw [if_pos (beq_self_eq_true _), if_neg (Nat.not_lt_zero _), List.append_assoc,
        List.cons_append, List.cons_append, List.nil_append, basicString_letter rfl, ih]
      rfl
    · rw [if_neg (by simp [hquote]), List.append_assoc, basicString_escapeChar hquote, ih]
      rfl

theorem startsWithLineEnd_letter (h : shortEscape? letter = some c) :
    startsWithLineEnd (letter :: more) = false := by
  rw [shortEscape?.eq_def] at h
  split at h
  case h_8 => exact nomatch h
  all_goals rfl

theorem longString_letter (h : shortEscape? letter = some c) :
    longString false ('\\' :: letter :: more) = push c (longString false more) := by
  have hu : letter ≠ 'u' := by rintro rfl; exact nomatch h
  have hU : letter ≠ 'U' := by rintro rfl; exact nomatch h
  cases more <;> simp [startsWithLineEnd_letter h, h, hu, hU]

theorem longString_codePoint {x y z w : Char} (h : charOfHex? [x, y, z, w] = some c) :
    longString false ('\\' :: 'u' :: x :: y :: z :: w :: more) =
      push c (longString false more) := by
  rw [longString, h]
  rfl

theorem longString_plain (hshown : isShown c = true) (hslash : c ≠ '\\') (hquote : c ≠ '"') :
    longString false (c :: more) = push c (longString false more) := by
  have hline : c ≠ '\n' := by rintro rfl; exact nomatch hshown
  have hreturn : c ≠ '\r' := by rintro rfl; exact nomatch hshown
  rw [longString]
  · simp [hshown, hslash]
  all_goals simp_all

theorem longString_escapeChar (hquote : c ≠ '"') :
    longString false (escapeChar true c ++ more) = push c (longString false more) := by
  rcases escapeChar_cases true (c := c) with
    ⟨letter, hwritten, hread⟩ | ⟨x, y, z, w, hwritten, hread⟩ | ⟨hwritten, rfl, _⟩ |
    ⟨hwritten, hshown, hslash⟩
  · rw [hwritten]
    exact longString_letter hread
  · rw [hwritten]
    exact longString_codePoint hread
  · rw [hwritten, List.cons_append, List.nil_append, longString, if_neg Bool.false_ne_true]
  · rw [hwritten]
    exact longString_plain hshown hslash hquote

/-- A quote that does not start three of them belongs to the string. -/
theorem longString_quote (h : ¬['"', '"'] <+: more) :
    longString false ('"' :: more) = push '"' (longString false more) := by
  have hquotes := ne_of_not_prefix h
  rw [longString]
  · rfl
  all_goals simp_all

/-- What is written for another character does not start with a quote. -/
theorem head?_escapeChar (isLong : Bool) (hquote : c ≠ '"') :
    (escapeChar isLong c ++ more).head? ≠ some '"' := by
  rcases escapeChar_cases isLong (c := c) with
    ⟨letter, hwritten, _⟩ | ⟨x, y, z, w, hwritten, _⟩ | ⟨hwritten, _⟩ | ⟨hwritten, _⟩
  · rw [hwritten]; simp
  · rw [hwritten]; simp
  · rw [hwritten]; simp
  · rw [hwritten]; simp [hquote]

/-- Only a quote that needs no escape is written as a quote. -/
theorem quote_of_head?_escape {isLong : Bool} {plainQuotes quotes : Nat} {text : List Char}
    (h : (escape isLong plainQuotes quotes (c :: text) ++ more).head? = some '"') :
    c = '"' ∧ quotes < plainQuotes := by
  rw [escape] at h
  by_cases hquote : c = '"'
  · subst hquote
    rw [if_pos (beq_self_eq_true _)] at h
    refine ⟨rfl, ?_⟩
    by_contra hplain
    rw [if_neg hplain] at h
    simp at h
  · rw [if_neg (by simp [hquote]), List.append_assoc] at h
    exact absurd h (head?_escapeChar isLong hquote)

/-- What is written starts with a character that may stand in a string, or with an end of line. -/
theorem isShown_of_head?_escape {isLong : Bool} {plainQuotes quotes : Nat} {d : Char}
    {text : List Char}
    (h : (escape isLong plainQuotes quotes (c :: text) ++ more).head? = some d) :
    isShown d = true ∨ (d = '\n' ∧ c = '\n') := by
  rw [escape] at h
  by_cases hquote : c = '"'
  · subst hquote
    rw [if_pos (beq_self_eq_true _)] at h
    split at h <;> exact .inl (Option.some.inj h ▸ rfl)
  · rw [if_neg (by simp [hquote]), List.append_assoc] at h
    rcases escapeChar_cases isLong (c := c) with
      ⟨letter, hwritten, _⟩ | ⟨x, y, z, w, hwritten, _⟩ | ⟨hwritten, hline, _⟩ |
      ⟨hwritten, hshown, _⟩
    · rw [hwritten] at h
      exact .inl (Option.some.inj h ▸ rfl)
    · rw [hwritten] at h
      exact .inl (Option.some.inj h ▸ rfl)
    · rw [hwritten] at h
      exact .inr ⟨(Option.some.inj h).symm, hline⟩
    · rw [hwritten] at h
      exact .inl (Option.some.inj h ▸ hshown)

/-- After a quote that needs no escape, two more stand only at the end of the text. -/
theorem of_quotes_prefix {quotes : Nat} {text : List Char}
    (h : ['"', '"'] <+: escape true 2 (quotes + 1) text ++ more) :
    text = [] ∨ text = ['"'] ∧ quotes = 0 := by
  obtain ⟨left, h⟩ := h
  cases text with
  | nil => exact .inl rfl
  | cons c text =>
    obtain ⟨rfl, hquotes⟩ := quote_of_head?_escape (by rw [← h]; rfl)
    rw [escape, if_pos (beq_self_eq_true _), if_pos hquotes] at h
    cases text with
    | nil => exact .inr ⟨rfl, by omega⟩
    | cons d text =>
      have htail : '"' :: left = escape true 2 (quotes + 1 + 1) (d :: text) ++ more :=
        (List.cons.inj h).2
      have hnext := quote_of_head?_escape (by rw [← htail]; rfl)
      omega

theorem longString_escape (quotes : Nat) (text : List Char) {rest : List Char}
    (hrest : rest.head? ≠ some '"') :
    longString false (escape true 2 quotes text ++ '"' :: '"' :: '"' :: rest) =
      some (text, rest) := by
  have hnone : ∀ left, rest ≠ '"' :: left := by rintro left rfl; exact hrest rfl
  induction text generalizing quotes with
  | nil =>
    rw [escape, List.nil_append, longString]
    · exact fun left h => absurd h (by simp_all)
    · exact fun left h => absurd h (hnone left)
  | cons c text ih =>
    by_cases hquote : c = '"'
    · subst hquote
      rw [escape, if_pos (beq_self_eq_true _)]
      split
      case isFalse =>
        rw [List.append_assoc, List.cons_append, List.cons_append, List.nil_append,
          longString_letter rfl, ih]
        rfl
      case isTrue =>
        by_cases hmore : ['"', '"'] <+: escape true 2 (quotes + 1) text ++ '"' :: '"' :: '"' :: rest
        · -- the quote is one of those in front of the three at the end
          rcases of_quotes_prefix hmore with rfl | ⟨rfl, rfl⟩
          · rw [escape, List.cons_append, List.nil_append, longString]
            exact fun left h => absurd h (by simp_all)
          · rw [escape, if_pos (beq_self_eq_true _), if_pos (by decide), escape]
            rfl
        · rw [List.cons_append, longString_quote hmore, ih]
          rfl
    · rw [escape, if_neg (by simp [hquote]), List.append_assoc, longString_escapeChar hquote, ih]
      rfl

end DoubleQuotes

-- ---------------------------------------------------------------------------
-- Between single quotes
-- ---------------------------------------------------------------------------

section SingleQuotes

variable {c : Char} {more rest text : List Char}

theorem literalString_quote (htext : ∀ c ∈ text, isShown c = true) (hquote : '\'' ∉ text) :
    literalString (text ++ '\'' :: rest) = some (text, rest) := by
  induction text with
  | nil => rw [List.nil_append, literalString]
  | cons c text ih =>
    obtain ⟨hc, htext⟩ := List.forall_mem_cons.1 htext
    rw [List.cons_append, literalString, if_pos hc, ih htext (List.not_mem_of_not_mem_cons hquote)]
    · rfl
    · exact fun h => absurd (h ▸ List.mem_cons_self) hquote

theorem longLiteral_plain (hescape : needsEscape c = false) (hquote : c ≠ '\'') :
    longLiteral (c :: more) = push c (longLiteral more) := by
  by_cases hline : c = '\n'
  · subst hline
    rw [longLiteral]
  · have hreturn := ne_return_of_not_needsEscape hescape
    rw [longLiteral, if_pos (isShown_of_not_needsEscape hescape hline)]
    all_goals simp_all

/-- A quote that does not start three of them belongs to the string. -/
theorem longLiteral_quote (h : ¬['\'', '\''] <+: more) :
    longLiteral ('\'' :: more) = push '\'' (longLiteral more) := by
  have hquotes := ne_of_not_prefix h
  rw [longLiteral]
  · rfl
  all_goals simp_all

/-- If there are no three quotes in a row, then after a quote two more stand only at the end. -/
theorem of_singleQuotes_prefix (hruns : ¬['\'', '\'', '\''] <:+: '\'' :: text)
    (h : ['\'', '\''] <+: text ++ more) : text = [] ∨ text = ['\''] := by
  match text with
  | [] => exact .inl rfl
  | [c] =>
    obtain ⟨rfl, _⟩ := List.cons_prefix_cons.1 h
    exact .inr rfl
  | c :: d :: text =>
    obtain ⟨rfl, hd⟩ := List.cons_prefix_cons.1 h
    obtain ⟨rfl, _⟩ := List.cons_prefix_cons.1 hd
    exact absurd (List.prefix_append ['\'', '\'', '\''] text).isInfix hruns

theorem longLiteral_text (htext : ∀ c ∈ text, needsEscape c = false)
    (hruns : ¬['\'', '\'', '\''] <:+: text) (hrest : rest.head? ≠ some '\'') :
    longLiteral (text ++ '\'' :: '\'' :: '\'' :: rest) = some (text, rest) := by
  have hnone : ∀ left, rest ≠ '\'' :: left := by rintro left rfl; exact hrest rfl
  induction text with
  | nil =>
    rw [List.nil_append, longLiteral]
    · exact fun left h => absurd h (by simp_all)
    · exact fun left h => absurd h (hnone left)
  | cons c text ih =>
    obtain ⟨hc, htext⟩ := List.forall_mem_cons.1 htext
    have ih := ih htext fun h => hruns (h.trans (List.suffix_cons c text).isInfix)
    by_cases hquote : c = '\''
    · subst hquote
      by_cases hmore : ['\'', '\''] <+: text ++ '\'' :: '\'' :: '\'' :: rest
      · -- the quote is one of those in front of the three at the end
        rcases of_singleQuotes_prefix hruns hmore with rfl | rfl
        · rw [List.cons_append, List.nil_append, longLiteral]
          exact fun left h => absurd h (by simp_all)
        · rfl
      · rw [List.cons_append, longLiteral_quote hmore, ih]
        rfl
    · rw [List.cons_append, longLiteral_plain hc hquote, ih]
      rfl

end SingleQuotes

-- ---------------------------------------------------------------------------
-- The form that is chosen
-- ---------------------------------------------------------------------------

theorem not_needsEscape_of_any {text : List Char} (h : text.any needsEscape = false) {c : Char}
    (hc : c ∈ text) : needsEscape c = false :=
  Bool.eq_false_iff.2 (List.any_eq_false.1 h c hc)

/-- What the choice of a form says about the text. -/
theorem form_cases (text : List Char) :
    form text = .basic ∨
    (form text = .literal ∧ text ≠ [] ∧ (∀ c ∈ text, isShown c = true) ∧ '\'' ∉ text) ∨
    (form text = .longBasic ∧ text ≠ []) ∨
    (form text = .longLiteral ∧ text ≠ [] ∧ (∀ c ∈ text, needsEscape c = false) ∧
      ¬['\'', '\'', '\''] <:+: text) := by
  cases text with
  | nil => exact .inl rfl
  | cons c rest =>
    have hne : c :: rest ≠ [] := List.cons_ne_nil c rest
    generalize c :: rest = text at hne ⊢
    simp only [form]
    split
    · exact .inl rfl
    split
    next h =>
      simp only [Bool.and_eq_true, Bool.not_eq_true', decide_eq_true_eq, List.contains_eq_mem,
        decide_eq_false_iff_not] at h
      obtain ⟨⟨hcontrols, hsingle⟩, hlines⟩ := h
      refine .inr (.inl ⟨rfl, hne, ?_, not_mem_of_longestRun hsingle⟩)
      intro c hc
      exact isShown_of_not_needsEscape (not_needsEscape_of_any hcontrols hc)
        fun hline => hlines (hline ▸ hc)
    split
    · exact .inr (.inr (.inl ⟨rfl, hne⟩))
    split
    next h =>
      simp only [Bool.and_eq_true, Bool.not_eq_true', decide_eq_true_eq] at h
      obtain ⟨hcontrols, hsingle⟩ := h
      refine .inr (.inr (.inr ⟨rfl, hne, fun c => not_needsEscape_of_any hcontrols, ?_⟩))
      intro hruns
      have hthree : 3 ≤ longestRun '\'' text := le_longestRun hruns
      omega
    split
    · exact .inr (.inr (.inl ⟨rfl, hne⟩))
    · exact .inl rfl

theorem skipNewline_eq {text : List Char} (hline : text.head? ≠ some '\n')
    (hreturn : text.head? ≠ some '\r') : skipNewline text = text := by
  have hnone : newline? text = none := by
    rw [newline?.eq_def]
    split
    · exact absurd rfl hline
    · exact absurd rfl hreturn
    · rfl
  rw [skipNewline, hnone, Option.getD_none]

/-- The line end that is written in front of a text with line ends is skipped. -/
theorem skipNewline_firstLine {chars text : List Char}
    (hhead : '\n' ∉ chars → text.head? ≠ some '\n')
    (hreturn : text.head? ≠ some '\r') :
    skipNewline ((if chars.contains '\n' then ['\n'] else []) ++ text) = text := by
  split
  · rfl
  · next h => exact skipNewline_eq (hhead (by simpa using h)) hreturn

theorem quoted_of_basic {more : List Char} (h : ¬['"', '"'] <+: more) :
    Scan.quoted ('"' :: more) = basicString more := by
  have hquotes := ne_of_not_prefix h
  rw [Scan.quoted]
  · rfl
  all_goals simp_all

theorem quoted_of_literal {more : List Char} (h : ¬['\'', '\''] <+: more) :
    Scan.quoted ('\'' :: more) = literalString more := by
  have hquotes := ne_of_not_prefix h
  rw [Scan.quoted]
  · rfl
  all_goals simp_all

section Forms

variable {text : List Char}

theorem quoted_basic (text rest : List Char) :
    Scan.quoted ('"' :: (escape false 0 0 text ++ '"' :: '\n' :: rest)) =
      some (text, '\n' :: rest) := by
  have hmore : ¬['"', '"'] <+: escape false 0 0 text ++ '"' :: '\n' :: rest := by
    rintro ⟨left, hleft⟩
    cases text with
    | nil => simp [escape] at hleft
    | cons c text =>
      -- the first quote of a text needs an escape
      have hquotes := quote_of_head?_escape (by rw [← hleft]; rfl)
      omega
  rw [quoted_of_basic hmore, basicString_escape]

theorem quoted_literal (hne : text ≠ []) (htext : ∀ c ∈ text, isShown c = true)
    (hquote : '\'' ∉ text) (rest : List Char) :
    Scan.quoted ('\'' :: (text ++ '\'' :: '\n' :: rest)) = some (text, '\n' :: rest) := by
  have hmore : ¬['\'', '\''] <+: text ++ '\'' :: '\n' :: rest := by
    rintro ⟨left, hleft⟩
    obtain ⟨c, more, rfl⟩ := List.exists_cons_of_ne_nil hne
    obtain rfl := (List.cons.inj hleft).1
    exact hquote List.mem_cons_self
  rw [quoted_of_literal hmore, literalString_quote htext hquote]

theorem quoted_longBasic (hne : text ≠ []) (rest : List Char) :
    Scan.quoted ('"' :: '"' :: '"' :: ((if text.contains '\n' then ['\n'] else []) ++
        (escape true 2 0 text ++ '"' :: '"' :: '"' :: '\n' :: rest))) =
      some (text, '\n' :: rest) := by
  obtain ⟨c, more, rfl⟩ := List.exists_cons_of_ne_nil hne
  rw [Scan.quoted, skipNewline_firstLine, longString_escape 0 _ (by simp)]
  · intro hline hhead
    rcases isShown_of_head?_escape hhead with hshown | ⟨_, rfl⟩
    · exact nomatch hshown
    · exact hline List.mem_cons_self
  · intro hhead
    rcases isShown_of_head?_escape hhead with hshown | ⟨hreturn, _⟩
    · exact nomatch hshown
    · exact absurd hreturn (by decide)

theorem quoted_longLiteral (hne : text ≠ []) (htext : ∀ c ∈ text, needsEscape c = false)
    (hruns : ¬['\'', '\'', '\''] <:+: text) (rest : List Char) :
    Scan.quoted ('\'' :: '\'' :: '\'' :: ((if text.contains '\n' then ['\n'] else []) ++
        (text ++ '\'' :: '\'' :: '\'' :: '\n' :: rest))) = some (text, '\n' :: rest) := by
  obtain ⟨c, more, rfl⟩ := List.exists_cons_of_ne_nil hne
  rw [Scan.quoted, skipNewline_firstLine, longLiteral_text htext hruns (by simp)]
  · intro hline hhead
    obtain rfl := Option.some.inj hhead
    exact hline List.mem_cons_self
  · intro hhead
    exact ne_return_of_not_needsEscape (htext c List.mem_cons_self) (Option.some.inj hhead)

end Forms

/-- Every text is read back. -/
theorem quoted_quoted (text : String) (rest : List Char) :
    Scan.quoted ((Toml.quoted text).toList ++ '\n' :: rest) = some (text.toList, '\n' :: rest) := by
  rw [Toml.quoted, String.toList_ofList]
  rcases form_cases text.toList with
    h | ⟨h, hne, hshown, hquote⟩ | ⟨h, hne⟩ | ⟨h, hne, hescape, hruns⟩ <;>
    simp only [h, List.append_assoc, List.cons_append, List.nil_append]
  · exact quoted_basic _ rest
  · exact quoted_literal hne hshown hquote rest
  · exact quoted_longBasic hne rest
  · exact quoted_longLiteral hne hescape hruns rest

end PromptBudget.Toml
