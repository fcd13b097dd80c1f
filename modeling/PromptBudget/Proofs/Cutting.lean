import PromptBudget.Chat.Content

/-!
# PromptBudget — cutting a part out of a text in blocks

A text may be spread over blocks in any way, with blocks in between that hold no text. A part of it
is cut out block by block, so its bytes have to be found again in each block, counted from where the
block starts.

What is to come out of this is said without counting anew in each block. `Text.outside` reads a text
with the number of the byte at which it starts and leaves out the characters in a range. What is
outside of joined texts is what is outside of each (`Text.outside_append`), so the same range serves
for the whole text and for every block. `Block.Cut` says what becomes of the blocks, one by one.

Main results:

* `Text.IsBoundary.parts` — a position between characters of joined texts is one in each of them.
* `Content.cutBlocks?_cut` — a cut between characters never fails, and does this with the blocks.
* `Content.removeText?_append` — cutting the bytes of a part leaves the text before the part and
  after it, whatever the form of the content.
-/

namespace PromptBudget

namespace Text

/-- A position in a text that does not fall inside a character. -/
def IsBoundary (n : Nat) (text : List Char) : Prop :=
  ∃ front back, text = front ++ back ∧ byteLength front = n

/-- A range of bytes is a part of a text: both of its ends fall between characters. -/
def IsPart (start stop : Nat) (text : List Char) : Prop :=
  ∃ front part back, text = front ++ part ++ back ∧ byteLength front = start ∧
    byteLength (front ++ part) = stop

/-- The characters of a text that are not in a range of bytes. The text itself starts at a byte with
the given number. -/
def outside (start stop : Nat) : Nat → List Char → List Char
  | _, [] => []
  | offset, c :: rest =>
    if start ≤ offset ∧ offset < stop then outside start stop (offset + c.utf8Size) rest
    else c :: outside start stop (offset + c.utf8Size) rest

-- ---------------------------------------------------------------------------
-- Positions between characters
-- ---------------------------------------------------------------------------

theorem isBoundary_zero (text : List Char) : IsBoundary 0 text := ⟨[], text, rfl, rfl⟩

/-- A position in joined texts lies in the second, or behind the first. -/
theorem IsBoundary.parts {n : Nat} {text rest : List Char} (h : IsBoundary n (text ++ rest)) :
    IsBoundary (min n (byteLength text)) text ∧ IsBoundary (n - byteLength text) rest := by
  obtain ⟨front, back, happend, rfl⟩ := h
  rcases List.append_eq_append_iff.1 happend with ⟨x, rfl, rfl⟩ | ⟨x, rfl, rfl⟩
  · have hmin : min (byteLength (text ++ x)) (byteLength text) = byteLength text := by simp
    have hsub : byteLength (text ++ x) - byteLength text = byteLength x := by simp
    rw [hmin, hsub]
    exact ⟨⟨text, [], by simp, rfl⟩, ⟨x, back, rfl, rfl⟩⟩
  · have hmin : min (byteLength front) (byteLength (front ++ x)) = byteLength front := by simp
    have hsub : byteLength front - byteLength (front ++ x) = 0 := by simp
    rw [hmin, hsub]
    exact ⟨⟨front, x, rfl, rfl⟩, isBoundary_zero rest⟩

theorem isPart_iff {start stop : Nat} {text : List Char} :
    IsPart start stop text ↔ start ≤ stop ∧ IsBoundary start text ∧ IsBoundary stop text := by
  constructor
  · rintro ⟨front, part, back, rfl, rfl, rfl⟩
    have hle : byteLength front ≤ byteLength (front ++ part) := by simp
    exact ⟨hle, ⟨front, part ++ back, by simp, rfl⟩, ⟨front ++ part, back, rfl, rfl⟩⟩
  · rintro ⟨hle, ⟨front, rest, rfl, rfl⟩, hstop⟩
    -- the second end lies in what follows the first
    obtain ⟨part, back, rfl, hpart⟩ := hstop.parts.2
    refine ⟨front, part, back, by simp, rfl, ?_⟩
    rw [byteLength_append]
    omega

-- ---------------------------------------------------------------------------
-- What is outside of a range
-- ---------------------------------------------------------------------------

theorem outside_append (start stop offset : Nat) (text rest : List Char) :
    outside start stop offset (text ++ rest) =
      outside start stop offset text ++ outside start stop (offset + byteLength text) rest := by
  induction text generalizing offset with
  | nil => rfl
  | cons c text ih =>
    rw [List.cons_append, outside, outside, ih, byteLength_cons, ← Nat.add_assoc]
    split <;> rfl

/-- Only the bytes of the text itself count. -/
theorem outside_congr {start stop offset start' stop' offset' : Nat} {text : List Char}
    (h : ∀ n < byteLength text,
      start ≤ offset + n ∧ offset + n < stop ↔ start' ≤ offset' + n ∧ offset' + n < stop') :
    outside start stop offset text = outside start' stop' offset' text := by
  induction text generalizing offset offset' with
  | nil => rfl
  | cons c text ih =>
    have hsize := Char.utf8Size_pos c
    rw [byteLength_cons] at h
    have hfirst : start ≤ offset ∧ offset < stop ↔ start' ≤ offset' ∧ offset' < stop' :=
      h 0 (by omega)
    have hrest : outside start stop (offset + c.utf8Size) text =
        outside start' stop' (offset' + c.utf8Size) text := by
      apply ih
      intro n hn
      have hbyte := h (c.utf8Size + n) (by omega)
      rwa [← Nat.add_assoc, ← Nat.add_assoc] at hbyte
    rw [outside, outside, hrest]
    simp only [hfirst]

/-- A range that does not overlap a text takes nothing out of it. -/
theorem outside_eq_self {start stop offset : Nat} {text : List Char}
    (h : min stop (offset + byteLength text) ≤ max start offset) :
    outside start stop offset text = text := by
  induction text generalizing offset with
  | nil => rfl
  | cons c text ih =>
    have hsize := Char.utf8Size_pos c
    rw [byteLength_cons] at h
    rw [outside, if_neg (by omega), ih (by omega)]

theorem outside_eq_nil {start stop offset : Nat} {text : List Char} (hstart : start ≤ offset)
    (hstop : offset + byteLength text ≤ stop) : outside start stop offset text = [] := by
  induction text generalizing offset with
  | nil => rfl
  | cons c text ih =>
    have hsize := Char.utf8Size_pos c
    rw [byteLength_cons] at hstop
    rw [outside, if_pos (by omega)]
    exact ih (by omega) (by omega)

theorem outside_part (front part back : List Char) :
    outside (byteLength front) (byteLength (front ++ part)) 0 (front ++ part ++ back) =
      front ++ back := by
  generalize hstart : byteLength front = start
  generalize hstop : byteLength (front ++ part) = stop
  have hsum : stop = start + byteLength part := by rw [← hstop, byteLength_append, hstart]
  have hfront : outside start stop 0 front = front := outside_eq_self (by omega)
  have hpart : outside start stop (0 + start) part = [] := outside_eq_nil (by omega) (by omega)
  have hback : outside start stop (0 + stop) back = back := outside_eq_self (by omega)
  rw [outside_append, outside_append, hstart, hstop, hfront, hpart, hback, List.append_nil]

theorem cut?_eq_outside {start stop : Nat} {text : List Char} (h : IsPart start stop text) :
    cut? start stop text = some (outside start stop 0 text) := by
  obtain ⟨front, part, back, rfl, rfl, rfl⟩ := h
  rw [outside_part, byteLength_append, cut?_append]

end Text

-- ---------------------------------------------------------------------------
-- Blocks
-- ---------------------------------------------------------------------------

open Text

namespace Block

/-- A text block has bytes in a range. Its text starts at a byte with the given number. -/
def Overlaps (start stop offset : Nat) (b : Block) : Prop :=
  b.isText = true ∧ max start offset < min stop (offset + byteLength b.text.toList)

/-- What a cut of a range of bytes leaves of some blocks whose text starts at a byte with the given
number. -/
inductive Cut (start stop : Nat) : Nat → List Block → List Block → Prop where
  | nil {offset : Nat} : Cut start stop offset [] []
  /-- A block that has no bytes in the range stays as it is. -/
  | kept {offset : Nat} {b : Block} {rest left : List Block} (hb : ¬ b.Overlaps start stop offset)
      (hrest : Cut start stop (offset + byteLength b.chars) rest left) :
      Cut start stop offset (b :: rest) (b :: left)
  /-- Another one keeps what is outside of the range, and everything that is not its text. -/
  | shortened {offset : Nat} {b : Block} {rest left : List Block}
      (hb : b.Overlaps start stop offset) (hsome : outside start stop offset b.text.toList ≠ [])
      (hrest : Cut start stop (offset + byteLength b.chars) rest left) :
      Cut start stop offset (b :: rest)
        ({ b with text := String.ofList (outside start stop offset b.text.toList) } :: left)
  /-- If nothing is left of its text, it goes. -/
  | dropped {offset : Nat} {b : Block} {rest left : List Block}
      (hb : b.Overlaps start stop offset) (hnone : outside start stop offset b.text.toList = [])
      (hrest : Cut start stop (offset + byteLength b.chars) rest left) :
      Cut start stop offset (b :: rest) left

theorem chars_of_isText {b : Block} (hb : b.isText = true) : b.chars = b.text.toList := by
  rw [chars, if_pos hb]

theorem chars_of_not_isText {b : Block} (hb : b.isText = false) : b.chars = [] := by
  rw [chars, hb]
  rfl

variable {start stop offset : Nat} {bs left : List Block}

theorem outside_chars_of_not_overlaps {b : Block} (hb : ¬ b.Overlaps start stop offset) :
    outside start stop offset b.chars = b.chars := by
  cases hkind : b.isText with
  | false => rw [chars_of_not_isText hkind]; rfl
  | true =>
    rw [chars_of_isText hkind]
    refine outside_eq_self (Nat.le_of_not_lt ?_)
    intro hlt
    exact hb ⟨hkind, hlt⟩

theorem Cut.chars (h : Cut start stop offset bs left) :
    left.flatMap Block.chars = outside start stop offset (bs.flatMap Block.chars) := by
  induction h with
  | nil => rfl
  | kept hb _ ih =>
    rw [List.flatMap_cons, List.flatMap_cons, outside_append, ih, outside_chars_of_not_overlaps hb]
  | @shortened offset b rest left hb hsome _ ih =>
    generalize hkept : outside start stop offset b.text.toList = kept
    have hshort : Block.chars { b with text := String.ofList kept } =
        outside start stop offset b.chars := by
      rw [chars_of_isText hb.1, chars_of_isText (by exact hb.1), String.toList_ofList, hkept]
    rw [List.flatMap_cons, List.flatMap_cons, outside_append, ih, hshort]
  | dropped hb hnone _ ih =>
    rw [List.flatMap_cons, outside_append, ih, chars_of_isText hb.1, hnone, List.nil_append]

/-- Blocks that hold no text are all there, in their order. -/
theorem Cut.others (h : Cut start stop offset bs left) :
    left.filter (!·.isText) = bs.filter (!·.isText) := by
  induction h with
  | nil => rfl
  | kept hb _ ih => rw [List.filter_cons, List.filter_cons, ih]
  | @shortened offset b rest left hb hsome _ ih =>
    generalize outside start stop offset b.text.toList = kept
    have hkind : Block.isText { b with text := String.ofList kept } = true := hb.1
    rw [List.filter_cons_of_neg (by simp [hkind]), List.filter_cons_of_neg (by simp [hb.1]), ih]
  | dropped hb _ _ ih => rw [List.filter_cons_of_neg (by simp [hb.1]), ih]

end Block

-- ---------------------------------------------------------------------------
-- Contents
-- ---------------------------------------------------------------------------

namespace Content

variable {start stop : Nat}

/-- In each block the range starts and ends somewhere between characters, so the cut succeeds there;
how far it reaches is counted from where the block starts. -/
theorem cutBlocks?_cut (offset : Nat) {bs : List Block} (hle : start ≤ stop)
    (hstart : IsBoundary (start - offset) (bs.flatMap Block.chars))
    (hstop : IsBoundary (stop - offset) (bs.flatMap Block.chars)) :
    ∃ left, cutBlocks? (start - offset) (stop - offset) bs = some left ∧
      Block.Cut start stop offset bs left := by
  induction bs generalizing offset with
  | nil => exact ⟨[], rfl, .nil⟩
  | cons b rest ih =>
    rw [List.flatMap_cons] at hstart hstop
    have hrest := ih (offset + byteLength b.chars)
    rw [← Nat.sub_sub, ← Nat.sub_sub] at hrest
    obtain ⟨left, hleft, hcut⟩ := hrest hstart.parts.2 hstop.parts.2
    cases hb : b.isText with
    | false =>
      have hchars := Block.chars_of_not_isText hb
      rw [hchars] at hleft
      have hout : ¬ b.Overlaps start stop offset := by
        intro hover
        rw [hover.1] at hb
        cases hb
      exact ⟨b :: left, by simpa [cutBlocks?, hb] using hleft, .kept hout hcut⟩
    | true =>
      have hchars := Block.chars_of_isText hb
      rw [hchars] at hleft hstart hstop
      simp only [cutBlocks?, if_pos hb, hleft]
      by_cases hnone : min (start - offset) (byteLength b.text.toList) =
          min (stop - offset) (byteLength b.text.toList)
      · -- the range does not reach into the block
        have hout : ¬ b.Overlaps start stop offset := by
          rintro ⟨-, hlt⟩
          omega
        rw [if_pos hnone]
        exact ⟨b :: left, rfl, .kept hout hcut⟩
      · have hover : b.Overlaps start stop offset := ⟨hb, by omega⟩
        have hpart : IsPart (min (start - offset) (byteLength b.text.toList))
            (min (stop - offset) (byteLength b.text.toList)) b.text.toList :=
          isPart_iff.2 ⟨by omega, hstart.parts.1, hstop.parts.1⟩
        have houtside : outside (min (start - offset) (byteLength b.text.toList))
            (min (stop - offset) (byteLength b.text.toList)) 0 b.text.toList =
              outside start stop offset b.text.toList := by
          apply outside_congr
          intro n hn
          omega
        rw [if_neg hnone, cut?_eq_outside hpart, houtside]
        cases hkept : outside start stop offset b.text.toList with
        | nil => exact ⟨left, rfl, .dropped hover hkept hcut⟩
        | cons c more =>
          have hsome : outside start stop offset b.text.toList ≠ [] := by
            rw [hkept]
            exact List.cons_ne_nil c more
          exact ⟨_, rfl, hkept ▸ .shortened hover hsome hcut⟩

/-- A content of which a range of bytes has been cut out. It has kept its form. -/
inductive CutTo (start stop : Nat) : Content → Content → Prop where
  | plain (s : String) :
      CutTo start stop (.plain s) (.plain (String.ofList (outside start stop 0 s.toList)))
  | blocks {bs left : List Block} (h : Block.Cut start stop 0 bs left) :
      CutTo start stop (.blocks bs) (.blocks left)

theorem CutTo.text {c d : Content} (h : CutTo start stop c d) :
    d.text.toList = outside start stop 0 c.text.toList := by
  cases h with
  | plain s => rw [text_plain, text_plain, String.toList_ofList]
  | blocks h => rw [toList_text_blocks, toList_text_blocks, h.chars]

theorem CutTo.others {c d : Content} (h : CutTo start stop c d) :
    d.toBlocks.filter (!·.isText) = c.toBlocks.filter (!·.isText) := by
  have hplain (s : String) : (Content.plain s).toBlocks.filter (!·.isText) = [] := by
    rw [toBlocks]
    cases s.isEmpty <;> rfl
  cases h with
  | plain s => rw [hplain, hplain]
  | blocks h => exact h.others

theorem exists_cutTo {c : Content} (h : IsPart start stop c.text.toList) :
    ∃ d, c.removeText? start stop = some d ∧ CutTo start stop c d := by
  cases c with
  | plain s =>
    rw [text_plain] at h
    refine ⟨_, ?_, .plain s⟩
    rw [removeText?, cut?_eq_outside h, Option.map_some]
  | blocks bs =>
    rw [toList_text_blocks] at h
    obtain ⟨hle, hstart, hstop⟩ := isPart_iff.1 h
    obtain ⟨left, hleft, hcut⟩ := cutBlocks?_cut 0 hle hstart hstop
    refine ⟨.blocks left, ?_, .blocks hcut⟩
    rw [removeText?, ← Nat.sub_zero start, ← Nat.sub_zero stop, hleft, Option.map_some]

/-- Cutting out a part of the text succeeds and leaves the rest of the text. -/
theorem removeText?_append {c : Content} {front part back : List Char}
    (h : c.text.toList = front ++ part ++ back) :
    ∃ left, c.removeText? (byteLength front) (byteLength front + byteLength part) = some left ∧
      left.text.toList = front ++ back := by
  rw [← byteLength_append]
  obtain ⟨left, hleft, hcut⟩ := exists_cutTo ⟨front, part, back, h, rfl, rfl⟩
  exact ⟨left, hleft, by rw [hcut.text, h, outside_part]⟩

theorem removeText?_of_isPart {c : Content} (h : IsPart start stop c.text.toList) :
    ∃ left, c.removeText? start stop = some left := by
  obtain ⟨left, hleft, -⟩ := exists_cutTo h
  exact ⟨left, hleft⟩

end Content

end PromptBudget
