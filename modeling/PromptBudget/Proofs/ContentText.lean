import PromptBudget.Proofs.Cutting

/-!
# PromptBudget — a content is its text

Somebody who works on a content turns it into blocks, adds a block at its end, and cuts bytes out of
its text. As far as the text goes, he might as well work on a string: it does not matter whether the
content is plain or how its text is spread over blocks.

The text is not all that there is to a cut. It also keeps blocks that hold no text, and in a block
that it shortens everything else (`Content.CutTo`), and it may be made before or after a plain text
is turned into blocks.

Main results:

* `Content.removeText?_normalized` — the content in its block form is cut alike.
* `Content.Operation.run?_text` — operations in range never fail and do to the text what they do to
  a string.
* `Content.run?_refines_text` — this, and what each cut leaves of the blocks.
-/

namespace PromptBudget.Content

open Text

/-- What may be done to a content. -/
inductive Operation where
  | normalize
  | push (b : Block)
  | remove (start stop : Nat)

namespace Operation

/-- The content after an operation; `none` if bytes are to be removed that do not fit. -/
def perform? (c : Content) : Operation → Option Content
  | normalize => some c.normalized
  | push b => some (c.pushed b)
  | remove start stop => c.removeText? start stop

/-- The content after some operations, one after another. -/
def run? (c : Content) (ops : List Operation) : Option Content := ops.foldlM perform? c

/-- The same operation on a string. -/
def onText (text : List Char) : Operation → List Char
  | normalize => text
  | push b => text ++ b.chars
  | remove start stop => outside start stop 0 text

/-- Bytes that are removed lie in the text, and no character is removed in part. -/
def InRange (text : List Char) : Operation → Prop
  | remove start stop => start ≤ stop ∧ stop ≤ byteLength text ∧
      IsBoundary start text ∧ IsBoundary stop text
  | _ => True

/-- Each of some operations is in range of the string that those before it leave. -/
def AllInRange (text : List Char) : List Operation → Prop
  | [] => True
  | op :: ops => op.InRange text ∧ AllInRange (op.onText text) ops

theorem InRange.isPart {text : List Char} {start stop : Nat}
    (h : (remove start stop).InRange text) : IsPart start stop text :=
  isPart_iff.2 ⟨h.1, h.2.2.1, h.2.2.2⟩

theorem exists_perform? {c : Content} {op : Operation} (h : op.InRange c.text.toList) :
    ∃ d, op.perform? c = some d ∧ d.text.toList = op.onText c.text.toList := by
  cases op with
  | normalize => exact ⟨c.normalized, rfl, by rw [text_normalized, onText]⟩
  | push b => exact ⟨c.pushed b, rfl, text_pushed c b⟩
  | remove start stop =>
    obtain ⟨d, hd, hcut⟩ := exists_cutTo h.isPart
    exact ⟨d, hd, hcut.text⟩

theorem run?_text {c : Content} {ops : List Operation} (h : AllInRange c.text.toList ops) :
    ∃ d, run? c ops = some d ∧ d.text.toList = ops.foldl onText c.text.toList := by
  induction ops generalizing c with
  | nil => exact ⟨c, rfl, rfl⟩
  | cons op ops ih =>
    -- what is in range of the string is in range of the content, since its text is that string
    obtain ⟨d, hd, htext⟩ := exists_perform? h.1
    have hrest := h.2
    rw [← htext] at hrest
    obtain ⟨last, hlast, hlasttext⟩ := ih hrest
    refine ⟨last, ?_, ?_⟩
    · rw [run?, List.foldlM_cons, hd]
      exact hlast
    · rw [List.foldl_cons, ← htext, hlasttext]

end Operation

theorem toBlocks_plain (s : String) :
    (Content.plain s).toBlocks = if s.toList = [] then [] else [Block.ofText s] := by
  have hempty : s.isEmpty = true ↔ s.toList = [] := by
    rw [String.isEmpty_iff, String.toList_eq_nil_iff]
  simp only [toBlocks, hempty]

/-- The one block of a plain text loses what the text loses, and goes if nothing is left. -/
theorem normalized_plain_of_cutTo {s : String} {start stop : Nat} {e : Content}
    (h : CutTo start stop (Content.plain s).normalized e) :
    e = (Content.plain (String.ofList (outside start stop 0 s.toList))).normalized := by
  rw [normalized, toBlocks_plain] at h
  rw [normalized, toBlocks_plain, String.toList_ofList]
  split at h
  · next hs =>
    cases h with
    | blocks hblocks =>
      cases hblocks
      rw [hs, outside, if_pos rfl]
  · next hs =>
    cases h with
    | blocks hblocks =>
      cases hblocks with
      | kept hb hrest =>
        cases hrest
        have hsame : outside start stop 0 s.toList = s.toList :=
          Block.outside_chars_of_not_overlaps hb
        rw [hsame, if_neg hs, String.ofList_toList]
      | shortened hb hsome hrest =>
        cases hrest
        rw [if_neg (by exact hsome)]
        rfl
      | dropped hb hnone hrest =>
        cases hrest
        rw [if_pos (by exact hnone)]

/-- A plain text that is turned into blocks is cut as it was before. -/
theorem removeText?_normalized {c d : Content} {start stop : Nat}
    (hpart : IsPart start stop c.text.toList) (h : c.removeText? start stop = some d) :
    c.normalized.removeText? start stop = some d.normalized := by
  cases c with
  | blocks bs =>
    -- blocks are in their block form already
    obtain ⟨left, -, rfl⟩ := Option.map_eq_some_iff.1 h
    exact h
  | plain s =>
    obtain ⟨d', hd', hcut⟩ := exists_cutTo hpart
    obtain rfl := Option.some.inj (h.symm.trans hd')
    rw [← text_normalized] at hpart
    obtain ⟨e, he, hcut'⟩ := exists_cutTo hpart
    rw [he, normalized_plain_of_cutTo hcut']
    cases hcut
    rfl

/-- Whatever is done to a content, as long as it is in range of the text: nothing of it fails, and
the text is that of a string to which the same is done. Each cut leaves the blocks that hold no
text, and in the others all but the text in its range. -/
theorem run?_refines_text (c : Content) :
    (∀ ops, Operation.AllInRange c.text.toList ops →
      ∃ d, Operation.run? c ops = some d ∧
        d.text.toList = ops.foldl Operation.onText c.text.toList) ∧
    ∀ start stop, (Operation.remove start stop).InRange c.text.toList →
      ∃ d, c.removeText? start stop = some d ∧ CutTo start stop c d ∧
        d.toBlocks.filter (!·.isText) = c.toBlocks.filter (!·.isText) ∧
        c.normalized.removeText? start stop = some d.normalized := by
  refine ⟨fun ops hops => Operation.run?_text hops, ?_⟩
  intro start stop hrange
  have hpart := hrange.isPart
  obtain ⟨d, hd, hcut⟩ := exists_cutTo hpart
  exact ⟨d, hd, hcut, hcut.others, removeText?_normalized hpart hd⟩

/-- A cut through a text of three blocks, with a picture between them, of which one goes and one
keeps its hint; then a block is added, and the cut goes on in it. -/
theorem run?_refines_text_blocks :
    let image : Block := { kind := .image, text := "" }
    let c : Content := .blocks [.ofText "ab", image, .ofText "c", .ephemeral "dé", .ofText ""]
    Operation.AllInRange c.text.toList
      [.remove 1 4, .normalize, .push (.ofText "fg"), .remove 1 4] ∧
    (∃ d, Operation.run? c [.remove 1 4, .normalize, .push (.ofText "fg"), .remove 1 4] = some d ∧
      d.text.toList = ['a', 'g']) ∧
    ∃ d, c.removeText? 1 4 = some d ∧ d = .blocks [.ofText "a", image, .ephemeral "é", .ofText ""] ∧
      CutTo 1 4 c d := by
  intro image c
  have hrange : Operation.AllInRange c.text.toList
      [.remove 1 4, .normalize, .push (.ofText "fg"), .remove 1 4] := by
    refine ⟨⟨by decide, by decide, ⟨['a'], "bcdé".toList, by decide, by decide⟩,
      ⟨"abcd".toList, "é".toList, by decide, by decide⟩⟩, trivial, trivial,
      ⟨by decide, by decide, ⟨['a'], "éfg".toList, by decide, by decide⟩,
      ⟨"aéf".toList, ['g'], by decide, by decide⟩⟩, trivial⟩
  obtain ⟨hrun, hremove⟩ := run?_refines_text c
  obtain ⟨d, hd, hcut, -⟩ := hremove 1 4 hrange.1
  refine ⟨hrange, ?_, d, hd, ?_, hcut⟩
  · obtain ⟨last, hlast, htext⟩ := hrun _ hrange
    exact ⟨last, hlast, htext.trans (by decide)⟩
  · exact Option.some.inj (hd.symm.trans rfl)

end PromptBudget.Content
