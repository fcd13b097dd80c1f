import PromptBudget.Json.Basic
import PromptBudget.Text.Utf8

/-!
# PromptBudget — message content

Content is a plain text or a list of blocks. Its text is the plain text, or the texts of its text
blocks one after another. Editing works on either form: `pushed` turns a plain text into blocks
first, `removeText?` cuts bytes out of the text and leaves the form as it is.

Main statements:

* `text_normalized` — the block form of a content has its text.
* `text_pushed` — a text block that is pushed adds its text at the end, any other block adds nothing.
-/

namespace PromptBudget

/-- What a block holds. -/
inductive Block.Kind where
  | text
  | image
  deriving DecidableEq, Repr, Inhabited

/-- How long a service may keep what it has read of a block. -/
inductive CacheHint where
  | ephemeral
  deriving DecidableEq, Repr, Inhabited

/-- A part of a content. -/
structure Block where
  /-- What it holds. -/
  kind : Block.Kind
  /-- Its text, which may be empty. -/
  text : String
  /-- Its cache hint. -/
  cacheHint : Option CacheHint := none
  /-- Its other fields. -/
  extras : Json.Extras := .none
  deriving DecidableEq, Repr

namespace Block

/-- A text block. -/
def ofText (text : String) : Block := { kind := .text, text }

/-- A text block that a service should keep for a while. -/
def ephemeral (text : String) : Block := { kind := .text, text, cacheHint := some .ephemeral }

/-- Whether a block is part of the text. -/
def isText (b : Block) : Bool := b.kind == .text

/-- What a block adds to the text. -/
def chars (b : Block) : List Char :=
  if b.isText then b.text.toList else []

end Block

/-- The content of a message. -/
inductive Content where
  | plain (s : String)
  | blocks (bs : List Block)
  deriving DecidableEq, Repr

instance : Inhabited Content := ⟨.plain ""⟩

namespace Content

/-- The text of a content. -/
def text : Content → String
  | .plain s => s
  | .blocks bs => String.ofList (bs.flatMap Block.chars)

/-- Whether there is nothing in a content: no text, or no block. -/
def isEmpty : Content → Bool
  | .plain s => s.isEmpty
  | .blocks bs => bs.isEmpty

/-- A content as blocks: a plain text is one text block, or none if it is empty. -/
def toBlocks : Content → List Block
  | .plain s => if s.isEmpty then [] else [Block.ofText s]
  | .blocks bs => bs

/-- A content in its block form. -/
def normalized (c : Content) : Content := .blocks c.toBlocks

/-- A content in its block form with a block added at the end. -/
def pushed (c : Content) (b : Block) : Content := .blocks (c.toBlocks ++ [b])

/-! ## Cutting -/

/-- Cuts the bytes from `start` up to `stop` out of the text of some blocks. A text block that the
range does not reach stays, one of which nothing is left goes; `none` if the range is the wrong way
round in a block or ends inside a character of one. -/
def cutBlocks? (start stop : Nat) : List Block → Option (List Block)
  | [] => some []
  | b :: rest =>
    if b.isText then
      let length := Text.byteLength b.text.toList
      let more := cutBlocks? (start - length) (stop - length) rest
      if min start length = min stop length then more.map (b :: ·)
      else
        match Text.cut? (min start length) (min stop length) b.text.toList with
        | none => none
        | some [] => more
        | some kept => more.map ({ b with text := String.ofList kept } :: ·)
    else (cutBlocks? start stop rest).map (b :: ·)

/-- Cuts the bytes from `start` up to `stop` out of the text; `none` if the range does not fit. -/
def removeText? (start stop : Nat) : Content → Option Content
  | .plain s => (Text.cut? start stop s.toList).map fun kept => .plain (String.ofList kept)
  | .blocks bs => (cutBlocks? start stop bs).map .blocks

/-! ## The text of edited content -/

@[simp] theorem text_plain (s : String) : (Content.plain s).text = s := rfl

theorem toList_text_blocks (bs : List Block) : (Content.blocks bs).text.toList = bs.flatMap Block.chars := by
  simp [text]

theorem text_normalized (c : Content) : c.normalized.text = c.text := by
  cases c with
  | blocks bs => rfl
  | plain s =>
    by_cases h : s = ""
    · subst h; simp [normalized, toBlocks, text]
    · simp [normalized, toBlocks, text, Block.chars, Block.ofText, Block.isText, h]

theorem text_pushed (c : Content) (b : Block) :
    (c.pushed b).text.toList = c.text.toList ++ b.chars := by
  rw [← text_normalized c, pushed, normalized, toList_text_blocks, toList_text_blocks]
  simp

end Content

end PromptBudget
