import PromptBudget.Json.Basic
import PromptBudget.Number.Decimal
import PromptBudget.Text.Utf8

/-!
# PromptBudget — writing JSON

A value is written on one line without spaces, or over several lines with two spaces for each level
of nesting; an empty container stays on one line in both. A string keeps every character but the
quote, the backslash and the control characters below U+0020.

Main statement:

* `escape_of_plain` — a text without such characters is written as it is.
-/

namespace PromptBudget.Json

/-- Numbers are positional from `1e-5` up to `1e16`; beyond, they have an exponent. -/
def numberStyle : Decimal.Style := ⟨some (-4), some 16⟩

/-- The text of a number. An infinite or undefined one has none and is written as null. -/
def Number.text : Number → String
  | .int n => toString n
  | .float x => (Floating.write? Floating.double numberStyle x).getD "null"

/-- The digits of a control character as four hexadecimal places. -/
def controlEscape (c : Char) : List Char :=
  ['\\', 'u', '0', '0'] ++ [Nat.digitChar (c.toNat / 16), Nat.digitChar (c.toNat % 16)]

/-- A character inside a string. -/
def escapeChar (c : Char) : List Char :=
  match c with
  | '"' => ['\\', '"']
  | '\\' => ['\\', '\\']
  | '\x08' => ['\\', 'b']
  | '\x0c' => ['\\', 'f']
  | '\n' => ['\\', 'n']
  | '\r' => ['\\', 'r']
  | '\t' => ['\\', 't']
  | c => if c.toNat < 0x20 then controlEscape c else [c]

/-- The characters of a text inside a string. -/
def escape (text : List Char) : List Char :=
  text.flatMap escapeChar

/-- A text as a string in quotes. -/
def quoted (text : String) : String :=
  String.ofList ('"' :: escape text.toList ++ ['"'])

theorem escape_of_plain (text : List Char) (h : ∀ c ∈ text, escapeChar c = [c]) : escape text = text := by
  induction text with
  | nil => rfl
  | cons c rest ih =>
    simp only [escape, List.flatMap_cons, h c (List.mem_cons_self), List.cons_append, List.nil_append]
    rw [show rest.flatMap escapeChar = rest from ih fun c hc => h c (List.mem_cons_of_mem _ hc)]

/-! ## On one line -/

mutual

/-- A value on one line. -/
def compact : Json → String
  | .null => "null"
  | .bool b => if b then "true" else "false"
  | .number n => n.text
  | .string s => quoted s
  | .array items => "[" ++ String.intercalate "," (compactItems items) ++ "]"
  | .object fields => "\x7b" ++ String.intercalate "," (compactFields fields) ++ "\x7d"

/-- Items on one line. -/
def compactItems : List Json → List String
  | [] => []
  | value :: rest => compact value :: compactItems rest

/-- Fields on one line. -/
def compactFields : List (String × Json) → List String
  | [] => []
  | (key, value) :: rest => (quoted key ++ ":" ++ compact value) :: compactFields rest

end

/-! ## On several lines -/

/-- The start of a line at a level of nesting. -/
def indentation (level : Nat) : String :=
  String.ofList (List.replicate (2 * level) ' ')

/-- A container whose parts stand on lines of their own; without parts, on one line. -/
def block (level : Nat) (opening closing : String) (parts : List String) : String :=
  if parts.isEmpty then opening ++ closing
  else
    let lines := parts.map fun part => indentation (level + 1) ++ part
    opening ++ "\n" ++ String.intercalate ",\n" lines ++ "\n" ++ indentation level ++ closing

mutual

/-- A value on several lines, inside so many containers. -/
def pretty (level : Nat) : Json → String
  | .null => "null"
  | .bool b => if b then "true" else "false"
  | .number n => n.text
  | .string s => quoted s
  | .array items => block level "[" "]" (prettyItems (level + 1) items)
  | .object fields => block level "\x7b" "\x7d" (prettyFields (level + 1) fields)

/-- Items on several lines. -/
def prettyItems (level : Nat) : List Json → List String
  | [] => []
  | value :: rest => pretty level value :: prettyItems level rest

/-- Fields on several lines. -/
def prettyFields (level : Nat) : List (String × Json) → List String
  | [] => []
  | (key, value) :: rest => (quoted key ++ ": " ++ pretty level value) :: prettyFields level rest

end

end PromptBudget.Json
