import PromptBudget.Number.Decimal
import PromptBudget.Toml.Table

/-!
# PromptBudget — writing TOML

A string is written in the plainest form that can hold it: between double quotes if nothing in it
needs an escape, between single quotes if it holds double quotes or backslashes, over several lines
between three quotes if it holds line ends, and with escapes only if no other form will do.
-/

namespace PromptBudget.Toml

/-- The four forms of a string. -/
inductive Form where
  | basic
  | literal
  | longBasic
  | longLiteral
  deriving DecidableEq, Repr

/-- The length of the longest run of a character. -/
def longestRun (c : Char) (text : List Char) : Nat :=
  (text.foldl (fun (run, longest) d => if d == c then (run + 1, max longest (run + 1)) else (0, longest)) (0, 0)).2

/-- Whether a character is a control character other than a tab and a line feed. -/
def needsEscape (c : Char) : Bool :=
  (c.toNat < 0x20 || c.toNat == 0x7F) && c != '\t' && c != '\n'

/-- The form in which a text is written. -/
def form (text : List Char) : Form :=
  let controls := text.any needsEscape
  let lines := text.contains '\n'
  let backslashes := text.contains '\\'
  let double := longestRun '"' text
  let single := longestRun '\'' text
  if !controls && !backslashes && double = 0 && !lines then .basic
  else if !controls && single = 0 && !lines then .literal
  else if !controls && !backslashes && double ≤ 2 then .longBasic
  else if !controls && single ≤ 2 then .longLiteral
  else if lines then .longBasic
  else .basic

/-- The digits of a control character as four hexadecimal places. -/
def codePoint (c : Char) : List Char :=
  let digits := (Nat.toDigits 16 c.toNat).map Char.toUpper
  ['\\', 'u'] ++ List.replicate (4 - digits.length) '0' ++ digits

/-- A character between double quotes, other than a double quote. -/
def escapeChar (isLong : Bool) (c : Char) : List Char :=
  match c with
  | '\x08' => ['\\', 'b']
  | '\t' => ['\\', 't']
  | '\n' => if isLong then ['\n'] else ['\\', 'n']
  | '\x0c' => ['\\', 'f']
  | '\r' => ['\\', 'r']
  | '\\' => ['\\', '\\']
  | c => if needsEscape c then codePoint c else [c]

/-- A text between double quotes, where so many double quotes in a row need no escape and some have
been written. -/
def escape (isLong : Bool) (plainQuotes : Nat) : Nat → List Char → List Char
  | _, [] => []
  | quotes, c :: rest =>
    if c == '"' then
      if quotes < plainQuotes then '"' :: escape isLong plainQuotes (quotes + 1) rest
      else ['\\', '"'] ++ escape isLong plainQuotes 0 rest
    else escapeChar isLong c ++ escape isLong plainQuotes 0 rest

/-- A text as a string. -/
def quoted (text : String) : String :=
  let chars := text.toList
  let firstLine := if chars.contains '\n' then ['\n'] else []
  String.ofList (match form chars with
    | .basic => ['"'] ++ escape false 0 0 chars ++ ['"']
    | .literal => ['\''] ++ chars ++ ['\'']
    | .longBasic => ['"', '"', '"'] ++ firstLine ++ escape true 2 0 chars ++ ['"', '"', '"']
    | .longLiteral => ['\'', '\'', '\''] ++ firstLine ++ chars ++ ['\'', '\'', '\''])

/-- Numbers are written without an exponent. -/
def numberStyle : Decimal.Style := ⟨none, none⟩

/-- The text of a floating-point number. -/
def floatText (x : Floating) : String :=
  match x with
  | .infinite negative => if negative then "-inf" else "inf"
  | .undefined => "nan"
  | x => (Floating.write? Floating.double numberStyle x).getD ""

/-- The text of a scalar. -/
def scalarText : Toml → String
  | .string s => quoted s
  | .integer n => toString n
  | .float x => floatText x
  | .boolean b => if b then "true" else "false"
  | .moment text => text
  | _ => ""

/-- A table of scalars under its header. -/
def sectionText (name : String) (fields : Fields) : String :=
  "[" ++ name ++ "]\n" ++ String.join (fields.map fun (key, value) => key ++ " = " ++ scalarText value ++ "\n")

/-- Tables of scalars, with blank lines between them. -/
def sectionsText (sections : List (String × Fields)) : String :=
  String.intercalate "\n" (sections.map fun (name, fields) => sectionText name fields)

end PromptBudget.Toml
