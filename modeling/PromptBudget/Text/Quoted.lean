import PromptBudget.Text.Printable

/-!
# PromptBudget — quoted text

A text is shown between quotes, on one line, so that every character in it can be told: quotes,
backslashes, line ends, tabs and NUL are escaped by a backslash, and any other character that cannot
be shown as it is by its number.
-/

namespace PromptBudget.Text

/-- A character between quotes. -/
def showChar (c : Char) : List Char :=
  match c with
  | '"' => ['\\', '"']
  | '\\' => ['\\', '\\']
  | '\n' => ['\\', 'n']
  | '\r' => ['\\', 'r']
  | '\t' => ['\\', 't']
  | '\x00' => ['\\', '0']
  | c => if isPrintable c then [c] else ['\\', 'u', '\x7b'] ++ Nat.toDigits 16 c.toNat ++ ['\x7d']

/-- A text between quotes. -/
def quoted (text : String) : String :=
  String.ofList (['"'] ++ text.toList.flatMap showChar ++ ['"'])

/-- Items in brackets. -/
def bracketed (items : List String) : String :=
  "[" ++ String.intercalate ", " items ++ "]"

/-- A record with named fields. -/
def labelled (name : String) (fields : List (String × String)) : String :=
  name ++ " \x7b " ++ String.intercalate ", " (fields.map fun (label, value) => label ++ ": " ++ value) ++ " \x7d"

end PromptBudget.Text
