import PromptBudget.Text.Utf8
import PromptBudget.Toml.Scalar

/-!
# PromptBudget — reading TOML

A document is read line by line. A line is blank, opens a table by a header, or gives a key of the
table opened last. Values in brackets and braces may be nested 79 deep, and a dotted key has at most
79 parts.
-/

namespace PromptBudget.Toml

open Scan

/-- How many levels of nesting and how many parts of a key there may be. -/
def maxLevels : Nat := 79

/-! ## Keys -/

/-- Whether a character may stand in a key without quotes. -/
def isKeyChar (c : Char) : Bool :=
  c.isAlphanum || c == '-' || c == '_'

/-- Takes one part of a key. -/
def keyPart : Scanner String := fun text =>
  match text with
  | '"' :: _ | '\'' :: _ => (shortQuoted text).map fun (s, left) => (String.ofList s, left)
  | _ =>
    let key := text.takeWhile isKeyChar
    if key.isEmpty then none else some (String.ofList key, text.dropWhile isKeyChar)

/-- Takes the parts of a key that follow dots, so many at most. -/
def keyRest : Nat → Scanner (List String)
  | 0, text => some ([], text)
  | fuel + 1, text =>
    match skipBlanks text with
    | '.' :: rest => do
      let (part, left) ← keyPart (skipBlanks rest)
      let (more, left) ← keyRest fuel left
      some (part :: more, left)
    | left => some ([], left)

/-- Takes a key: its path and its last part. -/
def key : Scanner (List String × String) := fun text => do
  let (first, rest) ← keyPart (skipBlanks text)
  let (more, left) ← keyRest (maxLevels + 1) rest
  let parts := first :: more
  if maxLevels < parts.length then none
  else some ((parts.dropLast, parts.getLast?.getD first), left)

/-! ## Values -/

/-- Takes the rest of an array between brackets, where `item` takes its items; so many at most. -/
def arrayRest (item : Scanner Toml) : Nat → Scanner (List Toml)
  | 0, _ => none
  | fuel + 1, text =>
    match skipLines text.length text with
    | ']' :: rest => some ([], rest)
    | start => do
      let (value, rest) ← item start
      match skipLines rest.length rest with
      | ']' :: rest => some ([value], rest)
      | ',' :: rest => do
        let (more, left) ← arrayRest item fuel rest
        some (value :: more, left)
      | _ => none

/-- Takes a key, an equals sign and a value. -/
def assignment (item : Scanner Toml) : Scanner (List String × String × Toml) := fun text => do
  let ((path, name), rest) ← key text
  let rest ← expect '=' (skipBlanks rest)
  let (value, left) ← item (skipBlanks rest)
  some ((path, name, value), left)

/-- Takes the rest of a table between braces after its first field, so many fields at most. -/
def bracesRest (item : Scanner Toml) : Nat → Fields → Scanner Fields
  | 0, _, _ => none
  | fuel + 1, fields, text =>
    match skipBlanks text with
    | '\x7d' :: rest => some (fields, rest)
    | ',' :: rest => do
      let ((path, name, value), left) ← assignment item rest
      let fields ← addField path name value fields
      bracesRest item fuel fields left
    | _ => none

/-- Takes the rest of a table between braces. -/
def braces (item : Scanner Toml) : Scanner Fields := fun text =>
  match skipBlanks text with
  | '\x7d' :: rest => some ([], rest)
  | start => do
    let ((path, name, value), left) ← assignment item start
    let fields ← addField path name value []
    bracesRest item left.length fields left

/-- Takes a value with so many levels of nesting. -/
def value : Nat → Scanner Toml
  | 0, text => scalar text
  | levels + 1, text =>
    match text with
    | '[' :: rest => (arrayRest (value levels) (rest.length + 1) rest).map fun (items, left) => (.array items, left)
    | '\x7b' :: rest => (braces (value levels) rest).map fun (fields, left) => (.table .braces fields, left)
    | _ => scalar text

/-! ## Documents -/

/-- A document of which some lines have been read. -/
structure Partial where
  /-- The table of the whole document. -/
  root : Fields := []
  /-- The path to the table that was opened last. -/
  current : List String := []

/-- Reads the header of a table, after its opening brackets. -/
def Partial.header (p : Partial) (isElement : Bool) (text : List Char) : Option (Partial × List Char) := do
  let ((path, name), rest) ← key text
  let rest ← expect ']' (skipBlanks rest)
  let rest ← if isElement then expect ']' rest else some rest
  let rest ← endOfLine? rest
  let edit := if isElement then openElement name else openTable name
  let root ← editAt .header edit .header path p.root
  some ({ root, current := path ++ [name] }, rest)

/-- Reads a key of the table that was opened last. -/
def Partial.field (p : Partial) (text : List Char) : Option (Partial × List Char) := do
  let ((path, name, v), rest) ← assignment (value maxLevels) text
  let rest ← endOfLine? rest
  let root ← editAt .header (fun _ fields => addField path name v fields) .header p.current p.root
  some ({ p with root }, rest)

/-- Reads a line that holds something. -/
def Partial.line (p : Partial) (text : List Char) : Option (Partial × List Char) :=
  match text with
  | '[' :: '[' :: rest => p.header true rest
  | '[' :: rest => p.header false rest
  | '#' :: _ | '\n' :: _ | '\r' :: _ => (endOfLine? text).map fun rest => (p, rest)
  | _ => p.field text

/-- Reads lines, so many at most. -/
def Partial.lines : Nat → Partial → List Char → Option Fields
  | 0, _, _ => none
  | fuel + 1, p, text =>
    match skipBlanks text with
    | [] => some p.root
    | start => do
      let (p, rest) ← p.line start
      lines fuel p rest

/-- The text without a byte order mark at its start. -/
def skipByteOrderMark : List Char → List Char
  | '\uFEFF' :: rest => rest
  | text => text

/-- The document of a text. -/
def document? (text : String) : Option Fields :=
  let start := skipByteOrderMark text.toList
  Partial.lines (start.length + 1) {} start

end PromptBudget.Toml
