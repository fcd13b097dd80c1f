import PromptBudget.Toml.Table

/-!
# PromptBudget — scalars of a TOML document

Scanners for what has no parts: blanks and comments, strings in their four forms, dates and times,
and numbers. Each takes characters off the front of a text and gives what they stand for with the
rest, or nothing if the text does not start like that.
-/

namespace PromptBudget.Toml.Scan

/-- A scanner. -/
abbrev Scanner (α : Type) := List Char → Option (α × List Char)

/-! ## Blanks, line ends and comments -/

/-- Whether a character is a blank inside a line. -/
def isInlineBlank (c : Char) : Bool := c == ' ' || c == '\t'

/-- The text after its leading blanks. -/
def skipBlanks (text : List Char) : List Char := text.dropWhile isInlineBlank

/-- Whether a character may stand in a comment or, unless it delimits the string, in a string. -/
def isShown (c : Char) : Bool := c == '\t' || (0x20 ≤ c.toNat && c.toNat != 0x7F)

/-- The text after a line end. -/
def newline? : List Char → Option (List Char)
  | '\n' :: rest => some rest
  | '\r' :: '\n' :: rest => some rest
  | _ => none

/-- The text after a comment, if it starts with one. -/
def skipComment : List Char → List Char
  | '#' :: rest => rest.dropWhile isShown
  | text => text

/-- The text after the end of a line, in front of which blanks and a comment may be. -/
def endOfLine? (text : List Char) : Option (List Char) :=
  match skipComment (skipBlanks text) with
  | [] => some []
  | rest => newline? rest

/-- The text after blanks, line ends and comments, of which it takes so many at most. -/
def skipLines : Nat → List Char → List Char
  | 0, text => text
  | fuel + 1, text =>
    match newline? (skipComment (skipBlanks text)) with
    | some rest => skipLines fuel rest
    | none => skipBlanks text

/-! ## Strings -/

/-- The value of a hexadecimal digit. -/
def hexValue? (c : Char) : Option Nat :=
  if '0' ≤ c && c ≤ '9' then some (c.toNat - 0x30)
  else if 'A' ≤ c && c ≤ 'F' then some (c.toNat - 0x37)
  else if 'a' ≤ c && c ≤ 'f' then some (c.toNat - 0x57)
  else none

/-- The character whose number is written by hexadecimal digits; none for half a surrogate pair. -/
def charOfHex? (digits : List Char) : Option Char := do
  let values ← digits.mapM hexValue?
  let n := values.foldl (fun n d => n * 16 + d) 0
  if n < 0xD800 || (0xDFFF < n && n < 0x110000) then some (Char.ofNat n) else none

/-- The character of a single letter after a backslash. -/
def shortEscape? : Char → Option Char
  | 'b' => some '\x08'
  | 't' => some '\t'
  | 'n' => some '\n'
  | 'f' => some '\x0c'
  | 'r' => some '\r'
  | '"' => some '"'
  | '\\' => some '\\'
  | _ => none

/-- Puts a character in front of what a scanner found. -/
def push (c : Char) (found : Option (List Char × List Char)) : Option (List Char × List Char) :=
  found.map fun (text, rest) => (c :: text, rest)

/-- The rest of a string between double quotes. -/
def basicString : Scanner (List Char)
  | [] => none
  | '"' :: rest => some ([], rest)
  | '\\' :: 'u' :: a :: b :: c :: d :: rest => do push (← charOfHex? [a, b, c, d]) (basicString rest)
  | '\\' :: 'U' :: a :: b :: c :: d :: e :: f :: g :: h :: rest => do
    push (← charOfHex? [a, b, c, d, e, f, g, h]) (basicString rest)
  | '\\' :: c :: rest => do push (← shortEscape? c) (basicString rest)
  | c :: rest => if isShown c && c != '\\' then push c (basicString rest) else none

/-- Whether a text is blank up to the end of its line. -/
def startsWithLineEnd (text : List Char) : Bool := (newline? (skipBlanks text)).isSome

/-- The rest of a string between three double quotes. After a backslash at the end of a line, blanks
and line ends are skipped. Of more than three quotes at the end, up to two belong to the string. -/
def longString (skipping : Bool) : Scanner (List Char)
  | [] => none
  | '\n' :: rest => if skipping then longString true rest else push '\n' (longString false rest)
  | '\r' :: '\n' :: rest => if skipping then longString true rest else push '\n' (longString false rest)
  | '"' :: '"' :: '"' :: '"' :: '"' :: rest => some (['"', '"'], rest)
  | '"' :: '"' :: '"' :: '"' :: rest => some (['"'], rest)
  | '"' :: '"' :: '"' :: rest => some ([], rest)
  | '\\' :: 'u' :: a :: b :: c :: d :: rest => do push (← charOfHex? [a, b, c, d]) (longString false rest)
  | '\\' :: 'U' :: a :: b :: c :: d :: e :: f :: g :: h :: rest => do
    push (← charOfHex? [a, b, c, d, e, f, g, h]) (longString false rest)
  | '\\' :: c :: rest =>
    if startsWithLineEnd (c :: rest) then
      if c == '\n' || isInlineBlank c then longString true rest
      else
        match rest with
        | _ :: rest => longString true rest
        | [] => none
    else do push (← shortEscape? c) (longString false rest)
  | c :: rest =>
    if skipping && isInlineBlank c then longString true rest
    else if isShown c && c != '\\' then push c (longString false rest)
    else none

/-- The rest of a string between single quotes. -/
def literalString : Scanner (List Char)
  | [] => none
  | '\'' :: rest => some ([], rest)
  | c :: rest => if isShown c then push c (literalString rest) else none

/-- The rest of a string between three single quotes. -/
def longLiteral : Scanner (List Char)
  | [] => none
  | '\r' :: '\n' :: rest => push '\n' (longLiteral rest)
  | '\n' :: rest => push '\n' (longLiteral rest)
  | '\'' :: '\'' :: '\'' :: '\'' :: '\'' :: rest => some (['\'', '\''], rest)
  | '\'' :: '\'' :: '\'' :: '\'' :: rest => some (['\''], rest)
  | '\'' :: '\'' :: '\'' :: rest => some ([], rest)
  | c :: rest => if isShown c then push c (longLiteral rest) else none

/-- The text without a line end at its start. -/
def skipNewline (text : List Char) : List Char := (newline? text).getD text

/-- A string on one line. -/
def shortQuoted : Scanner (List Char)
  | '"' :: rest => basicString rest
  | '\'' :: rest => literalString rest
  | _ => none

/-- A string in any form. -/
def quoted : Scanner (List Char)
  | '"' :: '"' :: '"' :: rest => longString false (skipNewline rest)
  | '\'' :: '\'' :: '\'' :: rest => longLiteral (skipNewline rest)
  | text => shortQuoted text

/-! ## Dates and times -/

/-- A number of exactly so many digits. -/
def fixedDigits : Nat → Nat → Scanner Nat
  | 0, n, text => some (n, text)
  | _ + 1, _, [] => none
  | count + 1, n, c :: rest => if c.isDigit then fixedDigits count (n * 10 + (c.toNat - 48)) rest else none

/-- A number of two digits between two bounds. -/
def twoDigits (low high : Nat) : Scanner Nat := fun text => do
  let (n, rest) ← fixedDigits 2 0 text
  if low ≤ n && n ≤ high then some (n, rest) else none

/-- The text after a character. -/
def expect (c : Char) : List Char → Option (List Char)
  | d :: rest => if d == c then some rest else none
  | [] => none

/-- How many days a month has. -/
def daysOf (year month : Nat) : Nat :=
  if month = 2 then (if year % 4 = 0 && (year % 100 != 0 || year % 400 = 0) then 29 else 28)
  else if [4, 6, 9, 11].contains month then 30
  else 31

/-- The text after a date. -/
def skipDate (text : List Char) : Option (List Char) := do
  let (year, rest) ← fixedDigits 4 0 text
  let (month, rest) ← twoDigits 1 12 (← expect '-' rest)
  let (day, rest) ← twoDigits 1 31 (← expect '-' rest)
  if day ≤ daysOf year month then some rest else none

/-- The text after a fraction of a second, if it starts with one. -/
def skipFraction : List Char → List Char
  | '.' :: c :: rest => if c.isDigit then rest.dropWhile Char.isDigit else '.' :: c :: rest
  | text => text

/-- The text after a time of day. -/
def skipTime (text : List Char) : Option (List Char) := do
  let (_, rest) ← twoDigits 0 23 text
  let (_, rest) ← twoDigits 0 59 (← expect ':' rest)
  let (_, rest) ← twoDigits 0 60 (← expect ':' rest)
  some (skipFraction rest)

/-- The text after an offset from universal time, if it starts with one. -/
def skipOffset (text : List Char) : List Char :=
  let offset? : Option (List Char) := match text with
    | 'Z' :: rest | 'z' :: rest => some rest
    | '+' :: rest | '-' :: rest => do
      let (_, rest) ← twoDigits 0 23 rest
      let (_, rest) ← twoDigits 0 59 (← expect ':' rest)
      some rest
    | _ => none
  offset?.getD text

/-- The text after a time of day and an offset that follow a date, if it starts with them. -/
def skipTimeOfDate (text : List Char) : List Char :=
  match text with
  | c :: rest =>
    if c == 'T' || c == 't' || c == ' ' then ((skipTime rest).map skipOffset).getD text else text
  | [] => []

/-- A date, a time, or both. -/
def moment : Scanner Toml := fun text => do
  let rest ← ((skipDate text).map skipTimeOfDate) <|> skipTime text
  some (.moment (String.ofList (text.take (text.length - rest.length))), rest)

/-! ## Numbers -/

/-- Takes digits of a kind, between which there may be single underscores, up to anything else. -/
def moreDigits (isDigit : Char → Bool) : List Char → List Char × List Char
  | [] => ([], [])
  | [c] => if isDigit c then ([c], []) else ([], [c])
  | '_' :: c :: rest =>
    if isDigit c then
      let (digits, left) := moreDigits isDigit rest
      (c :: digits, left)
    else ([], '_' :: c :: rest)
  | c :: rest =>
    if isDigit c then
      let (digits, left) := moreDigits isDigit rest
      (c :: digits, left)
    else ([], c :: rest)

/-- Takes digits of a kind, at least one. -/
def digits (isDigit : Char → Bool) : Scanner (List Char)
  | [] => none
  | c :: rest =>
    if isDigit c then
      let (digits, left) := moreDigits isDigit rest
      some (c :: digits, left)
    else none

/-- Takes digits that start with a zero only if it is alone. -/
def wholeDigits : Scanner (List Char)
  | '0' :: rest => some (['0'], rest)
  | text => digits Char.isDigit text

/-- Takes a sign, if the text starts with one, and says whether it is a minus. -/
def sign : List Char → Bool × List Char
  | '-' :: rest => (true, rest)
  | '+' :: rest => (false, rest)
  | text => (false, text)

/-- The number written by digits in a base. -/
def numberOf (base : Nat) (digits : List Char) : Nat :=
  digits.foldl (fun n c => n * base + (hexValue? c).getD 0) 0

/-- Takes an exponent. -/
def exponent : Scanner Int
  | c :: rest =>
    if c == 'e' || c == 'E' then do
      let (negative, rest) := sign rest
      let (digits, left) ← digits Char.isDigit rest
      let n : Int := numberOf 10 digits
      some (if negative then -n else n, left)
    else none
  | [] => none

/-- Takes a fraction and perhaps an exponent, or an exponent alone. -/
def fractionAndExponent : Scanner (List Char × Int)
  | '.' :: rest => do
    let (fraction, rest) ← digits Char.isDigit rest
    match exponent rest with
    | some (n, left) => some ((fraction, n), left)
    | none => some ((fraction, 0), rest)
  | text => do
    let (n, left) ← exponent text
    some (([], n), left)

/-- Takes a decimal number with a fraction or an exponent. One too great for the format is refused,
unless it is negative. -/
def decimalFloat : Scanner Toml := fun text => do
  let (negative, rest) := sign text
  let (whole, rest) ← wholeDigits rest
  let ((fraction, n), left) ← fractionAndExponent rest
  let x := Floating.ofDecimal Floating.double negative (numberOf 10 (whole ++ fraction)) (n - fraction.length)
  if x = .infinite false then none else some (.float x, left)

/-- The text after a word. -/
def word (w : List Char) (text : List Char) : Option (List Char) :=
  if w.isPrefixOf text then some (text.drop w.length) else none

/-- Takes infinity or the undefined number. -/
def specialFloat : Scanner Toml := fun text =>
  let (negative, rest) := sign text
  match word ['i', 'n', 'f'] rest with
  | some left => some (.float (.infinite negative), left)
  | none => (word ['n', 'a', 'n'] rest).map fun left => (.float .undefined, left)

/-- Whether a character is a digit in a base. -/
def isDigitIn (base : Nat) (c : Char) : Bool := (hexValue? c).any (· < base)

/-- The base that a letter after a zero names. -/
def baseOf? : Char → Option Nat
  | 'x' => some 16
  | 'o' => some 8
  | 'b' => some 2
  | _ => none

/-- Takes a whole number in decimal. -/
def decimalInteger : Scanner Toml := fun text => do
  let (negative, rest) := sign text
  let (whole, left) ← wholeDigits rest
  let n : Int := if negative then -(numberOf 10 whole : Int) else numberOf 10 whole
  if -(twoPow 63) ≤ n && n < twoPow 63 then some (.integer n, left) else none

/-- Takes a whole number of 64 bits. -/
def integer : Scanner Toml := fun text =>
  match text with
  | '0' :: c :: rest =>
    match baseOf? c with
    | none => decimalInteger text
    | some base => do
      let (whole, left) ← digits (isDigitIn base) rest
      let n := numberOf base whole
      if n < twoPow 63 then some (.integer n, left) else none
  | _ => decimalInteger text

/-- Takes a value that starts with a digit or a sign. -/
def numeric : Scanner Toml := fun text =>
  moment text <|> decimalFloat text <|> specialFloat text <|> integer text

/-! ## Scalars -/

/-- Takes a value without parts. -/
def scalar : Scanner Toml := fun text =>
  match text with
  | [] => none
  | c :: _ =>
    if c == '"' || c == '\'' then (quoted text).map fun (s, left) => (.string (String.ofList s), left)
    else if c == 't' then (word "true".toList text).map fun left => (.boolean true, left)
    else if c == 'f' then (word "false".toList text).map fun left => (.boolean false, left)
    else numeric text

end PromptBudget.Toml.Scan
