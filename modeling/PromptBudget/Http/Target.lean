import PromptBudget.Json.Reader

/-!
# PromptBudget — what a URL asks a server for

The target of an HTTP request is the path and query of its URL. Segments of dots are resolved,
backslashes are taken for slashes, and characters that cannot stand in a target are written as
percent signs with the hexadecimal form of their bytes.
-/

namespace PromptBudget.Http

/-- Whether a character separates segments. -/
def isSlash (c : Char) : Bool := c == '/' || c == '\\'

/-- Whether a character is a control character or the space. -/
def isControlOrSpace (c : Char) : Bool := c.toNat ≤ 0x20

/-- A URL without control characters and spaces around it, and without tabs and line ends in it. -/
def cleaned (url : List Char) : List Char :=
  let inner := ((url.dropWhile isControlOrSpace).reverse.dropWhile isControlOrSpace).reverse
  inner.filter fun c => c != '\t' && c != '\n' && c != '\r'

/-- What follows the scheme of a URL and the slashes after it, if it is one of HTTP. -/
def afterScheme? (url : List Char) : Option (List Char) :=
  let scheme := (url.takeWhile (· != ':')).map Char.toLower
  let rest := (url.dropWhile (· != ':')).drop 1
  if scheme == "http".toList || scheme == "https".toList then some (rest.dropWhile isSlash) else none

/-- Whether a character ends the name of a server. -/
def endsAuthority (c : Char) : Bool := isSlash c || c == '?' || c == '#'

/-- Whether a text is the number of a socket: nothing, or a number of 16 bits. -/
def isSocketNumber (text : List Char) : Bool :=
  text.all Char.isDigit && text.foldl (fun n c => n * 10 + (c.toNat - 48)) 0 < 65536

/-- Whether a text names a server, perhaps with the number of a socket. -/
def isAuthority (text : List Char) : Bool :=
  let host := text.takeWhile (· != ':')
  !host.isEmpty && isSocketNumber ((text.dropWhile (· != ':')).drop 1)

/-! ## Percent signs -/

/-- Bytes as percent signs with two hexadecimal digits each. -/
def percentBytes (bytes : List UInt8) : List Char :=
  bytes.flatMap fun b =>
    ['%', (Nat.digitChar (b.toNat / 16)).toUpper, (Nat.digitChar (b.toNat % 16)).toUpper]

/-- A text where the characters that may not stand in it, and all beyond ASCII, are given by their bytes. -/
def percentEncode (reserved : List Char) (text : List Char) : List Char :=
  text.flatMap fun c =>
    if c.toNat ≤ 0x20 || 0x7E < c.toNat || reserved.contains c then percentBytes (Json.charBytes c) else [c]

/-- What may not stand in a segment of a path. -/
def pathReserved : List Char := ['"', '#', '<', '>', '?', '\x60', '\x7b', '\x7d']

/-- What may not stand in a query. -/
def queryReserved : List Char := ['"', '#', '<', '>', '\'']

/-! ## Segments -/

/-- The segments of a path without its first slash. -/
def segments : List Char → List (List Char)
  | [] => [[]]
  | c :: rest =>
    if isSlash c then [] :: segments rest
    else
      match segments rest with
      | [] => [[c]]
      | first :: more => (c :: first) :: more

/-- A segment where percent signs that stand for dots are dots. -/
def withDots : List Char → List Char
  | '%' :: '2' :: e :: rest => if e == 'e' || e == 'E' then '.' :: withDots rest else '%' :: '2' :: e :: withDots rest
  | c :: rest => c :: withDots rest
  | [] => []

/-- Resolves the segments of dots, given the segments before them, the last first. -/
def resolve : List (List Char) → List (List Char) → List (List Char)
  | before, [] => before.reverse
  | before, segment :: rest =>
    let dots := withDots segment
    if dots == ['.', '.'] then
      if rest.isEmpty then ([] :: before.tail).reverse else resolve before.tail rest
    else if dots == ['.'] then
      if rest.isEmpty then ([] :: before).reverse else resolve before rest
    else resolve (percentEncode pathReserved segment :: before) rest

/-- A path as it is asked for. -/
def normalPath (path : List Char) : List Char :=
  (resolve [] (segments (path.drop 1))).flatMap fun segment => '/' :: segment

/-- What a URL asks a server for; `none` if it is no URL of HTTP. -/
def target? (url : String) : Option String := do
  let rest ← afterScheme? (cleaned url.toList)
  guard (isAuthority (rest.takeWhile fun c => !endsAuthority c))
  let asked := (rest.dropWhile fun c => !endsAuthority c).takeWhile (· != '#')
  let query := asked.dropWhile (· != '?')
  let path := normalPath (asked.takeWhile (· != '?'))
  return String.ofList (path ++ query.take 1 ++ percentEncode queryReserved (query.drop 1))

end PromptBudget.Http
