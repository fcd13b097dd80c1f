import PromptBudget.Json.Token

/-!
# PromptBudget — drafts of JSON documents

A draft is the shape of a JSON document: its containers and, unread, its numbers and strings. It is
built from tokens by an automaton with a stack of open containers, one step for each token, so any
sequence of tokens is read in one pass.
-/

namespace PromptBudget.Json

/-- A document of which numbers and strings are still as written. -/
inductive Draft where
  | null
  | bool (b : Bool)
  | number (literal : Literal)
  | string (raw : List UInt8)
  | array (items : List Draft)
  | object (fields : List (List UInt8 × Draft))
  deriving Repr, Inhabited

namespace Draft

/-- A container that is still open, with what it holds so far, the last first. -/
inductive Frame where
  /-- An array and its items. -/
  | items (done : List Draft)
  /-- An object, its fields, and the key whose value is being read. -/
  | fields (done : List (List UInt8 × Draft)) (key : List UInt8)

/-- What may come next. -/
inductive Position where
  /-- A value, or the end of an array that has just been opened. -/
  | value (fresh : Bool) (stack : List Frame)
  /-- A key, or the end of an object that has just been opened. -/
  | key (fresh : Bool) (done : List (List UInt8 × Draft)) (stack : List Frame)
  /-- The colon after a key. -/
  | colon (done : List (List UInt8 × Draft)) (key : List UInt8) (stack : List Frame)
  /-- A comma or the end of a container, after a value in it. -/
  | after (value : Draft) (stack : List Frame)

/-- The position after a token. -/
def Position.step : Position → Token → Option Position
  | .value _ stack, .null => some (.after .null stack)
  | .value _ stack, .bool b => some (.after (.bool b) stack)
  | .value _ stack, .number literal => some (.after (.number literal) stack)
  | .value _ stack, .string raw => some (.after (.string raw) stack)
  | .value _ stack, .mark .openArray => some (.value true (.items [] :: stack))
  | .value _ stack, .mark .openObject => some (.key true [] stack)
  | .value true (.items [] :: stack), .mark .closeArray => some (.after (.array []) stack)
  | .key _ done stack, .string raw => some (.colon done raw stack)
  | .key true _ stack, .mark .closeObject => some (.after (.object []) stack)
  | .colon done k stack, .mark .colon => some (.value false (.fields done k :: stack))
  | .after v (.items done :: stack), .mark .comma => some (.value false (.items (v :: done) :: stack))
  | .after v (.items done :: stack), .mark .closeArray => some (.after (.array (v :: done).reverse) stack)
  | .after v (.fields done k :: stack), .mark .comma => some (.key false ((k, v) :: done) stack)
  | .after v (.fields done k :: stack), .mark .closeObject =>
    some (.after (.object ((k, v) :: done).reverse) stack)
  | _, _ => none

/-- The document of which all tokens have been read. -/
def Position.document? : Position → Option Draft
  | .after v [] => some v
  | _ => none

/-- The document of some tokens. -/
def ofTokens? (tokens : List Token) : Option Draft :=
  (tokens.foldlM Position.step (.value false [])).bind Position.document?

/-- The document of a text. -/
def read? (bytes : List UInt8) : Option Draft :=
  (tokens? bytes).bind ofTokens?

end Draft

end PromptBudget.Json
