import PromptBudget.Chat.Message
import PromptBudget.Json.Record

/-!
# PromptBudget — messages in JSON

A message is an object with a `role` and a `content`; a missing or null content is the empty text.
Content is a string or an array of blocks. Known fields must not be given twice, and of any other
field that is, the last one counts. Blocks leave out an empty text and a missing hint when written.

Main statement:

* `Role.decode?_encode` — a role that is written is read back.
-/

namespace PromptBudget

open Json

/-! ## Roles -/

/-- The role with a name. -/
def Role.ofName? : String → Option Role
  | "system" => some .system
  | "user" => some .user
  | "assistant" => some .assistant
  | "tool" => some .tool
  | _ => none

/-- A role in JSON. -/
def Role.encode (r : Role) : Json := .string r.name

/-- The role that a value writes. -/
def Role.decode? (value : Json) : Option Role :=
  (variant? .json value).bind Role.ofName?

theorem Role.decode?_encode (r : Role) : Role.decode? r.encode = some r := by
  cases r <;> rfl

/-! ## Blocks -/

/-- A kind of block in JSON. -/
def Block.Kind.encode : Block.Kind → Json
  | .text => .string "text"
  | .image => .string "image_url"

/-- The kind of block that a value writes. -/
def Block.Kind.decode? (value : Json) : Option Block.Kind :=
  match variant? .json value with
  | some "text" => some .text
  | some "image_url" => some .image
  | _ => none

/-- Where a cache hint stands: inside a list of blocks its kind may also be given by its number. -/
inductive CacheHint.Place where
  | alone
  | insideContent
  deriving DecidableEq

/-- The hint with a kind. -/
def CacheHint.ofKind? (place : Place) (kind : Json) : Option CacheHint :=
  if kind == .string "ephemeral" || (place == .insideContent && kind == Json.nat 0) then some .ephemeral
  else none

/-- A cache hint in JSON. -/
def CacheHint.encode : CacheHint → Json
  | .ephemeral => .object [("type", .string "ephemeral")]

/-- The cache hint that a value writes: an object with its kind, or an array of the kind alone. -/
def CacheHint.decode? (place : Place) : Json → Option CacheHint
  | .object fields => if occurrences "type" fields = 1 then (lookup "type" fields).bind (ofKind? place) else none
  | .array [kind] => ofKind? place kind
  | _ => none

/-- The known fields of a block. -/
def Block.fieldNames : List String := ["type", "text", "cache_control"]

/-- Whether no known field is given twice. -/
def noneTwice (names : List String) (fields : List (String × Json)) : Bool :=
  names.all fun name => occurrences name fields ≤ 1

/-- The fields other than the known ones. -/
def extrasOf (names : List String) (fields : List (String × Json)) : Extras :=
  .ofFields (fields.filter fun field => !names.contains field.1)

/-- A block in JSON. -/
def Block.encode (b : Block) : Json :=
  .object ([("type", b.kind.encode)]
    ++ (if b.text.isEmpty then [] else [("text", .string b.text)])
    ++ (match b.cacheHint with
      | some hint => [("cache_control", hint.encode)]
      | none => [])
    ++ b.extras.fields)

/-- The block that a value writes. -/
def Block.decode? (place : CacheHint.Place) : Json → Option Block
  | .object fields => do
    guard (noneTwice fieldNames fields)
    let kind ← (lookup "type" fields).bind Block.Kind.decode?
    let text ← ((lookup "text" fields).elim (some "") asString?)
    let cacheHint ← ((lookup "cache_control" fields).elim (some none) (nullable (CacheHint.decode? place)))
    return { kind, text, cacheHint, extras := extrasOf fieldNames fields }
  | _ => none

/-! ## Content -/

/-- A content in JSON. -/
def Content.encode : Content → Json
  | .plain s => .string s
  | .blocks bs => .array (bs.map Block.encode)

/-- The content that a value writes. -/
def Content.decode? : Json → Option Content
  | .string s => some (.plain s)
  | .array items => (items.mapM (Block.decode? .insideContent)).map .blocks
  | _ => none

/-- The content that a value writes, where null is the empty text. -/
def Content.decodeNullable? : Json → Option Content
  | .null => some (.plain "")
  | value => Content.decode? value

/-! ## Messages -/

/-- The known fields of a message. -/
def Message.fieldNames : List String := ["role", "content"]

/-- A message in JSON. -/
def Message.encode (m : Message) : Json :=
  .object ([("role", m.role.encode), ("content", m.content.encode)] ++ m.extras.fields)

/-- The message that a value writes. -/
def Message.decode? : Json → Option Message
  | .object fields => do
    guard (noneTwice fieldNames fields)
    let role ← (lookup "role" fields).bind Role.decode?
    let content ← ((lookup "content" fields).elim (some (.plain "")) Content.decodeNullable?)
    return { role, content, extras := extrasOf fieldNames fields }
  | _ => none

/-- The list of messages that a value writes. -/
def Message.decodeList? : Json → Option (List Message)
  | .array items => items.mapM Message.decode?
  | _ => none

end PromptBudget
