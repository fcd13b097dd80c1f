import PromptBudget.Json.Reader
import PromptBudget.Number.Decimal

/-!
# PromptBudget — records in JSON

A record with known fields is written as an object, where fields with other names are passed over,
or as an array of the fields in their order. A known field must not be given twice. What a document
format says about the two loose ends, elements past the last field and the payload of a variant
without one, is a `Dialect`.

Main statement:

* `record?_object` — a record written as an object has the values of the known fields.
-/

namespace PromptBudget.Json

/-! ## Scalars -/

/-- A text. -/
def asString? : Json → Option String
  | .string s => some s
  | _ => none

/-- A truth value. -/
def asBool? : Json → Option Bool
  | .bool b => some b
  | _ => none

/-- A natural number of so many bits. -/
def asNat? (bits : Nat) : Json → Option Nat
  | .number (.int n) => if 0 ≤ n && n < twoPow bits then some n.toNat else none
  | _ => none

theorem asNat?_nat {bits n : Nat} (h : n < twoPow bits) : asNat? bits (Json.nat n) = some n := by
  have hbound : (n : Int) < twoPow bits := by exact_mod_cast h
  simp [asNat?, Json.nat, hbound]

/-- A number, as the nearest one in the format with 32 bits. -/
def asSingle? : Json → Option Floating
  | .number (.int n) => some (Floating.ofInt Floating.single n)
  | .number (.float x) => some (Floating.convert Floating.single x)
  | _ => none

/-- A number of the format with 32 bits, as the number of 64 bits with the same shortest decimal;
null if it is infinite or undefined. -/
def single : Floating → Json
  | .finite negative significand exponent =>
    let d := Decimal.shortest Floating.single significand exponent
    .number (.float (Floating.ofDecimal Floating.double negative d.coefficient d.exponent))
  | .infinite _ | .undefined => .null

/-! ## Containers -/

/-- A document seen as a container: what is neither a list nor a map, or has keys that are no text, is neither. -/
inductive Shape (Doc : Type) where
  | list (items : List Doc)
  | map (fields : List (String × Doc))
  | other

/-- The container that a value is. -/
def shape : Json → Shape Json
  | .array items => .list items
  | .object fields => .map fields
  | _ => .other

/-- The keys of an object, read. -/
def Draft.readKeys? (fields : List (List UInt8 × Draft)) : Option (List (String × Draft)) :=
  fields.mapM fun (key, draft) => (textOf? key).map fun key => (key, draft)

/-- The container that a draft is. -/
def Draft.shape : Draft → Shape Draft
  | .array items => .list items
  | .object fields =>
    match readKeys? fields with
    | some fields => .map fields
    | none => .other
  | _ => .other

/-- A list of documents, each decoded. -/
def Shape.listOf? (decode : Doc → Option α) : Shape Doc → Option (List α)
  | .list items => items.mapM decode
  | _ => none

/-! ## Records -/

/-- What a document format admits in records and variants. -/
structure Dialect where
  /-- Whether an array may have elements past the last field of a record. -/
  surplus : Bool
  /-- Whether a value may be the payload of a variant without one. -/
  isUnit : Json → Bool

/-- JSON admits no elements past the last field, and null as the payload. -/
def Dialect.json : Dialect := ⟨false, (· == .null)⟩

/-- The fields of a record that are given. -/
structure Record (Doc : Type) where
  /-- Whether the record is written as an array. -/
  listed : Bool
  /-- The fields that are given, with their names. -/
  fields : List (String × Doc)

/-- How often a key occurs. -/
def occurrences (key : String) (fields : List (String × α)) : Nat :=
  fields.countP (·.1 == key)

/-- The record that a container writes. -/
def record? (dialect : Dialect) (names : List String) : Shape Doc → Option (Record Doc)
  | .map fields =>
    if names.all fun name => occurrences name fields ≤ 1 then
      some ⟨false, fields.filter fun field => names.contains field.1⟩
    else none
  | .list items =>
    if items.length ≤ names.length || dialect.surplus then some ⟨true, names.zip items⟩ else none
  | .other => none

namespace Record

/-- The value of a field. -/
def get? (record : Record Doc) (name : String) : Option Doc :=
  lookup name record.fields

/-- A field that must be given. -/
def required (record : Record Doc) (name : String) (decode : Doc → Option α) : Option α :=
  (record.get? name).bind decode

/-- A field with a default. -/
def withDefault (record : Record Doc) (name : String) (decode : Doc → Option α) (default : α) : Option α :=
  match record.get? name with
  | some value => decode value
  | none => some default

end Record

/-- Reads null as the absence of a value. -/
def nullable (decode : Json → Option α) : Json → Option (Option α)
  | .null => some none
  | value => (decode value).map some

/-- The name of a variant without payload: a text, or an object with that name as its only key. -/
def variant? (dialect : Dialect) : Json → Option String
  | .string name => some name
  | .object [(name, payload)] => if dialect.isUnit payload then some name else none
  | _ => none

theorem lookup_filter (p : String → Bool) (key : String) (fields : List (String × α)) (h : p key = true) :
    lookup key (fields.filter fun field => p field.1) = lookup key fields := by
  induction fields with
  | nil => rfl
  | cons field rest ih =>
    obtain ⟨k, v⟩ := field
    by_cases hk : k = key
    · subst hk; simp [h, lookup]
    · by_cases hp : p k = true
      · simp [hp, lookup, hk, ih]
      · simp [hp, lookup, hk, ih]

theorem record?_object {dialect : Dialect} {names : List String} {fields : List (String × Doc)} {record : Record Doc}
    (h : record? dialect names (.map fields) = some record) (name : String) (hname : names.contains name = true) :
    record.get? name = lookup name fields := by
  simp only [record?] at h
  split at h
  · obtain rfl := Option.some.inj h
    exact lookup_filter names.contains name fields hname
  · simp at h

end PromptBudget.Json
