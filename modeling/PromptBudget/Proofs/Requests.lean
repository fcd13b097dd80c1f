import Mathlib.Data.List.Duplicate
import PromptBudget.Chat.Input
import PromptBudget.Proofs.RoundTrip

/-!
# PromptBudget — which requests are read

A request has two forms: the array of the messages, or an object that gives this array as its
`messages`. The forms are tried one after the other, and so are the two forms of a content in every
message. No value has both forms of a request, so it does not matter which is tried first, and what
is wrong with a message in one of them is not hidden by the other.

What can be wrong with a message is said without a word about reading: `Message.Malformed` goes down
from the message to its role, its content, the blocks of the content and their fields. One malformed
message is enough for the request to be refused. Otherwise the messages are what their items are
when they are read alone, in order.

Main results:

* `Block.malformed_iff`, `Message.malformed_iff` — what is not read, exactly, is malformed.
* `requestMessages?_eq_some_iff`, `requestMessages?_eq_none_iff` — the messages of a request.
* `readMessages_forms` — the same for texts, for both forms.
-/

namespace PromptBudget

open Json

-- ---------------------------------------------------------------------------
-- Keys that are given once, and twice
-- ---------------------------------------------------------------------------

namespace Json

/-- The keys of some fields, in their order. -/
def keys (fields : List (String × α)) : List String := fields.map Prod.fst

/-- A key that is given once among some fields, with its value. -/
def Once (key : String) (value : α) (fields : List (String × α)) : Prop :=
  ∃ front back, fields = front ++ (key, value) :: back ∧ key ∉ keys front ∧ key ∉ keys back

variable {α : Type} {key : String} {value : α} {fields : List (String × α)}

theorem occurrences_eq_count (key : String) (fields : List (String × α)) :
    occurrences key fields = (keys fields).count key := by
  rw [keys, List.count, List.countP_map]
  rfl

theorem lookup_eq_none_iff_not_mem : lookup key fields = none ↔ key ∉ keys fields := by
  rw [lookup_eq_none_iff, occurrences_eq_count, List.count_eq_zero]

theorem mem_of_lookup (h : lookup key fields = some value) : (key, value) ∈ fields := by
  induction fields with
  | nil => cases h
  | cons field rest ih =>
    obtain ⟨k, v⟩ := field
    rw [lookup] at h
    split at h
    · next hk =>
      obtain rfl := Option.some.inj h
      exact hk ▸ List.mem_cons_self
    · exact List.mem_cons_of_mem _ (ih h)

theorem occurrences_around (key : String) (value : α) (front back : List (String × α)) :
    occurrences key (front ++ (key, value) :: back) =
      occurrences key front + occurrences key back + 1 := by
  have hone : occurrences key [(key, value)] = 1 := by simp [occurrences]
  rw [occurrences_append, ← List.singleton_append, occurrences_append, hone]
  omega

/-- A key that is not given twice has the value of any of its fields. -/
theorem lookup_of_mem (honce : occurrences key fields ≤ 1) (h : (key, value) ∈ fields) :
    lookup key fields = some value := by
  obtain ⟨front, back, rfl⟩ := List.append_of_mem h
  have hfirst : lookup key ((key, value) :: back) = some value := if_pos rfl
  have hfront : lookup key front = none := by
    rw [occurrences_around] at honce
    exact lookup_eq_none_iff.2 (by omega)
  rw [lookup_append, hfront, Option.none_or, hfirst]

theorem once_iff :
    Once key value fields ↔ occurrences key fields = 1 ∧ lookup key fields = some value := by
  constructor
  · rintro ⟨front, back, rfl, hfront, hback⟩
    rw [← lookup_eq_none_iff_not_mem, lookup_eq_none_iff] at hfront hback
    have hcount : occurrences key (front ++ (key, value) :: back) = 1 := by
      rw [occurrences_around, hfront, hback]
    exact ⟨hcount, lookup_of_mem (Nat.le_of_eq hcount)
      (List.mem_append_right front List.mem_cons_self)⟩
  · rintro ⟨hcount, hlookup⟩
    obtain ⟨front, back, rfl⟩ := List.append_of_mem (mem_of_lookup hlookup)
    rw [occurrences_around] at hcount
    refine ⟨front, back, rfl, ?_, ?_⟩
    all_goals
      rw [← lookup_eq_none_iff_not_mem, lookup_eq_none_iff]
      omega

end Json

theorem noneTwice_iff {names : List String} {fields : List (String × Json)} :
    noneTwice names fields = true ↔ ∀ name ∈ names, ¬ List.Duplicate name (keys fields) := by
  unfold noneTwice
  rw [List.all_eq_true]
  refine forall₂_congr fun name _ => ?_
  rw [decide_eq_true_iff, List.duplicate_iff_two_le_count, ← occurrences_eq_count]
  omega

theorem exists_duplicate_of_noneTwice {names : List String} {fields : List (String × Json)}
    (h : noneTwice names fields = false) : ∃ name ∈ names, List.Duplicate name (keys fields) := by
  by_contra hnone
  push Not at hnone
  rw [noneTwice_iff.2 hnone] at h
  cases h

section Field

variable {fields : List (String × Json)} {key : String} {decode : Json → Option α}
  (honce : occurrences key fields ≤ 1)
include honce

/-- A field that must be there is not read if it is missing, or if its value is not read. -/
theorem required_eq_none_iff : (lookup key fields).bind decode = none ↔
    key ∉ keys fields ∨ ∃ value, (key, value) ∈ fields ∧ decode value = none := by
  cases hlookup : lookup key fields with
  | none => exact ⟨fun _ => .inl (lookup_eq_none_iff_not_mem.1 hlookup), fun _ => rfl⟩
  | some value =>
    rw [Option.bind_some]
    constructor
    · exact fun h => .inr ⟨value, mem_of_lookup hlookup, h⟩
    · rintro (hmissing | ⟨other, hmem, h⟩)
      · rw [lookup_eq_none_iff_not_mem.2 hmissing] at hlookup
        cases hlookup
      · obtain rfl := Option.some.inj (hlookup.symm.trans (lookup_of_mem honce hmem))
        exact h

/-- A field with a default is not read if its value is not read. -/
theorem optional_eq_none_iff {default : α} :
    (lookup key fields).elim (some default) decode = none ↔
      ∃ value, (key, value) ∈ fields ∧ decode value = none := by
  cases hlookup : lookup key fields with
  | none =>
    refine ⟨nofun, fun ⟨value, hmem, _⟩ => ?_⟩
    rw [lookup_of_mem honce hmem] at hlookup
    cases hlookup
  | some value =>
    rw [Option.elim_some]
    constructor
    · exact fun h => ⟨value, mem_of_lookup hlookup, h⟩
    · rintro ⟨other, hmem, h⟩
      obtain rfl := Option.some.inj (hlookup.symm.trans (lookup_of_mem honce hmem))
      exact h

end Field

-- ---------------------------------------------------------------------------
-- Names and hints
-- ---------------------------------------------------------------------------

/-- A value is a name: its text, or an object with the name as its only key and null under it. -/
inductive IsName (name : String) : Json → Prop where
  | text : IsName name (.string name)
  | key : IsName name (.object [(name, .null)])

theorem variant?_json_eq_some {value : Json} {name : String} :
    variant? .json value = some name ↔ IsName name value := by
  constructor
  · intro h
    unfold variant? at h
    split at h
    · exact Option.some.inj h ▸ .text
    · next payload =>
      split at h
      · next hnull =>
        have hpayload : payload = .null := eq_of_beq hnull
        exact Option.some.inj h ▸ hpayload ▸ .key
      · cases h
    · cases h
  · rintro (_ | _)
    all_goals rfl

theorem Role.ofName?_eq_some {name : String} {role : Role} :
    ofName? name = some role ↔ name = role.name := by
  constructor
  · intro h
    unfold ofName? at h
    split at h
    all_goals cases h
    all_goals rfl
  · rintro rfl
    cases role <;> rfl

theorem Role.decode?_eq_some {value : Json} {role : Role} :
    decode? value = some role ↔ IsName role.name value := by
  rw [decode?, Option.bind_eq_some_iff, ← variant?_json_eq_some]
  constructor
  · rintro ⟨name, hname, hrole⟩
    rwa [← ofName?_eq_some.1 hrole]
  · exact fun h => ⟨role.name, h, ofName?_eq_some.2 rfl⟩

theorem Role.decode?_eq_none {value : Json} :
    decode? value = none ↔ ∀ role : Role, ¬ IsName role.name value := by
  rw [Option.eq_none_iff_forall_ne_some]
  exact forall_congr' fun role => not_congr decode?_eq_some

/-- The name of a kind of block. -/
def Block.Kind.name : Block.Kind → String
  | .text => "text"
  | .image => "image_url"

theorem Block.Kind.decode?_eq_some {value : Json} {kind : Block.Kind} :
    decode? value = some kind ↔ IsName kind.name value := by
  rw [← variant?_json_eq_some]
  constructor
  · intro h
    unfold decode? at h
    split at h
    · next hname => exact Option.some.inj h ▸ hname
    · next hname => exact Option.some.inj h ▸ hname
    · cases h
  · intro h
    rw [decode?, h]
    cases kind <;> rfl

theorem Block.Kind.decode?_eq_none {value : Json} :
    decode? value = none ↔ ∀ kind : Block.Kind, ¬ IsName kind.name value := by
  rw [Option.eq_none_iff_forall_ne_some]
  exact forall_congr' fun kind => not_congr decode?_eq_some

/-- A value is the hint that a block may have: an object that gives its kind once, by its name or
its number, or an array of the kind alone. -/
inductive IsHint : Json → Prop where
  | object {kind : Json} {fields : List (String × Json)}
      (hkind : kind = .string "ephemeral" ∨ kind = Json.nat 0) (honce : Once "type" kind fields) :
      IsHint (.object fields)
  | array {kind : Json} (hkind : kind = .string "ephemeral" ∨ kind = Json.nat 0) :
      IsHint (.array [kind])

theorem CacheHint.ofKind?_eq_some {kind : Json} {hint : CacheHint} :
    ofKind? .insideContent kind = some hint ↔
      kind = .string "ephemeral" ∨ kind = Json.nat 0 := by
  cases hint
  rw [ofKind?, Option.ite_none_right_eq_some, and_iff_left rfl]
  simp

theorem CacheHint.decode?_eq_some {value : Json} {hint : CacheHint} :
    decode? .insideContent value = some hint ↔ IsHint value := by
  constructor
  · intro h
    unfold decode? at h
    split at h
    · split at h
      · next honce =>
        obtain ⟨kind, hlookup, hkind⟩ := Option.bind_eq_some_iff.1 h
        exact .object (ofKind?_eq_some.1 hkind) (once_iff.2 ⟨honce, hlookup⟩)
      · cases h
    · exact .array (ofKind?_eq_some.1 h)
    · cases h
  · rintro (⟨hkind, honce⟩ | hkind)
    · obtain ⟨hcount, hlookup⟩ := once_iff.1 honce
      rw [decode?, if_pos hcount, hlookup, Option.bind_some, ofKind?_eq_some]
      exact hkind
    · exact ofKind?_eq_some.2 hkind

theorem CacheHint.nullable_decode?_eq_none {value : Json} :
    nullable (decode? .insideContent) value = none ↔ value ≠ .null ∧ ¬ IsHint value := by
  have hdecode : decode? .insideContent value = none ↔ ¬ IsHint value := by
    rw [Option.eq_none_iff_forall_ne_some]
    exact ⟨fun h hvalue => h .ephemeral (decode?_eq_some.2 hvalue),
      fun h hint hdecode => h (decode?_eq_some.1 hdecode)⟩
  unfold nullable
  split
  · exact ⟨nofun, fun h => absurd rfl h.1⟩
  · next hnull => rw [Option.map_eq_none_iff, hdecode, and_iff_right hnull]

theorem asString?_eq_none {value : Json} : asString? value = none ↔ ∀ s, value ≠ .string s := by
  cases value with
  | string s => exact ⟨nofun, fun h => absurd rfl (h s)⟩
  | _ => exact ⟨fun _ => nofun, fun _ => rfl⟩

-- ---------------------------------------------------------------------------
-- Malformed messages
-- ---------------------------------------------------------------------------

/-- What can be wrong with a block. -/
inductive Block.Malformed : Json → Prop where
  /-- It is no object. -/
  | noObject {value : Json} (h : ∀ fields, value ≠ .object fields) : Malformed value
  /-- A known field is given twice. -/
  | duplicate {fields : List (String × Json)} {name : String} (hname : name ∈ fieldNames)
      (h : List.Duplicate name (keys fields)) : Malformed (.object fields)
  /-- Its kind is not given. -/
  | noKind {fields : List (String × Json)} (h : "type" ∉ keys fields) : Malformed (.object fields)
  /-- Its kind is none. -/
  | kind {fields : List (String × Json)} {value : Json} (hmem : ("type", value) ∈ fields)
      (h : ∀ kind : Kind, ¬ IsName kind.name value) : Malformed (.object fields)
  /-- Its text is none. -/
  | text {fields : List (String × Json)} {value : Json} (hmem : ("text", value) ∈ fields)
      (h : ∀ s, value ≠ .string s) : Malformed (.object fields)
  /-- Its hint is none. -/
  | hint {fields : List (String × Json)} {value : Json} (hmem : ("cache_control", value) ∈ fields)
      (hnull : value ≠ .null) (h : ¬ IsHint value) : Malformed (.object fields)

/-- What can be wrong with a content. -/
inductive Content.Malformed : Json → Prop where
  /-- It is neither null nor a text nor an array. -/
  | form {value : Json} (hnull : value ≠ .null) (hstring : ∀ s, value ≠ .string s)
      (harray : ∀ items, value ≠ .array items) : Malformed value
  /-- One of its blocks is malformed. -/
  | block {items : List Json} {item : Json} (hmem : item ∈ items) (h : Block.Malformed item) :
      Malformed (.array items)

/-- What can be wrong with a message. -/
inductive Message.Malformed : Json → Prop where
  /-- It is no object. -/
  | noObject {value : Json} (h : ∀ fields, value ≠ .object fields) : Malformed value
  /-- A known field is given twice. -/
  | duplicate {fields : List (String × Json)} {name : String} (hname : name ∈ fieldNames)
      (h : List.Duplicate name (keys fields)) : Malformed (.object fields)
  /-- Its role is not given. -/
  | noRole {fields : List (String × Json)} (h : "role" ∉ keys fields) : Malformed (.object fields)
  /-- Its role is none. -/
  | role {fields : List (String × Json)} {value : Json} (hmem : ("role", value) ∈ fields)
      (h : ∀ role : Role, ¬ IsName role.name value) : Malformed (.object fields)
  /-- Its content is malformed. -/
  | content {fields : List (String × Json)} {value : Json} (hmem : ("content", value) ∈ fields)
      (h : Content.Malformed value) : Malformed (.object fields)

variable {value : Json}

namespace Block

theorem decode?_object_eq_none {place : CacheHint.Place} {fields : List (String × Json)} :
    decode? place (.object fields) = none ↔ noneTwice fieldNames fields = false ∨
      (lookup "type" fields).bind Kind.decode? = none ∨
      (lookup "text" fields).elim (some "") asString? = none ∨
      (lookup "cache_control" fields).elim (some none) (nullable (CacheHint.decode? place)) =
        none := by
  rw [decode?]
  cases noneTwice fieldNames fields
  · exact ⟨fun _ => .inl rfl, fun _ => rfl⟩
  cases (lookup "type" fields).bind Kind.decode?
  · exact ⟨fun _ => .inr (.inl rfl), fun _ => rfl⟩
  cases (lookup "text" fields).elim (some "") asString?
  · exact ⟨fun _ => .inr (.inr (.inl rfl)), fun _ => rfl⟩
  cases (lookup "cache_control" fields).elim (some none) (nullable (CacheHint.decode? place))
  · exact ⟨fun _ => .inr (.inr (.inr rfl)), fun _ => rfl⟩
  · exact ⟨nofun, nofun⟩

theorem malformed_iff : Malformed value ↔ decode? .insideContent value = none := by
  cases value with
  | object fields =>
    rw [decode?_object_eq_none]
    cases htwice : noneTwice fieldNames fields with
    | false =>
      obtain ⟨name, hname, hdup⟩ := exists_duplicate_of_noneTwice htwice
      exact ⟨fun _ => .inl rfl, fun _ => .duplicate hname hdup⟩
    | true =>
      have honce (name : String) (hname : name ∈ fieldNames) : occurrences name fields ≤ 1 :=
        occurrences_of_noneTwice htwice hname
      rw [required_eq_none_iff (honce "type" (by decide)),
        optional_eq_none_iff (honce "text" (by decide)),
        optional_eq_none_iff (honce "cache_control" (by decide))]
      simp only [Kind.decode?_eq_none, asString?_eq_none, CacheHint.nullable_decode?_eq_none]
      constructor
      · intro h
        cases h with
        | noObject h => exact absurd rfl (h fields)
        | duplicate hname hdup => exact absurd hdup (noneTwice_iff.1 htwice _ hname)
        | noKind h => exact .inr (.inl (.inl h))
        | kind hmem h => exact .inr (.inl (.inr ⟨_, hmem, h⟩))
        | text hmem h => exact .inr (.inr (.inl ⟨_, hmem, h⟩))
        | hint hmem hnull h => exact .inr (.inr (.inr ⟨_, hmem, hnull, h⟩))
      · rintro (hfalse | (h | ⟨_, hmem, h⟩) | ⟨_, hmem, h⟩ | ⟨_, hmem, hnull, h⟩)
        · cases hfalse
        · exact .noKind h
        · exact .kind hmem h
        · exact .text hmem h
        · exact .hint hmem hnull h
  | _ => exact ⟨fun _ => rfl, fun _ => .noObject nofun⟩

end Block

theorem Content.malformed_iff : Malformed value ↔ decodeNullable? value = none := by
  constructor
  · intro h
    cases h with
    | form hnull hstring harray =>
      cases value with
      | null => exact absurd rfl hnull
      | string s => exact absurd rfl (hstring s)
      | array items => exact absurd rfl (harray items)
      | _ => rfl
    | block hmem h =>
      exact Option.map_eq_none_iff.2 (mapM_eq_none_iff.2 ⟨_, hmem, Block.malformed_iff.1 h⟩)
  · intro h
    cases value with
    | null => cases h
    | string s => cases h
    | array items =>
      obtain ⟨item, hmem, hitem⟩ := mapM_eq_none_iff.1 (Option.map_eq_none_iff.1 h)
      exact .block hmem (Block.malformed_iff.2 hitem)
    | _ => exact .form nofun nofun nofun

namespace Message

theorem decode?_object_eq_none {fields : List (String × Json)} :
    decode? (.object fields) = none ↔ noneTwice fieldNames fields = false ∨
      (lookup "role" fields).bind Role.decode? = none ∨
      (lookup "content" fields).elim (some (.plain "")) Content.decodeNullable? = none := by
  rw [decode?]
  cases noneTwice fieldNames fields
  · exact ⟨fun _ => .inl rfl, fun _ => rfl⟩
  cases (lookup "role" fields).bind Role.decode?
  · exact ⟨fun _ => .inr (.inl rfl), fun _ => rfl⟩
  cases (lookup "content" fields).elim (some (.plain "")) Content.decodeNullable?
  · exact ⟨fun _ => .inr (.inr rfl), fun _ => rfl⟩
  · exact ⟨nofun, nofun⟩

theorem malformed_iff : Malformed value ↔ decode? value = none := by
  cases value with
  | object fields =>
    rw [decode?_object_eq_none]
    cases htwice : noneTwice fieldNames fields with
    | false =>
      obtain ⟨name, hname, hdup⟩ := exists_duplicate_of_noneTwice htwice
      exact ⟨fun _ => .inl rfl, fun _ => .duplicate hname hdup⟩
    | true =>
      have honce (name : String) (hname : name ∈ fieldNames) : occurrences name fields ≤ 1 :=
        occurrences_of_noneTwice htwice hname
      rw [required_eq_none_iff (honce "role" (by decide)),
        optional_eq_none_iff (honce "content" (by decide))]
      simp only [Role.decode?_eq_none, ← Content.malformed_iff]
      constructor
      · intro h
        cases h with
        | noObject h => exact absurd rfl (h fields)
        | duplicate hname hdup => exact absurd hdup (noneTwice_iff.1 htwice _ hname)
        | noRole h => exact .inr (.inl (.inl h))
        | role hmem h => exact .inr (.inl (.inr ⟨_, hmem, h⟩))
        | content hmem h => exact .inr (.inr ⟨_, hmem, h⟩)
      · rintro (hfalse | (h | ⟨_, hmem, h⟩) | ⟨_, hmem, h⟩)
        · cases hfalse
        · exact .noRole h
        · exact .role hmem h
        · exact .content hmem h
  | _ => exact ⟨fun _ => rfl, fun _ => .noObject nofun⟩

end Message

-- ---------------------------------------------------------------------------
-- The two forms of a request
-- ---------------------------------------------------------------------------

/-- A value is a request with some items: their array, or an object that gives this array once as
its `messages`, whatever else it gives. -/
inductive IsRequest : Json → List Json → Prop where
  | array {items : List Json} : IsRequest (.array items) items
  | body {items : List Json} {fields : List (String × Json)}
      (honce : Once "messages" (.array items) fields) : IsRequest (.object fields) items

/-- The messages of a value that is read as an object with its `messages`. -/
def bodyMessages? : Json → Option (List Message)
  | .object fields =>
    if occurrences "messages" fields = 1 then (lookup "messages" fields).bind Message.decodeList?
    else none
  | _ => none

/-- The two forms of a request are tried one after the other. -/
theorem requestMessages?_eq_or (value : Json) :
    requestMessages? value = (Message.decodeList? value).or (bodyMessages? value) := by
  cases value with
  | array items => exact Option.or_none.symm
  | _ => rfl

theorem decodeList?_or_bodyMessages?_eq_none (value : Json) :
    Message.decodeList? value = none ∨ bodyMessages? value = none := by
  cases value with
  | object fields => exact .inl rfl
  | _ => exact .inr rfl

variable {items : List Json} {messages : List Message}

theorem IsRequest.requestMessages?_eq (h : IsRequest value items) :
    requestMessages? value = items.mapM Message.decode? := by
  cases h with
  | array => rfl
  | body honce =>
    obtain ⟨hcount, hlookup⟩ := once_iff.1 honce
    rw [requestMessages?_object _ hcount, hlookup]
    rfl

theorem exists_isRequest (h : requestMessages? value = some messages) :
    ∃ items, IsRequest value items := by
  cases value with
  | array items => exact ⟨items, .array⟩
  | object fields =>
    by_cases hcount : occurrences "messages" fields = 1
    · rw [requestMessages?_object fields hcount] at h
      obtain ⟨list, hlookup, hlist⟩ := Option.bind_eq_some_iff.1 h
      cases list with
      | array items => exact ⟨items, .body (once_iff.2 ⟨hcount, hlookup⟩)⟩
      | _ => cases hlist
    · have hnone : requestMessages? (.object fields) = none := if_neg hcount
      rw [hnone] at h
      cases h
  | _ => cases h

theorem requestMessages?_eq_some_iff : requestMessages? value = some messages ↔
    ∃ items, IsRequest value items ∧
      List.Forall₂ (fun item m => Message.decode? item = some m) items messages := by
  constructor
  · intro h
    obtain ⟨items, hitems⟩ := exists_isRequest h
    exact ⟨items, hitems, mapM_eq_some_iff.1 (hitems.requestMessages?_eq ▸ h)⟩
  · rintro ⟨items, hitems, hmessages⟩
    rw [hitems.requestMessages?_eq]
    exact mapM_eq_some_iff.2 hmessages

theorem requestMessages?_eq_none_iff : requestMessages? value = none ↔
    ∀ items, IsRequest value items → ∃ item ∈ items, Message.Malformed item := by
  constructor
  · intro h items hitems
    rw [hitems.requestMessages?_eq] at h
    obtain ⟨item, hmem, hitem⟩ := mapM_eq_none_iff.1 h
    exact ⟨item, hmem, Message.malformed_iff.2 hitem⟩
  · intro h
    refine Option.eq_none_iff_forall_ne_some.2 fun messages hmessages => ?_
    obtain ⟨items, hitems⟩ := exists_isRequest hmessages
    obtain ⟨item, hmem, hitem⟩ := h items hitems
    have hnone : items.mapM Message.decode? = none :=
      mapM_eq_none_iff.2 ⟨item, hmem, Message.malformed_iff.1 hitem⟩
    rw [hitems.requestMessages?_eq, hnone] at hmessages
    cases hmessages

theorem readMessages_of_ofText? {text : String} {value : Json}
    (h : Json.ofText? text = some value) :
    readMessages text = (requestMessages? value).elim (.error .shapeError) .ok := by
  rw [readMessages, h]
  dsimp only
  cases requestMessages? value <;> rfl

theorem readMessages_eq_ok {text : String} {messages : List Message} :
    readMessages text = .ok messages ↔
      ∃ value, Json.ofText? text = some value ∧ requestMessages? value = some messages := by
  constructor
  · intro h
    cases hvalue : Json.ofText? text with
    | none =>
      rw [readMessages, hvalue] at h
      cases h
    | some value =>
      rw [readMessages_of_ofText? hvalue] at h
      cases hfound : requestMessages? value with
      | none =>
        rw [hfound] at h
        cases h
      | some found =>
        rw [hfound] at h
        exact ⟨value, rfl, hfound.trans (congrArg some (Except.ok.inj h))⟩
  · rintro ⟨value, hvalue, hfound⟩
    rw [readMessages_of_ofText? hvalue, hfound]
    rfl

theorem readMessages_eq_shapeError {text : String} : readMessages text = .error .shapeError ↔
    ∃ value, Json.ofText? text = some value ∧ requestMessages? value = none := by
  cases hvalue : Json.ofText? text with
  | none =>
    have hfault : readMessages text = .error .syntaxError := by rw [readMessages, hvalue]
    rw [hfault]
    exact ⟨nofun, nofun⟩
  | some value =>
    rw [readMessages_of_ofText? hvalue]
    cases hmessages : requestMessages? value <;> simp [hmessages]

/-- The messages of a text are those of a request in one of its forms, each as it is read alone, in
order; a text that is JSON is refused if it has none of the forms, or has a malformed message. The
forms exclude each other, so the other one does not read what one of them refuses, and an object
gives what the array of its messages gives by itself. -/
theorem readMessages_forms :
    (∀ text messages, readMessages text = .ok messages ↔
      ∃ value items, Json.ofText? text = some value ∧ IsRequest value items ∧
        List.Forall₂ (fun item m => Message.decode? item = some m) items messages) ∧
    (∀ text, readMessages text = .error .shapeError ↔
      ∃ value, Json.ofText? text = some value ∧
        ∀ items, IsRequest value items → ∃ item ∈ items, Message.Malformed item) ∧
    (∀ item, Message.Malformed item ↔ Message.decode? item = none) ∧
    (∀ value, requestMessages? value = (Message.decodeList? value).or (bodyMessages? value) ∧
      (Message.decodeList? value = none ∨ bodyMessages? value = none)) ∧
    ∀ text bare value items, Json.ofText? text = some value → IsRequest value items →
      Json.ofText? bare = some (.array items) → readMessages text = readMessages bare := by
  refine ⟨fun text messages => ?_, fun text => ?_, fun item => Message.malformed_iff,
    fun value => ⟨requestMessages?_eq_or value, decodeList?_or_bodyMessages?_eq_none value⟩, ?_⟩
  · rw [readMessages_eq_ok]
    refine exists_congr fun value => ?_
    rw [requestMessages?_eq_some_iff, exists_and_left]
  · rw [readMessages_eq_shapeError]
    exact exists_congr fun value => and_congr_right fun _ => requestMessages?_eq_none_iff
  · intro text bare value items htext hitems hbare
    rw [readMessages_of_ofText? htext, readMessages_of_ofText? hbare, hitems.requestMessages?_eq]
    rfl

/-- A body that gives another key twice, around a message without content. -/
theorem readMessages_forms_body :
    ∃ body bare value items,
      body = "\x7b\"n\":1,\"messages\":[\x7b\"role\":\"user\"\x7d],\"n\":2\x7d" ∧
      bare = "[\x7b\"role\":\"user\"\x7d]" ∧
      Json.ofText? body = some value ∧ IsRequest value items ∧
      Json.ofText? bare = some (.array items) ∧ readMessages body = readMessages bare ∧
      readMessages bare = .ok [.user (.plain "")] := by
  obtain ⟨body, hbodyText⟩ : ∃ body : String, body =
    "\x7b\"n\":1,\"messages\":[\x7b\"role\":\"user\"\x7d],\"n\":2\x7d" := ⟨_, rfl⟩
  obtain ⟨bare, hbareText⟩ : ∃ bare : String, bare = "[\x7b\"role\":\"user\"\x7d]" := ⟨_, rfl⟩
  obtain ⟨items, hitems⟩ : ∃ items : List Json,
    items = [.object [("role", .string "user")]] := ⟨_, rfl⟩
  have hbody : Json.ofText? body = some (.object [("n", .nat 1), ("messages", .array items),
      ("n", .nat 2)]) := by
    rw [hbodyText, hitems]
    decide +kernel
  have hbare : Json.ofText? bare = some (.array items) := by
    rw [hbareText, hitems]
    decide +kernel
  have hrequest : IsRequest (.object [("n", .nat 1), ("messages", .array items),
      ("n", .nat 2)]) items :=
    .body ⟨[("n", .nat 1)], [("n", .nat 2)], rfl, by decide, by decide⟩
  obtain ⟨hread, -, -, -, hsame⟩ := readMessages_forms
  have hmessages : readMessages bare = .ok [.user (.plain "")] := by
    refine (hread bare _).2 ⟨_, _, hbare, .array, ?_⟩
    rw [hitems]
    exact .cons rfl .nil
  exact ⟨body, bare, _, _, hbodyText, hbareText, hbody, hrequest, hbare,
    hsame body bare _ _ hbody hrequest hbare, hmessages⟩

end PromptBudget
