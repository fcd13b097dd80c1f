import Mathlib.Data.List.Forall2
import PromptBudget.Chat.Codec
import PromptBudget.Proofs.Maps

/-!
# PromptBudget — messages are read as they are written

A message is written with its known fields and, behind them, the fields that are kept without being
interpreted. As long as no kept field has the name of a known one, reading gives the message back,
apart from where it came from, which is not written.

What is read can be written in other forms: a role as an object, a missing content, a block without
its empty text. Written again it has its usual form, and reading this gives the same message. No
other field is lost or added on the way, and each has the last value that was given for it.

Main results:

* `Block.decode?_eq_some`, `Message.decode?_eq_some` — what it takes to read a block and a message.
* `Block.decode?_encode`, `Message.decode?_encode` — what is written is read back.
* `Message.encode_roundTrip` — both directions.
-/

namespace PromptBudget

open Json

-- ---------------------------------------------------------------------------
-- Reading step by step
-- ---------------------------------------------------------------------------

theorem guard_of {p : Prop} [Decidable p] (h : p) : (guard p : Option Unit) = some () := if_pos h

theorem of_guard {p : Prop} [Decidable p] {u : Unit} (h : (guard p : Option Unit) = some u) :
    p := by
  by_cases hp : p
  · exact hp
  · have hnone : (guard p : Option Unit) = none := if_neg hp
    rw [hnone] at h
    cases h

theorem mapM_eq_some_iff {f : α → Option β} {items : List α} {results : List β} :
    items.mapM f = some results ↔ List.Forall₂ (fun a b => f a = some b) items results := by
  induction items generalizing results with
  | nil =>
    rw [List.mapM_nil, List.forall₂_nil_left_iff, Option.pure_def, Option.some.injEq, eq_comm]
  | cons a rest ih =>
    simp only [List.mapM_cons, Option.bind_eq_bind, Option.bind_eq_some_iff, Option.pure_def,
      Option.some.injEq, List.forall₂_cons_left_iff, ih]
    constructor
    · rintro ⟨b, hb, others, hothers, rfl⟩
      exact ⟨b, others, hb, hothers, rfl⟩
    · rintro ⟨b, others, hb, hothers, rfl⟩
      exact ⟨b, hb, others, hothers, rfl⟩

/-- One item that is not read is enough. -/
theorem mapM_eq_none_iff {f : α → Option β} {items : List α} :
    items.mapM f = none ↔ ∃ a ∈ items, f a = none := by
  induction items with
  | nil => exact ⟨nofun, nofun⟩
  | cons a rest ih =>
    rw [List.mapM_cons, Option.bind_eq_bind]
    cases ha : f a with
    | none => exact ⟨fun _ => ⟨a, List.mem_cons_self, ha⟩, fun _ => rfl⟩
    | some b =>
      rw [Option.bind_some, List.exists_mem_cons_iff, ha, ← ih]
      cases rest.mapM f with
      | none => exact ⟨fun _ => .inr rfl, fun _ => rfl⟩
      | some others => exact ⟨nofun, nofun⟩

/-- Items that are read as they are written. -/
theorem mapM_map_eq_some {read : β → Option α} {write : α → β} {items : List α}
    (h : ∀ a ∈ items, read (write a) = some a) : (items.map write).mapM read = some items := by
  rw [mapM_eq_some_iff, List.forall₂_map_left_iff, List.forall₂_same]
  exact h

/-- What is read item by item comes from the items. -/
theorem exists_mem_of_mapM {f : α → Option β} {items : List α} {results : List β}
    (h : items.mapM f = some results) {b : β} (hb : b ∈ results) : ∃ a ∈ items, f a = some b := by
  have hitems := mapM_eq_some_iff.1 h
  clear h
  induction hitems with
  | nil => cases hb
  | cons hfirst _ ih =>
    rcases List.mem_cons.1 hb with rfl | hb
    · exact ⟨_, List.mem_cons_self, hfirst⟩
    · obtain ⟨x, hx, hfx⟩ := ih hb
      exact ⟨x, List.mem_cons_of_mem _ hx, hfx⟩

-- ---------------------------------------------------------------------------
-- Known fields and kept fields
-- ---------------------------------------------------------------------------

theorem occurrences_of_noneTwice {names : List String} {fields : List (String × Json)}
    (h : noneTwice names fields = true) {name : String} (hname : name ∈ names) :
    occurrences name fields ≤ 1 :=
  of_decide_eq_true (List.all_eq_true.1 h name hname)

/-- No kept field has one of these names. -/
def Json.Extras.Avoids (extras : Extras) (names : List String) : Prop :=
  ∀ name ∈ names, extras.get? name = Option.none

instance (extras : Extras) (names : List String) : Decidable (extras.Avoids names) :=
  inferInstanceAs (Decidable (∀ name ∈ names, extras.get? name = none))

/-- The fields that are kept do not have the names of those that are known. -/
theorem avoids_extrasOf (names : List String) (fields : List (String × Json)) :
    (extrasOf names fields).Avoids names := by
  intro name hname
  have hzero : occurrences name
      ((fields.filter fun field => !names.contains field.1).reverse) = 0 := by
    unfold occurrences
    rw [List.countP_eq_zero]
    intro field hfield
    have hkept := (List.mem_filter.1 (List.mem_reverse.1 hfield)).2
    simp only [Bool.not_eq_true', List.contains_eq_mem, decide_eq_false_iff_not] at hkept
    simp only [beq_iff_eq]
    exact fun heq => hkept (heq ▸ hname)
  show lookup name (Extras.ofFields _).fields = none
  rw [Extras.lookup_ofFields, lookupLast, lookup_eq_none_iff.2 hzero, Option.map_none]

/-- A field that is kept has the last value that is given for it. -/
theorem lookup_extrasOf {names : List String} {key : String} (hkey : key ∉ names)
    (fields : List (String × Json)) :
    lookup key (extrasOf names fields).fields = (lookupLast key fields).map canonical := by
  have hkept : (!names.contains key) = true := by simpa using hkey
  rw [extrasOf, Extras.lookup_ofFields, lookupLast, ← List.filter_reverse,
    lookup_filter (fun key => !names.contains key) key fields.reverse hkept]
  rfl

section Record

variable {names : List String} {known : List (String × Json)} {extras : Extras}
  (hextras : extras.Avoids names)

include hextras

theorem lookup_known {name : String} (hname : name ∈ names) :
    lookup name (known ++ extras.fields) = lookup name known := by
  have hnone : lookup name extras.fields = none := hextras name hname
  rw [lookup_append, hnone, Option.or_none]

theorem noneTwice_known : noneTwice names (known ++ extras.fields) = noneTwice names known := by
  unfold noneTwice
  rw [Bool.eq_iff_iff, List.all_eq_true, List.all_eq_true]
  refine forall₂_congr fun name hname => ?_
  have hnone : lookup name extras.fields = none := hextras name hname
  rw [occurrences_append, lookup_eq_none_iff.1 hnone, Nat.add_zero]

/-- Behind known fields the other fields are found again. -/
theorem extrasOf_known (hknown : known.all (fun field => names.contains field.1) = true) :
    extrasOf names (known ++ extras.fields) = extras := by
  have hfirst : known.filter (fun field => !names.contains field.1) = [] := by
    refine List.filter_eq_nil_iff.2 fun field hfield => ?_
    rw [List.all_eq_true.1 hknown field hfield]
    exact Bool.false_ne_true
  have hothers : extras.fields.filter (fun field => !names.contains field.1) = extras.fields := by
    refine List.filter_eq_self.2 fun field hfield => ?_
    simp only [Bool.not_eq_true', List.contains_eq_mem, decide_eq_false_iff_not]
    intro hname
    have hnone : lookup field.1 extras.fields = none := hextras field.1 hname
    have hzero := lookup_eq_none_iff.1 hnone
    have := List.countP_eq_zero.1 hzero field hfield
    simp at this
  rw [extrasOf, List.filter_append, hfirst, hothers, List.nil_append, Extras.ofFields_fields]

end Record

-- ---------------------------------------------------------------------------
-- Blocks
-- ---------------------------------------------------------------------------

theorem Block.Kind.decode?_encode (kind : Kind) : Kind.decode? kind.encode = some kind := by
  cases kind <;> rfl

namespace Block

/-- What it takes to read a block. -/
theorem decode?_eq_some {place : CacheHint.Place} {value : Json} {b : Block} :
    decode? place value = some b ↔
      ∃ fields, value = .object fields ∧ noneTwice fieldNames fields = true ∧
        (lookup "type" fields).bind Kind.decode? = some b.kind ∧
        (lookup "text" fields).elim (some "") asString? = some b.text ∧
        (lookup "cache_control" fields).elim (some none) (nullable (CacheHint.decode? place)) =
          some b.cacheHint ∧
        b.extras = extrasOf fieldNames fields := by
  constructor
  · intro h
    cases value with
    | object fields =>
      obtain ⟨_, hguard, h⟩ := Option.bind_eq_some_iff.1 h
      obtain ⟨kind, hkind, h⟩ := Option.bind_eq_some_iff.1 h
      obtain ⟨text, htext, h⟩ := Option.bind_eq_some_iff.1 h
      obtain ⟨hint, hhint, h⟩ := Option.bind_eq_some_iff.1 h
      obtain rfl := Option.some.inj h
      exact ⟨fields, rfl, of_guard hguard, hkind, htext, hhint, rfl⟩
    | _ => cases h
  · rintro ⟨fields, rfl, htwice, hkind, htext, hhint, hextras⟩
    obtain ⟨kind, text, hint, extras⟩ := b
    subst hextras
    refine Option.bind_eq_some_iff.2 ⟨(), guard_of htwice, ?_⟩
    refine Option.bind_eq_some_iff.2 ⟨kind, hkind, ?_⟩
    refine Option.bind_eq_some_iff.2 ⟨text, htext, ?_⟩
    exact Option.bind_eq_some_iff.2 ⟨hint, hhint, rfl⟩

/-- The fields with known names that are written for a block. -/
def knownFields (b : Block) : List (String × Json) :=
  [("type", b.kind.encode)] ++ (if b.text.isEmpty then [] else [("text", .string b.text)]) ++
    (match b.cacheHint with
      | some hint => [("cache_control", hint.encode)]
      | none => [])

theorem encode_eq (b : Block) : b.encode = .object (b.knownFields ++ b.extras.fields) := rfl

theorem lookup_type_knownFields (b : Block) :
    lookup "type" b.knownFields = some b.kind.encode := rfl

theorem lookup_text_knownFields (b : Block) :
    lookup "text" b.knownFields = if b.text.isEmpty then none else some (.string b.text) := by
  unfold knownFields
  cases b.text.isEmpty <;> cases b.cacheHint <;> rfl

theorem lookup_hint_knownFields (b : Block) :
    lookup "cache_control" b.knownFields = b.cacheHint.map CacheHint.encode := by
  unfold knownFields
  cases b.text.isEmpty <;> cases b.cacheHint <;> rfl

theorem noneTwice_knownFields (b : Block) : noneTwice fieldNames b.knownFields = true := by
  unfold knownFields
  cases b.text.isEmpty <;> cases b.cacheHint <;> rfl

theorem all_knownFields (b : Block) :
    b.knownFields.all (fun field => fieldNames.contains field.1) = true := by
  unfold knownFields
  cases b.text.isEmpty <;> cases b.cacheHint <;> rfl

/-- A block that is written is read back. -/
theorem decode?_encode {b : Block} (h : b.extras.Avoids fieldNames) (place : CacheHint.Place) :
    decode? place b.encode = some b := by
  refine decode?_eq_some.2 ⟨_, b.encode_eq, ?_, ?_, ?_, ?_, ?_⟩
  · rw [noneTwice_known h, noneTwice_knownFields]
  · rw [lookup_known h (by decide), lookup_type_knownFields, Option.bind_some, Kind.decode?_encode]
  · rw [lookup_known h (by decide), lookup_text_knownFields]
    split
    · next hempty =>
      rw [String.isEmpty_iff] at hempty
      rw [hempty]
      rfl
    · rfl
  · rw [lookup_known h (by decide), lookup_hint_knownFields]
    cases b.cacheHint with
    | none => rfl
    | some hint => cases hint; rfl
  · rw [extrasOf_known h b.all_knownFields]

end Block

-- ---------------------------------------------------------------------------
-- Messages
-- ---------------------------------------------------------------------------

/-- No kept field of a message or of one of its blocks has the name of a known field there. -/
structure Message.Unambiguous (m : Message) : Prop where
  extras : m.extras.Avoids Message.fieldNames
  blocks : ∀ b ∈ m.content.toBlocks, b.extras.Avoids Block.fieldNames

/-- A content that is written is read back. -/
theorem Content.decodeNullable?_encode {content : Content}
    (h : ∀ b ∈ content.toBlocks, b.extras.Avoids Block.fieldNames) :
    decodeNullable? content.encode = some content := by
  cases content with
  | plain s => rfl
  | blocks bs =>
    show ((bs.map Block.encode).mapM (Block.decode? .insideContent)).map Content.blocks = _
    have hblocks : (bs.map Block.encode).mapM (Block.decode? .insideContent) = some bs :=
      mapM_map_eq_some fun b hb => Block.decode?_encode (h b hb) .insideContent
    rw [hblocks]
    rfl

/-- A block that was read has no kept field with the name of a known one. -/
theorem Block.avoids_of_decode? {place : CacheHint.Place} {value : Json} {b : Block}
    (h : decode? place value = some b) : b.extras.Avoids fieldNames := by
  obtain ⟨fields, -, -, -, -, -, hextras⟩ := decode?_eq_some.1 h
  rw [hextras]
  exact avoids_extrasOf fieldNames fields

theorem Content.avoids_of_decodeNullable? {value : Json} {content : Content}
    (h : decodeNullable? value = some content) :
    ∀ b ∈ content.toBlocks, b.extras.Avoids Block.fieldNames := by
  -- the block of a plain text has no other fields
  have hplain (s : String) :
      ∀ b ∈ (Content.plain s).toBlocks, b.extras.Avoids Block.fieldNames := by
    intro b hb
    rw [toBlocks] at hb
    split at hb
    · cases hb
    · rw [List.mem_singleton.1 hb]
      exact fun _ _ => rfl
  cases value with
  | null => exact Option.some.inj h ▸ hplain ""
  | string s => exact Option.some.inj h ▸ hplain s
  | array items =>
    obtain ⟨bs, hbs, rfl⟩ := Option.map_eq_some_iff.1 h
    intro b hb
    obtain ⟨item, -, hitem⟩ := exists_mem_of_mapM hbs hb
    exact Block.avoids_of_decode? hitem
  | _ => cases h

namespace Message

/-- What it takes to read a message. -/
theorem decode?_eq_some {value : Json} {m : Message} :
    decode? value = some m ↔
      ∃ fields, value = .object fields ∧ noneTwice fieldNames fields = true ∧
        (lookup "role" fields).bind Role.decode? = some m.role ∧
        (lookup "content" fields).elim (some (.plain "")) Content.decodeNullable? =
          some m.content ∧
        m.extras = extrasOf fieldNames fields ∧ m.origin = .client := by
  constructor
  · intro h
    cases value with
    | object fields =>
      obtain ⟨_, hguard, h⟩ := Option.bind_eq_some_iff.1 h
      obtain ⟨role, hrole, h⟩ := Option.bind_eq_some_iff.1 h
      obtain ⟨content, hcontent, h⟩ := Option.bind_eq_some_iff.1 h
      obtain rfl := Option.some.inj h
      exact ⟨fields, rfl, of_guard hguard, hrole, hcontent, rfl, rfl⟩
    | _ => cases h
  · rintro ⟨fields, rfl, htwice, hrole, hcontent, hextras, horigin⟩
    obtain ⟨role, content, extras, origin⟩ := m
    subst hextras horigin
    refine Option.bind_eq_some_iff.2 ⟨(), guard_of htwice, ?_⟩
    refine Option.bind_eq_some_iff.2 ⟨role, hrole, ?_⟩
    exact Option.bind_eq_some_iff.2 ⟨content, hcontent, rfl⟩

/-- A message that is written is read back as one of the client. -/
theorem decode?_encode {m : Message} (h : m.Unambiguous) :
    decode? m.encode = some { m with origin := .client } := by
  refine decode?_eq_some.2 ⟨_, rfl, ?_, ?_, ?_, ?_, rfl⟩
  · rw [noneTwice_known h.extras]
    rfl
  · rw [lookup_known h.extras (by decide)]
    exact Role.decode?_encode m.role
  · rw [lookup_known h.extras (by decide)]
    exact Content.decodeNullable?_encode h.blocks
  · rw [extrasOf_known h.extras rfl]

/-- A message that was read has no kept field with the name of a known one. -/
theorem unambiguous_of_decode? {value : Json} {m : Message} (h : decode? value = some m) :
    m.Unambiguous := by
  obtain ⟨fields, -, -, -, hcontent, hextras, -⟩ := decode?_eq_some.1 h
  constructor
  · rw [hextras]
    exact avoids_extrasOf fieldNames fields
  · cases hlookup : lookup "content" fields with
    | none =>
      rw [hlookup, Option.elim_none] at hcontent
      rw [← Option.some.inj hcontent]
      exact nofun
    | some content =>
      rw [hlookup, Option.elim_some] at hcontent
      exact Content.avoids_of_decodeNullable? hcontent

/-- Messages are read as they are written, and what was read is written with all its fields: each
field other than the role and the content is there once, with the last value given for it, which is
the value itself if the message was given as a map. -/
theorem encode_roundTrip :
    (∀ m : Message, m.Unambiguous → decode? m.encode = some { m with origin := .client }) ∧
    ∀ value m, decode? value = some m →
      decode? m.encode = some m ∧ (decode? m.encode).map encode = some m.encode ∧
      ∃ given kept, value = .object given ∧
        m.encode = .object (("role", m.role.encode) :: ("content", m.content.encode) :: kept) ∧
        ascending kept = true ∧
        (∀ key, lookup key kept =
          if key ∈ fieldNames then none else (lookupLast key given).map canonical) ∧
        (isCanonical value = true → ∀ key, key ∉ fieldNames →
          lookup key kept = lookup key given) := by
  refine ⟨fun m => decode?_encode, fun value m h => ?_⟩
  have hunambiguous := unambiguous_of_decode? h
  obtain ⟨given, rfl, -, -, -, hextras, horigin⟩ := decode?_eq_some.1 h
  have hback : decode? m.encode = some m := by
    rw [decode?_encode hunambiguous, ← horigin]
  refine ⟨hback, by rw [hback, Option.map_some], given, m.extras.fields, rfl, rfl,
    m.extras.ascending_fields, fun key => ?_, fun hcanonical key hkey => ?_⟩
  · by_cases hkey : key ∈ fieldNames
    · rw [if_pos hkey]
      exact hunambiguous.extras key hkey
    · rw [if_neg hkey, hextras, lookup_extrasOf hkey]
  · rw [isCanonical, Bool.and_eq_true] at hcanonical
    rw [hextras, lookup_extrasOf hkey, ← lookupLast_canonicalFields,
      canonicalFields_of_isCanonical given hcanonical.2,
      lookupLast_eq_lookup (occurrences_of_ascending hcanonical.1 key)]

/-- A summary with an image and a name, which is read back as a message of the client, and a message
without content whose role is an object and whose name is given twice. -/
theorem encode_roundTrip_name :
    (∃ m : Message, m.Unambiguous ∧ m.origin = .compression ∧
      m.content =
        .blocks [.ephemeral "", ⟨.image, "", none, .ofFields [("image_url", .string "cat")]⟩] ∧
      decode? m.encode = some { m with origin := .client }) ∧
    ∃ m kept, decode? (.object [("name", .string "Ann"), ("role", .object [("user", .null)]),
        ("name", .string "Bo")]) = some m ∧
      decode? m.encode = some m ∧
      m.encode = .object (("role", .string "user") :: ("content", .string "") :: kept) ∧
      lookup "name" kept = some (.string "Bo") := by
  constructor
  · refine ⟨{
      role := .user
      content :=
        .blocks [.ephemeral "", ⟨.image, "", none, .ofFields [("image_url", .string "cat")]⟩]
      extras := .ofFields [("name", .string "Ann")]
      origin := .compression }, ?_, rfl, rfl, ?_⟩
    · exact ⟨by decide, by decide⟩
    · exact encode_roundTrip.1 _ ⟨by decide, by decide⟩
  · obtain ⟨hback, -, given, kept, hgiven, hencode, -, hkept, -⟩ := encode_roundTrip.2
      (.object [("name", .string "Ann"), ("role", .object [("user", .null)]),
        ("name", .string "Bo")]) _ rfl
    obtain rfl := Json.object.inj hgiven
    exact ⟨_, kept, rfl, hback, hencode, hkept "name"⟩

end Message

end PromptBudget
