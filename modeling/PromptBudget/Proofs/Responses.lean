import PromptBudget.Proofs.Guarding
import PromptBudget.Proofs.Requests

/-!
# PromptBudget — what a response means

Both services over HTTP are asked in the same way. A request that is cancelled or has no time left
does not reach them. A response with a status other than 2xx is an error, and which one depends on
the status alone. With a status of 2xx the bytes are read.

What the bytes can say is described without a word about reading: `Completions.IsCompletion` and
`Passages.IsFindings` go down from the document to its records, their fields and the texts and
numbers in them. A record has two forms, and a field may be missing, be null or have a default. What
is read, exactly, is what is described; the rest is an invalid response.

Main results:

* `Json.record?_eq_some_iff` — the records of a draft, in both forms.
* `Http.Completions.answerText_eq_ok_iff` — when a response gives a text, and which.
* `Http.Passages.decodes_hits` — when a response gives passages, and which.
* `Http.classified_classify` — what a response means, by its status and its bytes.
* `Http.services_classified` — what calls of the two services end with.
-/

namespace PromptBudget

open Json

-- ---------------------------------------------------------------------------
-- Records in a draft
-- ---------------------------------------------------------------------------

namespace Json

/-- A draft writes a record with some known fields: as an object whose keys can be read and of which
no known field is given twice, or as an array of the values of the first fields, or of all. It is
said whether it is an array. -/
inductive Draft.Writes (names : List String) : Draft → Bool → List (String × Draft) → Prop where
  | object {raw : List (List UInt8 × Draft)} {fields : List (String × Draft)}
      (hkeys : List.Forall₂ (fun given field => textOf? given.1 = some field.1 ∧ given.2 = field.2)
        raw fields)
      (honce : ∀ name ∈ names, ¬ List.Duplicate name (keys fields)) :
      Writes names (.object raw) false fields
  | array {items : List Draft} (hlength : items.length ≤ names.length) :
      Writes names (.array items) true (names.zip items)

/-- A draft is read exactly as what it means. -/
def Decodes (decode : Draft → Option α) (means : Draft → α → Prop) : Prop :=
  ∀ draft x, decode draft = some x ↔ means draft x

/-- Among some fields one is given, and its value has a meaning. -/
def Gives (fields : List (String × Draft)) (name : String) (means : Draft → α → Prop) (x : α) :
    Prop :=
  ∃ value, (name, value) ∈ fields ∧ means value x

/-- Among some fields one is given, and its value has a meaning, or it is not and has a default. -/
def GivesOr (fields : List (String × Draft)) (name : String) (means : Draft → α → Prop)
    (default x : α) : Prop :=
  Gives fields name means x ∨ name ∉ keys fields ∧ x = default

/-- A draft is a list of drafts that have some meanings, in order. -/
def Draft.IsListOf (means : Draft → α → Prop) (draft : Draft) (xs : List α) : Prop :=
  ∃ items, draft = .array items ∧ List.Forall₂ means items xs

theorem Draft.readKeys?_eq_some_iff {raw : List (List UInt8 × Draft)}
    {fields : List (String × Draft)} : readKeys? raw = some fields ↔
      List.Forall₂ (fun given field => textOf? given.1 = some field.1 ∧ given.2 = field.2)
        raw fields := by
  rw [readKeys?, mapM_eq_some_iff]
  refine iff_of_eq (congrArg (List.Forall₂ · raw fields) ?_)
  funext given field
  obtain ⟨key, draft⟩ := given
  obtain ⟨key', draft'⟩ := field
  simp only [Option.map_eq_some_iff, Prod.mk.injEq, eq_iff_iff]
  constructor
  · rintro ⟨_, hkey, rfl, rfl⟩
    exact ⟨hkey, rfl⟩
  · rintro ⟨hkey, rfl⟩
    exact ⟨_, hkey, rfl, rfl⟩

theorem Draft.shape_eq_list_iff {draft : Draft} {items : List Draft} :
    draft.shape = .list items ↔ draft = .array items := by
  constructor
  · intro h
    unfold shape at h
    split at h
    · rw [Shape.list.inj h]
    · split at h <;> cases h
    · cases h
  · rintro rfl
    rfl

theorem decodes_listOf {decode : Draft → Option α} {means : Draft → α → Prop}
    (hdecode : Decodes decode means) :
    Decodes (fun draft => draft.shape.listOf? decode) (Draft.IsListOf means) := by
  intro draft xs
  have hitems (items : List Draft) :
      items.mapM decode = some xs ↔ List.Forall₂ means items xs := by
    rw [mapM_eq_some_iff]
    simp only [hdecode _ _]
  show draft.shape.listOf? decode = some xs ↔ _
  constructor
  · intro h
    cases hshape : draft.shape with
    | list items =>
      rw [hshape] at h
      exact ⟨items, Draft.shape_eq_list_iff.1 hshape, (hitems items).1 h⟩
    | _ =>
      rw [hshape] at h
      cases h
  · rintro ⟨items, rfl, hmeans⟩
    exact (hitems items).2 hmeans

theorem keys_zip_sublist (names : List String) (items : List α) :
    (keys (names.zip items)).Sublist names := by
  induction names generalizing items with
  | nil => exact .slnil
  | cons name names ih =>
    cases items with
    | nil => exact List.nil_sublist _
    | cons item items => exact (ih items).cons_cons name

variable {names : List String} {draft : Draft} {listed : Bool} {fields : List (String × Draft)}

/-- No known field of a record is given twice, if the record does not have it twice. -/
theorem Draft.Writes.occurrences_le (h : draft.Writes names listed fields) (hnames : names.Nodup)
    {name : String} (hname : name ∈ names) : occurrences name fields ≤ 1 := by
  rw [occurrences_eq_count]
  cases h with
  | object _ honce =>
    have hcount := honce name hname
    rw [List.duplicate_iff_two_le_count] at hcount
    omega
  | array _ =>
    exact List.nodup_iff_count_le_one.1 (hnames.sublist (keys_zip_sublist names _)) name

theorem all_occurrences_iff : (names.all fun name => occurrences name fields ≤ 1) = true ↔
    ∀ name ∈ names, ¬ List.Duplicate name (keys fields) := by
  rw [List.all_eq_true]
  refine forall₂_congr fun name _ => ?_
  rw [decide_eq_true_iff, List.duplicate_iff_two_le_count, ← occurrences_eq_count]
  omega

/-- The record of the known ones among some fields. -/
def Record.ofKnown (names : List String) (listed : Bool) (fields : List (String × Draft)) :
    Record Draft :=
  ⟨listed, fields.filter fun field => names.contains field.1⟩

theorem record?_eq_some_iff {record : Record Draft} :
    record? .json names draft.shape = some record ↔
      ∃ listed fields, draft.Writes names listed fields ∧
        record = .ofKnown names listed fields := by
  have hzip (items : List Draft) :
      (names.zip items).filter (fun field => names.contains field.1) = names.zip items := by
    refine List.filter_eq_self.2 fun field hfield => ?_
    have hkey := (keys_zip_sublist names items).subset (List.mem_map_of_mem hfield)
    exact List.contains_iff_mem.2 hkey
  cases draft with
  | array items =>
    have hrecord : record? .json names (Draft.array items).shape =
        if items.length ≤ names.length then some ⟨true, names.zip items⟩ else none := by
      simp [Draft.shape, record?, Dialect.json]
    rw [hrecord, Option.ite_none_right_eq_some]
    constructor
    · rintro ⟨hlength, h⟩
      obtain rfl := Option.some.inj h
      exact ⟨true, _, .array hlength, by rw [Record.ofKnown, hzip]⟩
    · rintro ⟨listed, fields, hwrites, rfl⟩
      cases hwrites with
      | array hlength => exact ⟨hlength, by rw [Record.ofKnown, hzip]⟩
  | object raw =>
    constructor
    · intro h
      rw [Draft.shape] at h
      cases hkeys : Draft.readKeys? raw with
      | none =>
        rw [hkeys] at h
        cases h
      | some fields =>
        rw [hkeys] at h
        obtain ⟨honce, h⟩ := Option.ite_none_right_eq_some.1 h
        obtain rfl := Option.some.inj h
        exact ⟨false, fields,
          .object (Draft.readKeys?_eq_some_iff.1 hkeys) (all_occurrences_iff.1 honce), rfl⟩
    · rintro ⟨listed, fields, hwrites, rfl⟩
      cases hwrites with
      | object hkeys honce =>
        rw [Draft.shape, Draft.readKeys?_eq_some_iff.2 hkeys]
        exact Option.ite_none_right_eq_some.2 ⟨all_occurrences_iff.2 honce, rfl⟩
  | _ =>
    constructor
    · intro h
      cases h
    · rintro ⟨listed, fields, hwrites, -⟩
      cases hwrites

theorem bind_record?_eq_some_iff {read : Record Draft → Option α} {x : α} :
    (record? .json names draft.shape).bind read = some x ↔
      ∃ listed fields, draft.Writes names listed fields ∧
        read (.ofKnown names listed fields) = some x := by
  rw [Option.bind_eq_some_iff]
  constructor
  · rintro ⟨record, hrecord, hread⟩
    obtain ⟨listed, fields, hwrites, rfl⟩ := record?_eq_some_iff.1 hrecord
    exact ⟨listed, fields, hwrites, hread⟩
  · rintro ⟨listed, fields, hwrites, hread⟩
    exact ⟨_, record?_eq_some_iff.2 ⟨listed, fields, hwrites, rfl⟩, hread⟩

namespace Draft.Writes

variable (h : draft.Writes names listed fields) (hnames : names.Nodup) {name : String}
  (hname : name ∈ names) {decode : Draft → Option α} {means : Draft → α → Prop}
  (hdecode : Decodes decode means) {x : α}
include h hnames hname

theorem get?_eq_some_iff {value : Draft} :
    (Record.ofKnown names listed fields).get? name = some value ↔ (name, value) ∈ fields := by
  rw [Record.get?, Record.ofKnown,
    lookup_filter names.contains name fields (List.contains_iff_mem.2 hname)]
  exact ⟨mem_of_lookup, lookup_of_mem (h.occurrences_le hnames hname)⟩

omit h hnames in
theorem get?_eq_none_iff :
    (Record.ofKnown names listed fields).get? name = none ↔ name ∉ keys fields := by
  rw [Record.get?, Record.ofKnown,
    lookup_filter names.contains name fields (List.contains_iff_mem.2 hname)]
  exact lookup_eq_none_iff_not_mem

include hdecode

theorem required_eq_some_iff :
    (Record.ofKnown names listed fields).required name decode = some x ↔
      Gives fields name means x := by
  rw [Record.required, Option.bind_eq_some_iff]
  simp only [h.get?_eq_some_iff hnames hname, hdecode _ _]
  rfl

theorem withDefault_eq_some_iff {default : α} :
    (Record.ofKnown names listed fields).withDefault name decode default = some x ↔
      GivesOr fields name means default x := by
  rw [GivesOr, ← h.required_eq_some_iff hnames hname hdecode, ← get?_eq_none_iff hname,
    Record.required, Record.withDefault]
  cases (Record.ofKnown names listed fields).get? name with
  | none => simp [eq_comm]
  | some value => simp

end Draft.Writes

end Json

-- ---------------------------------------------------------------------------
-- Texts and numbers in a draft
-- ---------------------------------------------------------------------------

namespace Http

/-- A draft without parts of its own is a value. -/
inductive IsScalar : Draft → Json → Prop where
  | null : IsScalar .null .null
  | bool (b : Bool) : IsScalar (.bool b) (.bool b)
  | number {literal : Literal} {n : Number} (h : numberOf? literal = some n) :
      IsScalar (.number literal) (.number n)
  | string {raw : List UInt8} {s : String} (h : textOf? raw = some s) :
      IsScalar (.string raw) (.string s)

/-- A draft is a text. -/
def IsText (draft : Draft) (s : String) : Prop := IsScalar draft (.string s)

/-- A draft is a text or null. -/
inductive IsNullableText : Draft → Option String → Prop where
  | null : IsNullableText .null none
  | text {draft : Draft} {s : String} (h : IsText draft s) : IsNullableText draft (some s)

/-- A draft is a natural number of 32 bits. -/
def IsCount (draft : Draft) (n : Nat) : Prop := IsScalar draft (Json.nat n) ∧ n < 2 ^ 32

/-- A draft is a number, and `x` is the nearest one in the format with 32 bits. -/
inductive IsScore : Draft → Floating → Prop where
  | int {draft : Draft} {n : Int} (h : IsScalar draft (.number (.int n))) :
      IsScore draft (Floating.ofInt Floating.single n)
  | float {draft : Draft} {x : Floating} (h : IsScalar draft (.number (.float x))) :
      IsScore draft (Floating.convert Floating.single x)

variable {draft : Draft}

theorem scalar?_eq_some_iff {value : Json} : scalar? draft = some value ↔ IsScalar draft value := by
  rw [scalar?]
  constructor
  · intro h
    cases draft with
    | null =>
      simp only [ofDraft?, Option.some.injEq] at h
      exact h ▸ .null
    | bool b =>
      simp only [ofDraft?, Option.some.injEq] at h
      exact h ▸ .bool b
    | number literal =>
      rw [ofDraft?] at h
      obtain ⟨n, hn, rfl⟩ := Option.map_eq_some_iff.1 h
      exact .number hn
    | string raw =>
      rw [ofDraft?] at h
      obtain ⟨s, hs, rfl⟩ := Option.map_eq_some_iff.1 h
      exact .string hs
    | array items =>
      rw [ofDraft?, if_pos rfl] at h
      cases h
    | object fields =>
      rw [ofDraft?, if_pos rfl] at h
      cases h
  · rintro (_ | b | h | h)
    · rw [ofDraft?]
    · rw [ofDraft?]
    · rw [ofDraft?, h, Option.map_some]
    · rw [ofDraft?, h, Option.map_some]

theorem bind_scalar?_eq_some_iff {decode : Json → Option α} {x : α} :
    (scalar? draft).bind decode = some x ↔
      ∃ value, IsScalar draft value ∧ decode value = some x := by
  rw [Option.bind_eq_some_iff]
  simp only [scalar?_eq_some_iff]

theorem decodes_text : Decodes text? IsText := by
  intro draft s
  rw [text?, bind_scalar?_eq_some_iff]
  constructor
  · rintro ⟨value, hvalue, h⟩
    cases value with
    | string s' =>
      obtain rfl := Option.some.inj h
      exact hvalue
    | _ => cases h
  · exact fun h => ⟨_, h, rfl⟩

theorem decodes_nullableText : Decodes nullableText? IsNullableText := by
  intro draft text
  rw [nullableText?, bind_scalar?_eq_some_iff]
  constructor
  · rintro ⟨value, hvalue, h⟩
    cases value with
    | null =>
      obtain rfl := Option.some.inj h
      cases hvalue
      exact .null
    | string s =>
      obtain rfl := Option.some.inj h
      exact .text hvalue
    | _ => cases h
  · rintro (_ | h)
    · exact ⟨.null, .null, rfl⟩
    · exact ⟨_, h, rfl⟩

theorem decodes_count : Decodes Completions.count? IsCount := by
  intro draft n
  rw [Completions.count?, bind_scalar?_eq_some_iff]
  constructor
  · rintro ⟨value, hvalue, h⟩
    unfold asNat? at h
    split at h
    · next k =>
      obtain ⟨hbounds, hk⟩ := Option.ite_none_right_eq_some.1 h
      rw [Bool.and_eq_true, decide_eq_true_eq, decide_eq_true_eq] at hbounds
      obtain rfl := Option.some.inj hk
      have hcast : ((k.toNat : Nat) : Int) = k := Int.toNat_of_nonneg hbounds.1
      refine ⟨?_, ?_⟩
      · rwa [Json.nat, hcast]
      · have hlt : k < ((2 ^ 32 : Nat) : Int) := hbounds.2
        omega
    · cases h
  · rintro ⟨hvalue, hn⟩
    exact ⟨_, hvalue, asNat?_nat hn⟩

theorem decodes_score : Decodes (fun draft => (scalar? draft).bind asSingle?) IsScore := by
  intro draft x
  rw [bind_scalar?_eq_some_iff]
  constructor
  · rintro ⟨value, hvalue, h⟩
    unfold asSingle? at h
    split at h
    · exact Option.some.inj h ▸ .int hvalue
    · exact Option.some.inj h ▸ .float hvalue
    · cases h
  · rintro (h | h)
    · exact ⟨_, h, rfl⟩
    · exact ⟨_, h, rfl⟩

/-- Bytes that are read are a draft that has a meaning; others are an invalid response. -/
theorem readBody_eq_ok_iff {decode : Draft → Option α} {means : Draft → α → Prop}
    (h : Decodes decode means) {bytes : List UInt8} {x : α} :
    readBody decode bytes = .ok x ↔ ∃ draft, Draft.read? bytes = some draft ∧ means draft x := by
  simp only [← h _ _, ← Option.bind_eq_some_iff, readBody]
  cases (Draft.read? bytes).bind decode <;> simp

theorem readBody_eq_error {decode : Draft → Option α} {bytes : List UInt8} {e : ServiceError}
    (h : readBody decode bytes = .error e) : e = undecodable := by
  rw [readBody] at h
  split at h
  · cases h
  · exact (Except.error.inj h).symm

-- ---------------------------------------------------------------------------
-- Completions
-- ---------------------------------------------------------------------------

namespace Completions

/-- The message of a choice has a content, which may be null, and which an object may leave out. -/
def IsMessage (draft : Draft) (content : Option String) : Prop :=
  ∃ listed fields, draft.Writes ["content"] listed fields ∧
    (Gives fields "content" IsNullableText content ∨
      listed = false ∧ "content" ∉ keys fields ∧ content = none)

/-- A choice has a message. -/
def IsChoice (draft : Draft) (content : Option String) : Prop :=
  ∃ listed fields, draft.Writes ["message"] listed fields ∧ Gives fields "message" IsMessage content

/-- A usage has three counts, or is null. -/
def IsUsage (draft : Draft) : Option Usage → Prop
  | none => draft = .null
  | some usage => ∃ listed fields, draft.Writes Usage.fieldNames listed fields ∧
      Gives fields "prompt_tokens" IsCount usage.promptTokens ∧
      Gives fields "completion_tokens" IsCount usage.completionTokens ∧
      Gives fields "total_tokens" IsCount usage.totalTokens

/-- A completion has a list of choices, and may have a usage. -/
def IsCompletion (draft : Draft) (contents : List (Option String)) : Prop :=
  ∃ listed fields, draft.Writes ["choices", "usage"] listed fields ∧
    Gives fields "choices" (Draft.IsListOf IsChoice) contents ∧
    ∃ usage, GivesOr fields "usage" IsUsage none usage

/-- The bytes of a response say a text: the content of its first choice. -/
def Says (bytes : List UInt8) (s : String) : Prop :=
  ∃ draft rest, Draft.read? bytes = some draft ∧ IsCompletion draft (some s :: rest)

theorem decodes_message : Decodes messageContent? IsMessage := by
  intro draft content
  refine bind_record?_eq_some_iff.trans (exists_congr fun listed => exists_congr fun fields =>
    and_congr_right fun h => ?_)
  have hmissing : (Record.ofKnown ["content"] listed fields).get? "content" = none ↔
      "content" ∉ keys fields := Draft.Writes.get?_eq_none_iff (by decide)
  rw [← h.required_eq_some_iff (by decide) (by decide) decodes_nullableText, ← hmissing,
    Record.required]
  cases (Record.ofKnown ["content"] listed fields).get? "content" with
  | some value => simp
  | none =>
    show (if listed = true then none else some none) = some content ↔ _
    cases listed <;> simp [eq_comm]

theorem decodes_choice : Decodes choiceContent? IsChoice := by
  intro draft content
  refine bind_record?_eq_some_iff.trans (exists_congr fun listed => exists_congr fun fields =>
    and_congr_right fun h => ?_)
  exact h.required_eq_some_iff (by decide) (by decide) decodes_message

theorem decodes_usage : Decodes usage? IsUsage := by
  intro draft usage
  by_cases hnull : draft = .null
  · subst hnull
    cases usage with
    | none => exact ⟨fun _ => rfl, fun _ => rfl⟩
    | some usage => exact ⟨nofun, fun ⟨_, _, h, _⟩ => nomatch h⟩
  · have husage : usage? draft = (record? .json Usage.fieldNames draft.shape).bind fun r =>
        (Usage.ofRecord? count? r).bind fun usage => some (some usage) := by
      rw [usage?]
      · rfl
      · exact hnull
    rw [husage]
    cases usage with
    | none =>
      refine ⟨fun h => ?_, fun h => absurd h hnull⟩
      obtain ⟨r, -, h⟩ := Option.bind_eq_some_iff.1 h
      obtain ⟨usage, -, h⟩ := Option.bind_eq_some_iff.1 h
      cases h
    | some usage =>
      refine bind_record?_eq_some_iff.trans (exists_congr fun listed => exists_congr fun fields =>
        and_congr_right fun h => ?_)
      have hcount {name : String} (hname : name ∈ Usage.fieldNames) {n : Nat} :
          (Record.ofKnown Usage.fieldNames listed fields).required name count? = some n ↔
            Gives fields name IsCount n :=
        h.required_eq_some_iff (by decide) hname decodes_count
      rw [← hcount (by decide), ← hcount (by decide), ← hcount (by decide)]
      constructor
      · intro hread
        obtain ⟨_, hcounts, hsame⟩ := Option.bind_eq_some_iff.1 hread
        obtain rfl := Option.some.inj (Option.some.inj hsame)
        obtain ⟨prompt, hprompt, hcounts⟩ := Option.bind_eq_some_iff.1 hcounts
        obtain ⟨completion, hcompletion, hcounts⟩ := Option.bind_eq_some_iff.1 hcounts
        obtain ⟨total, htotal, hcounts⟩ := Option.bind_eq_some_iff.1 hcounts
        obtain rfl := Option.some.inj hcounts
        exact ⟨hprompt, hcompletion, htotal⟩
      · rintro ⟨hprompt, hcompletion, htotal⟩
        rw [Usage.ofRecord?, hprompt, hcompletion, htotal]
        rfl

theorem decodes_contents : Decodes contents? IsCompletion := by
  intro draft contents
  refine bind_record?_eq_some_iff.trans (exists_congr fun listed => exists_congr fun fields =>
    and_congr_right fun h => ?_)
  let r := Record.ofKnown ["choices", "usage"] listed fields
  have hchoices {contents : List (Option String)} :
      r.required "choices" (·.shape.listOf? choiceContent?) = some contents ↔
        Gives fields "choices" (Draft.IsListOf IsChoice) contents :=
    h.required_eq_some_iff (by decide) (by decide) (decodes_listOf decodes_choice)
  have husage {usage : Option Usage} : r.withDefault "usage" usage? none = some usage ↔
      GivesOr fields "usage" IsUsage none usage :=
    h.withDefault_eq_some_iff (by decide) (by decide) decodes_usage
  constructor
  · intro hread
    obtain ⟨given, hgiven, hread⟩ := Option.bind_eq_some_iff.1 hread
    obtain ⟨usage, hgivenUsage, hread⟩ := Option.bind_eq_some_iff.1 hread
    obtain rfl := Option.some.inj hread
    exact ⟨hchoices.1 hgiven, usage, husage.1 hgivenUsage⟩
  · rintro ⟨hgiven, usage, hgivenUsage⟩
    refine Option.bind_eq_some_iff.2 ⟨contents, hchoices.2 hgiven, ?_⟩
    exact Option.bind_eq_some_iff.2 ⟨usage, husage.2 hgivenUsage, rfl⟩

/-- The text of a response is the content of its first choice. -/
theorem answerText_eq (bytes : List UInt8) : answerText bytes =
    (readBody contents? bytes).bind fun contents =>
      match contents.head?.join with
      | some text => .ok text
      | none => .error (.invalidResponse "No choices in response") := rfl

theorem answerText_eq_ok_iff {bytes : List UInt8} {s : String} :
    answerText bytes = .ok s ↔ Says bytes s := by
  rw [answerText_eq]
  constructor
  · intro h
    cases hbody : readBody contents? bytes with
    | error e =>
      rw [hbody] at h
      cases h
    | ok contents =>
      obtain ⟨draft, hdraft, hcompletion⟩ := (readBody_eq_ok_iff decodes_contents).1 hbody
      rw [hbody] at h
      match contents with
      | some text :: rest =>
        obtain rfl := Except.ok.inj h
        exact ⟨draft, rest, hdraft, hcompletion⟩
      | [] => cases h
      | none :: rest => cases h
  · rintro ⟨draft, rest, hdraft, hcompletion⟩
    rw [(readBody_eq_ok_iff decodes_contents).2 ⟨draft, hdraft, hcompletion⟩]
    rfl

theorem answerText_eq_error {bytes : List UInt8} {e : ServiceError}
    (h : answerText bytes = .error e) : ∃ reason, e = .invalidResponse reason := by
  rw [answerText_eq] at h
  cases hbody : readBody contents? bytes with
  | error e' =>
    rw [hbody] at h
    exact ⟨_, (Except.error.inj h).symm.trans (readBody_eq_error hbody)⟩
  | ok contents =>
    rw [hbody] at h
    simp only [Except.bind] at h
    split at h
    · cases h
    · exact ⟨_, (Except.error.inj h).symm⟩

end Completions

-- ---------------------------------------------------------------------------
-- Passages
-- ---------------------------------------------------------------------------

namespace Passages

/-- A path is a text that is not empty; an empty one or null is none. -/
inductive IsPath : Draft → Option String → Prop where
  | null : IsPath .null none
  | empty {draft : Draft} (h : IsText draft "") : IsPath draft none
  | path {draft : Draft} {path : String} (h : IsText draft path) (hne : path ≠ "") :
      IsPath draft (some path)

/-- A result has a content, and may have a score and a path. -/
def IsResult (draft : Draft) (hit : SearchHit) : Prop :=
  ∃ listed fields, draft.Writes ["content", "score", "filePath"] listed fields ∧
    Gives fields "content" IsText hit.text ∧
    GivesOr fields "score" IsScore .zero hit.score ∧
    GivesOr fields "filePath" IsPath none hit.filePath

/-- Findings have a list of results, or none. -/
def IsFindings (draft : Draft) (hits : List SearchHit) : Prop :=
  ∃ listed fields, draft.Writes ["results"] listed fields ∧
    GivesOr fields "results" (Draft.IsListOf IsResult) [] hits

/-- The bytes of a response give passages: those of its results, in order. -/
def Finds (bytes : List UInt8) (hits : List SearchHit) : Prop :=
  ∃ draft, Draft.read? bytes = some draft ∧ IsFindings draft hits

theorem isPath_iff {path : Option String} : IsPath draft path ↔
    ∃ text, IsNullableText draft text ∧ text.filter (!·.isEmpty) = path := by
  constructor
  · rintro (_ | h | ⟨h, hne⟩)
    · exact ⟨none, .null, rfl⟩
    · exact ⟨some "", .text h, rfl⟩
    · exact ⟨_, .text h, by simpa using hne⟩
  · rintro ⟨text, h, rfl⟩
    cases h with
    | null => exact .null
    | @text _ s h =>
      by_cases hs : s = ""
      · subst hs
        exact .empty h
      · have hkept : (some s).filter (!·.isEmpty) = some s := by simpa using hs
        rw [hkept]
        exact .path h hs

theorem givesOr_path_iff {fields : List (String × Draft)} {name : String} {path : Option String} :
    GivesOr fields name IsPath none path ↔
      ∃ text, GivesOr fields name IsNullableText none text ∧ text.filter (!·.isEmpty) = path := by
  constructor
  · rintro (⟨value, hvalue, hpath⟩ | ⟨hmissing, rfl⟩)
    · obtain ⟨text, htext, hfilter⟩ := isPath_iff.1 hpath
      exact ⟨text, .inl ⟨value, hvalue, htext⟩, hfilter⟩
    · exact ⟨none, .inr ⟨hmissing, rfl⟩, rfl⟩
  · rintro ⟨text, ⟨value, hvalue, htext⟩ | ⟨hmissing, rfl⟩, hfilter⟩
    · exact .inl ⟨value, hvalue, isPath_iff.2 ⟨text, htext, hfilter⟩⟩
    · exact .inr ⟨hmissing, hfilter.symm⟩

theorem decodes_hit : Decodes hit? IsResult := by
  intro draft hit
  refine bind_record?_eq_some_iff.trans (exists_congr fun listed => exists_congr fun fields =>
    and_congr_right fun h => ?_)
  let r := Record.ofKnown ["content", "score", "filePath"] listed fields
  have htext {s : String} : r.required "content" text? = some s ↔ Gives fields "content" IsText s :=
    h.required_eq_some_iff (by decide) (by decide) decodes_text
  have hscore {x : Floating} :
      r.withDefault "score" (fun draft => (scalar? draft).bind asSingle?) .zero = some x ↔
        GivesOr fields "score" IsScore .zero x :=
    h.withDefault_eq_some_iff (by decide) (by decide) decodes_score
  have hpath {text : Option String} :
      r.withDefault "filePath" nullableText? none = some text ↔
        GivesOr fields "filePath" IsNullableText none text :=
    h.withDefault_eq_some_iff (by decide) (by decide) decodes_nullableText
  rw [givesOr_path_iff, ← htext, ← hscore]
  simp only [← hpath]
  constructor
  · intro hread
    obtain ⟨text, hgivenText, hread⟩ := Option.bind_eq_some_iff.1 hread
    obtain ⟨score, hgivenScore, hread⟩ := Option.bind_eq_some_iff.1 hread
    obtain ⟨path, hgivenPath, hread⟩ := Option.bind_eq_some_iff.1 hread
    obtain rfl := Option.some.inj hread
    exact ⟨hgivenText, hgivenScore, path, hgivenPath, rfl⟩
  · rintro ⟨hgivenText, hgivenScore, path, hgivenPath, hfilter⟩
    refine Option.bind_eq_some_iff.2 ⟨hit.text, hgivenText, ?_⟩
    refine Option.bind_eq_some_iff.2 ⟨hit.score, hgivenScore, ?_⟩
    refine Option.bind_eq_some_iff.2 ⟨path, hgivenPath, ?_⟩
    rw [hfilter]
    rfl

theorem decodes_hits : Decodes hits? IsFindings := by
  intro draft hits
  refine bind_record?_eq_some_iff.trans (exists_congr fun listed => exists_congr fun fields =>
    and_congr_right fun h => ?_)
  exact h.withDefault_eq_some_iff (by decide) (by decide) (decodes_listOf decodes_hit)

end Passages

-- ---------------------------------------------------------------------------
-- Responses
-- ---------------------------------------------------------------------------

/-- The status of a response says that the request was fulfilled. -/
def Response.Succeeds (r : Response) : Prop := 200 ≤ r.status ∧ r.status < 300

instance (r : Response) : Decidable r.Succeeds :=
  inferInstanceAs (Decidable (200 ≤ r.status ∧ r.status < 300))

/-- The error of a response with another status, whoever was asked. -/
inductive IsRefusal (r : Response) : ServiceError → Prop where
  | unauthorized (h : r.status = 401 ∨ r.status = 403) :
      IsRefusal r (.unauthorized "Invalid API key or insufficient permissions")
  | rateLimited (h : r.status = 429) : IsRefusal r .rateLimited
  | other (hfails : ¬ r.Succeeds) (hauthorized : r.status ≠ 401 ∧ r.status ≠ 403)
      (hunlimited : r.status ≠ 429) : IsRefusal r (.api r.status (Text.decodeLossy r.body))

/-- A result is right for a response, by what the bytes of a successful one can say. -/
structure Classified (means : List UInt8 → α → Prop) (r : Response)
    (result : Except ServiceError α) : Prop where
  answered : ∀ x, result = .ok x ↔ r.Succeeds ∧ means r.body x
  invalid : (∃ reason, result = .error (.invalidResponse reason)) ↔
    r.Succeeds ∧ ∀ x, ¬ means r.body x
  refused : ¬ r.Succeeds → ∃ e, IsRefusal r e ∧ result = .error e

variable {r : Response}

theorem isRefusal_statusError (h : ¬ r.Succeeds) :
    IsRefusal r (statusError r.status (Text.decodeLossy r.body)) := by
  simp only [statusError, Bool.or_eq_true, decide_eq_true_eq]
  split
  · next hstatus => exact .unauthorized hstatus
  · next hauthorized =>
    split
    · next hstatus => exact .rateLimited hstatus
    · next hunlimited => exact .other h (not_or.1 hauthorized) hunlimited

theorem IsRefusal.eq_statusError {e : ServiceError} (h : IsRefusal r e) :
    e = statusError r.status (Text.decodeLossy r.body) := by
  simp only [statusError, Bool.or_eq_true, decide_eq_true_eq]
  cases h with
  | unauthorized hstatus => rw [if_pos hstatus]
  | rateLimited hstatus =>
    rw [hstatus]
    rfl
  | other _ hauthorized hunlimited => rw [if_neg (not_or.2 hauthorized), if_neg hunlimited]

theorem existsUnique_isRefusal (h : ¬ r.Succeeds) : ∃! e, IsRefusal r e :=
  ⟨_, isRefusal_statusError h, fun _ he => he.eq_statusError⟩

theorem IsRefusal.ne_invalidResponse {e : ServiceError} (h : IsRefusal r e) (reason : String) :
    e ≠ .invalidResponse reason := by
  cases h <;> exact ServiceError.noConfusion

/-- What reads the bytes of a successful response decides what the response means. -/
theorem classified_classify {read : List UInt8 → Except ServiceError α}
    {means : List UInt8 → α → Prop} (hread : ∀ bytes x, read bytes = .ok x ↔ means bytes x)
    (hinvalid : ∀ bytes e, read bytes = .error e → ∃ reason, e = .invalidResponse reason)
    (r : Response) : Classified means r (classify read r) := by
  by_cases h : r.Succeeds
  · rw [classify_success h.1 h.2]
    refine ⟨fun x => by rw [hread, and_iff_right h], ?_, fun hfails => absurd h hfails⟩
    rw [and_iff_right h]
    simp only [← hread]
    cases hbytes : read r.body with
    | ok x =>
      refine ⟨fun hreason => ?_, fun hnone => absurd rfl (hnone x)⟩
      obtain ⟨_, hreason⟩ := hreason
      cases hreason
    | error e =>
      obtain ⟨reason, rfl⟩ := hinvalid _ _ hbytes
      refine ⟨fun _ x hx => ?_, fun _ => ⟨reason, rfl⟩⟩
      cases hx
  · have hclassify : classify read r = .error (statusError r.status (Text.decodeLossy r.body)) := by
      rw [classify, if_neg]
      rwa [Bool.and_eq_true, decide_eq_true_eq, decide_eq_true_eq]
    have hrefusal := isRefusal_statusError h
    rw [hclassify]
    refine ⟨fun x => ⟨fun hx => ?_, fun hx => absurd hx.1 h⟩,
      ⟨fun hreason => ?_, fun hnone => absurd hnone.1 h⟩, fun _ => ⟨_, hrefusal, rfl⟩⟩
    · cases hx
    · obtain ⟨reason, hreason⟩ := hreason
      exact absurd (Except.error.inj hreason) (hrefusal.ne_invalidResponse reason)

theorem Completions.classified (r : Response) : Classified Says r (classify answerText r) :=
  classified_classify (fun _ _ => answerText_eq_ok_iff) (fun _ _ => answerText_eq_error) r

theorem Passages.classified (r : Response) : Classified Finds r (classify (readBody hits?) r) :=
  classified_classify (fun _ _ => readBody_eq_ok_iff decodes_hits)
    (fun _ _ h => ⟨_, readBody_eq_error h⟩) r

-- ---------------------------------------------------------------------------
-- Calls
-- ---------------------------------------------------------------------------

/-- A call delivers a response after some time, before its request is cancelled and in time. -/
structure Delivers (call : Call Response) (context : RequestContext) (now : Moment)
    (after : Duration) (r : Response) : Prop where
  answer : call.answer = some { after, result := .ok r }
  free : ∀ moment, context.cancelledFrom = some moment → now + after < moment
  inTime : ∀ moment, context.deadline = some moment → now + after ≤ moment

theorem Delivers.answer_guarded {call : Call Response} {context : RequestContext} {now : Moment}
    {after : Duration} (h : Delivers call context now after r)
    (hopen : context.isCancelled now = false) (htime : context.remaining now ≠ some 0)
    (f : Response → Except ServiceError α) :
    ((call.map f).guarded context now none).answer = some { after, result := f r } := by
  have hanswer : (call.map f).answer = some { after, result := f r } := by
    rw [Call.map, h.answer]
    rfl
  have hleft : context.timeLeft now none = timeOf (context.remaining now) :=
    (timeOf_lesser none _).symm
  have hpos : 0 < context.timeLeft now none := by
    rw [hleft, pos_iff_ne_zero]
    exact fun hzero => htime (timeOf_eq_coe_iff.1 hzero)
  have hfree : (call.map f).time < context.untilCancelled now := by
    rw [Call.time_of_answer hanswer]
    refine coe_lt_timeOf_iff.2 fun left hcancelled => ?_
    obtain ⟨moment, hmoment, rfl⟩ := Option.map_eq_some_iff.1 hcancelled
    exact Nat.lt_sub_iff_add_lt'.2 (h.free moment hmoment)
  have hlimit : (call.map f).time ≤ context.timeLeft now none := by
    rw [Call.time_of_answer hanswer, hleft]
    refine coe_le_timeOf_iff.2 fun left hremaining => ?_
    obtain ⟨moment, hmoment, rfl⟩ := Option.map_eq_some_iff.1 hremaining
    exact Nat.le_sub_of_add_le' (h.inTime moment hmoment)
  rw [Call.guarded_of_guards (.answered hopen hpos hfree hlimit), hanswer]

/-- A call to either service under a request that is cancelled or has no time left ends at once
without reaching it. Otherwise a response that comes within the bounds of the request decides: its
status alone, and in the same way for both, unless it is one of success, and then what its bytes
say. -/
theorem services_classified (transport : Transport) (settings : LlmSettings) (endpoint : String)
    (systemPrompt : String) (messages : List Message) (query : SearchQuery)
    (context : RequestContext) (now : Moment) :
    let generation :=
      (Completions.generator transport settings).generate context now systemPrompt messages
    let search := (Passages.searcherAt transport endpoint).search context now query
    (context.isCancelled now = true →
      generation = .refused .cancelled ∧ search = .refused .cancelled) ∧
    (context.isCancelled now = false → context.remaining now = some 0 →
      generation = .refused (.timeout 0) ∧ search = .refused (.timeout 0)) ∧
    (context.isCancelled now = false → context.remaining now ≠ some 0 → ∀ after r,
      (∀ request, Completions.request? settings systemPrompt messages = some request →
        Delivers (transport.send request) context now after r →
          ∃ result, generation.answer = some { after, result } ∧
            Classified Completions.Says r result) ∧
      (Delivers (transport.send (Passages.request endpoint query)) context now after r →
        ∃ result, search.answer = some { after, result } ∧ Classified Passages.Finds r result)) ∧
    ∀ r : Response, ¬ r.Succeeds → ∃! e, IsRefusal r e := by
  intro generation search
  have hlimit : lesser none (context.remaining now) = context.remaining now := rfl
  refine ⟨fun hcancelled => ⟨?_, ?_⟩, fun hopen hzero => ⟨?_, ?_⟩,
    fun hopen htime after r => ⟨fun request hrequest hdelivers => ?_, fun hdelivers => ?_⟩,
    fun r => existsUnique_isRefusal⟩
  · exact Call.guarded_of_isCancelled hcancelled none _
  · exact Call.guarded_of_isCancelled hcancelled none _
  · exact Call.guarded_of_limit_zero hopen (hlimit.trans hzero) _
  · exact Call.guarded_of_limit_zero hopen (hlimit.trans hzero) _
  · refine ⟨_, ?_, Completions.classified r⟩
    simp only [generation, Completions.generator, hrequest]
    exact hdelivers.answer_guarded hopen htime _
  · exact ⟨_, hdelivers.answer_guarded hopen htime _, Passages.classified r⟩

/-- A text is generated in time and a search is not authorised. Later the request is cancelled. -/
theorem services_classified_both :
    let completion := Text.encode
      "\x7b\"choices\":[\x7b\"message\":\x7b\"content\":\"Hi\"\x7d\x7d],\"usage\":null\x7d"
    let transport : Transport :=
      { send := fun request => { answer := some {
          after := 2
          result := .ok (if request.url = "closed" then ⟨403, []⟩ else ⟨200, completion⟩) } } }
    let query : SearchQuery := ⟨"main", "", 5, .zero⟩
    let context : RequestContext := { deadline := some 9, cancelledFrom := some 5 }
    ((Completions.generator transport {}).generate context 1 "" []).answer =
        some { after := 2, result := .ok "Hi" } ∧
      ((Passages.searcherAt transport "closed").search context 1 query).answer =
        some { after := 2,
               result := .error (.unauthorized "Invalid API key or insufficient permissions") } ∧
      (Completions.generator transport {}).generate context 5 "" [] = .refused .cancelled := by
  intro completion transport query context
  obtain ⟨-, -, hopen, -⟩ := services_classified transport {} "closed" "" [] query context 1
  obtain ⟨hcancelled, -⟩ := services_classified transport {} "closed" "" [] query context 5
  have hresponses := hopen rfl (by decide) 2
  obtain ⟨generated, hgenerated, hanswer⟩ :=
    (hresponses ⟨200, completion⟩).1 _ rfl ⟨rfl, by decide, by decide⟩
  obtain ⟨found, hfound, hrefusal⟩ := (hresponses ⟨403, []⟩).2 ⟨rfl, by decide, by decide⟩
  have hsaid : Completions.Says completion "Hi" :=
    Completions.answerText_eq_ok_iff.1 (by decide +kernel)
  refine ⟨?_, ?_, (hcancelled rfl).1⟩
  · rw [hgenerated, (hanswer.answered "Hi").2 ⟨by decide, hsaid⟩]
  · obtain ⟨e, he, rfl⟩ := hrefusal.refused (by decide)
    rw [hfound]
    cases he with
    | unauthorized _ => rfl
    | rateLimited hstatus => exact absurd hstatus (by decide)
    | other _ hauthorized _ => exact absurd rfl hauthorized.2

end Http

end PromptBudget
