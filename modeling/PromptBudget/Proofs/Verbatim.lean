import PromptBudget.Proofs.RoundTrip

/-!
# PromptBudget — messages that are forwarded as they came

A message that nothing touches is read and written again. As a value it is then what the client gave
if every known field was given in the form in which it is written. A role, a kind of block and a
cache hint can be given in other forms, which a reader takes and a writer does not use.

What does not come back although it was given in the usual form is an empty text of a block, which
is not written, and any key of a cache hint other than its kind, which is not read.

Main results:

* `canonical_record_eq_iff` — a record comes back if its known fields do, one by one.
* `Block.canonical_encode_iff` — which blocks come back.
* `Message.encode_verbatim_iff` — which messages of the usual form come back.
* `Message.not_encode_verbatim` — not all of them do.
-/

namespace PromptBudget

open Json

-- ---------------------------------------------------------------------------
-- Records
-- ---------------------------------------------------------------------------

/-- A record that was read is written as it came if each known field is. The other fields are kept
in any case. -/
theorem canonical_record_eq_iff {names : List String} {known given : List (String × Json)}
    (hknown : known.all (fun field => names.contains field.1) = true)
    (htwice : noneTwice names known = true) (hgiven : noneTwice names given = true) :
    canonical (.object (known ++ (extrasOf names given).fields)) = canonical (.object given) ↔
      ∀ name ∈ names,
        (lookup name known).map canonical = (lookup name given).map canonical := by
  have hextras := avoids_extrasOf names given
  rw [canonical_object_eq_iff]
  constructor
  · intro h name hname
    have hwritten : occurrences name (known ++ (extrasOf names given).fields) ≤ 1 :=
      occurrences_of_noneTwice (by rw [noneTwice_known hextras, htwice]) hname
    have := h name
    rwa [lookupLast_eq_lookup hwritten, lookup_known hextras hname,
      lookupLast_eq_lookup (occurrences_of_noneTwice hgiven hname)] at this
  · intro h name
    by_cases hname : name ∈ names
    · have hwritten : occurrences name (known ++ (extrasOf names given).fields) ≤ 1 :=
        occurrences_of_noneTwice (by rw [noneTwice_known hextras, htwice]) hname
      rw [lookupLast_eq_lookup hwritten, lookup_known hextras hname,
        lookupLast_eq_lookup (occurrences_of_noneTwice hgiven hname), h name hname]
    · -- the name of a kept field, which no known field has
      have hnone : occurrences name known = 0 := by
        refine List.countP_eq_zero.2 fun field hfield => ?_
        have hcontains := List.all_eq_true.1 hknown field hfield
        rw [List.contains_iff_mem] at hcontains
        simp only [beq_iff_eq]
        exact fun heq => hname (heq ▸ hcontains)
      have hone : occurrences name (known ++ (extrasOf names given).fields) ≤ 1 := by
        rw [occurrences_append, hnone, Nat.zero_add]
        exact occurrences_of_ascending (extrasOf names given).ascending_fields name
      rw [lookupLast_eq_lookup hone, lookup_append, lookup_eq_none_iff.2 hnone, Option.none_or,
        lookup_extrasOf hname, Option.map_map]
      cases lookupLast name given with
      | none => rfl
      | some value => exact congrArg some (canonical_canonical value)

-- ---------------------------------------------------------------------------
-- Blocks
-- ---------------------------------------------------------------------------

/-- A name that is given as a text is written in the same way, and one that is given as an object is
not. -/
theorem canonical_eq_string_iff {value : Json} {name : String}
    (h : variant? .json value = some name) :
    (some (.string name) : Option Json) = some (canonical value) ↔
      ∃ s, value = .string s := by
  cases value with
  | string s =>
    obtain rfl := Option.some.inj h
    exact ⟨fun _ => ⟨s, rfl⟩, fun _ => rfl⟩
  | object fields =>
    constructor
    · intro heq
      cases Option.some.inj heq
    · rintro ⟨s, ⟨⟩⟩
  | _ => cases h

namespace Block

/-- The fields of a block in the form in which they are written: a name for the kind, no empty text,
and a hint with nothing but its kind. -/
structure AsWritten (given : List (String × Json)) : Prop where
  kind : ∃ name, lookup "type" given = some (.string name)
  text : lookup "text" given ≠ some (.string "")
  hint : ∀ hint, lookup "cache_control" given = some hint →
    canonical hint = CacheHint.encode .ephemeral

variable {place : CacheHint.Place} {given : List (String × Json)} {b : Block}

theorem kind_as_written (h : (lookup "type" given).bind Kind.decode? = some b.kind) :
    (some b.kind.encode : Option Json) = (lookup "type" given).map canonical ↔
      ∃ name, lookup "type" given = some (.string name) := by
  obtain ⟨value, hvalue, hkind⟩ := Option.bind_eq_some_iff.1 h
  rw [hvalue, Option.map_some]
  have hname : ∃ name, variant? .json value = some name ∧ b.kind.encode = .string name := by
    unfold Kind.decode? at hkind
    split at hkind
    · next hname => exact ⟨_, hname, by rw [← Option.some.inj hkind]; rfl⟩
    · next hname => exact ⟨_, hname, by rw [← Option.some.inj hkind]; rfl⟩
    · cases hkind
  obtain ⟨name, hname, hencode⟩ := hname
  rw [hencode, canonical_eq_string_iff hname]
  simp only [Option.some.injEq]

theorem text_as_written (h : (lookup "text" given).elim (some "") asString? = some b.text) :
    ((if b.text.isEmpty then none else some (.string b.text)) : Option Json) =
        (lookup "text" given).map canonical ↔
      lookup "text" given ≠ some (.string "") := by
  cases hvalue : lookup "text" given with
  | none =>
    rw [hvalue, Option.elim_none] at h
    rw [← Option.some.inj h]
    exact ⟨fun _ => nofun, fun _ => rfl⟩
  | some value =>
    rw [hvalue, Option.elim_some] at h
    cases value with
    | string s =>
      obtain rfl := Option.some.inj h
      by_cases hempty : b.text = ""
      · simp [hempty]
      · simp [hempty, canonical]
    | _ => cases h

theorem hint_as_written
    (h : (lookup "cache_control" given).elim (some none) (nullable (CacheHint.decode? place)) =
      some b.cacheHint) :
    (b.cacheHint.map CacheHint.encode).map canonical =
        (lookup "cache_control" given).map canonical ↔
      ∀ hint, lookup "cache_control" given = some hint →
        canonical hint = CacheHint.encode .ephemeral := by
  cases hvalue : lookup "cache_control" given with
  | none =>
    rw [hvalue, Option.elim_none] at h
    rw [← Option.some.inj h]
    exact ⟨fun _ => nofun, fun _ => rfl⟩
  | some value =>
    rw [hvalue, Option.elim_some] at h
    cases hhint : b.cacheHint with
    | none =>
      -- the hint is given as null, which is not written
      have hnull : value = .null := by
        rw [hhint] at h
        unfold nullable at h
        split at h
        · rfl
        · obtain ⟨hint, -, hnone⟩ := Option.map_eq_some_iff.1 h
          cases hnone
      subst hnull
      constructor
      · nofun
      · intro hall
        have := hall .null rfl
        cases this
    | some hint =>
      cases hint
      constructor
      · rintro heq _ ⟨⟩
        exact (Option.some.inj heq).symm
      · intro hall
        exact congrArg some (hall value rfl).symm

/-- A block comes back as it was given if it was given in the form in which blocks are written. -/
theorem canonical_encode_iff (h : decode? place (.object given) = some b) :
    canonical b.encode = canonical (.object given) ↔ AsWritten given := by
  obtain ⟨fields, hfields, htwice, hkind, htext, hhint, hextras⟩ := decode?_eq_some.1 h
  obtain rfl := Json.object.inj hfields
  have hrecord := canonical_record_eq_iff b.all_knownFields b.noneTwice_knownFields htwice
  have hencode : canonical b.kind.encode = b.kind.encode := by cases b.kind <;> rfl
  have htextEncode :
      ((if b.text.isEmpty then none else some (.string b.text)) : Option Json).map canonical =
        if b.text.isEmpty then none else some (.string b.text) := by
    split <;> rfl
  rw [encode_eq, hextras, hrecord]
  simp only [fieldNames, List.forall_mem_cons, List.not_mem_nil, false_imp_iff, implies_true,
    and_true, lookup_type_knownFields, lookup_text_knownFields, lookup_hint_knownFields,
    Option.map_some, hencode, htextEncode]
  rw [kind_as_written hkind, text_as_written htext, hint_as_written hhint]
  exact ⟨fun ⟨hkind, htext, hhint⟩ => ⟨hkind, htext, hhint⟩,
    fun ⟨hkind, htext, hhint⟩ => ⟨hkind, htext, hhint⟩⟩

end Block

-- ---------------------------------------------------------------------------
-- Messages
-- ---------------------------------------------------------------------------

/-- An array of blocks comes back if each of its blocks does. -/
theorem Content.canonical_encode_iff {items : List Json} {content : Content}
    (h : decode? (.array items) = some content) :
    canonical content.encode = canonical (.array items) ↔
      ∀ fields, .object fields ∈ items → Block.AsWritten fields := by
  obtain ⟨bs, hbs, rfl⟩ := Option.map_eq_some_iff.1 h
  have harray : canonical (Content.blocks bs).encode = canonical (.array items) ↔
      (bs.map Block.encode).map canonical = items.map canonical := by
    show canonical (.array (bs.map Block.encode)) = canonical (.array items) ↔ _
    rw [canonical, canonical, Json.array.injEq, canonicalItems_eq_map, canonicalItems_eq_map]
  rw [harray]
  clear harray h
  induction items generalizing bs with
  | nil =>
    obtain rfl := Option.some.inj hbs
    exact ⟨fun _ _ => nofun, fun _ => rfl⟩
  | cons item rest ih =>
    simp only [List.mapM_cons, Option.bind_eq_bind, Option.bind_eq_some_iff, Option.pure_def,
      Option.some.injEq] at hbs
    obtain ⟨b, hb, others, hothers, rfl⟩ := hbs
    obtain ⟨given, rfl, -⟩ := Block.decode?_eq_some.1 hb
    rw [List.map_cons, List.map_cons, List.map_cons, List.cons.injEq]
    refine (and_congr (Block.canonical_encode_iff hb) (ih others hothers)).trans ?_
    constructor
    · rintro ⟨hfirst, hrest⟩ fields hmem
      rcases List.mem_cons.1 hmem with heq | hmem
      · exact Json.object.inj heq ▸ hfirst
      · exact hrest fields hmem
    · intro hall
      exact ⟨hall given List.mem_cons_self,
        fun fields hmem => hall fields (List.mem_cons_of_mem _ hmem)⟩

namespace Message

/-- The usual form of a message: its role is a name, its content a text or an array of objects, and
the cache hints of its blocks are objects with their kind. -/
structure Usual (given : List (String × Json)) : Prop where
  role : ∃ name, lookup "role" given = some (.string name)
  content : (∃ s, lookup "content" given = some (.string s)) ∨
    ∃ items, lookup "content" given = some (.array items) ∧
      ∀ item ∈ items, ∃ fields, item = .object fields
  hint : ∀ items fields hint, lookup "content" given = some (.array items) →
    .object fields ∈ items → lookup "cache_control" fields = some hint →
      ∃ inner, hint = .object inner ∧ lookup "type" inner = some (.string "ephemeral")

/-- A role that is given by its name is written in the same way. -/
theorem role_as_written {name : String} {role : Role}
    (h : Role.decode? (.string name) = some role) : role.encode = .string name := by
  have hname : Role.ofName? name = some role := h
  unfold Role.ofName? at hname
  split at hname
  all_goals cases hname
  all_goals rfl

/-- A message of the usual form comes back as it was given exactly if each of its blocks is in the
form in which blocks are written. -/
theorem encode_verbatim_iff {given : List (String × Json)} {m : Message} (husual : Usual given)
    (h : decode? (.object given) = some m) :
    canonical m.encode = canonical (.object given) ↔
      ∀ items fields, lookup "content" given = some (.array items) → .object fields ∈ items →
        Block.AsWritten fields := by
  obtain ⟨fields, hfields, htwice, hrole, hcontent, hextras, -⟩ := decode?_eq_some.1 h
  obtain rfl := Json.object.inj hfields
  obtain ⟨name, hname⟩ := husual.role
  rw [hname, Option.bind_some] at hrole
  have hrecord := @canonical_record_eq_iff fieldNames
    [("role", m.role.encode), ("content", m.content.encode)] given rfl rfl htwice
  rw [← hextras] at hrecord
  -- the role comes back in any case, so the content decides
  have hcontents : canonical m.encode = canonical (.object given) ↔
      some (canonical m.content.encode) = (lookup "content" given).map canonical := by
    refine hrecord.trans ?_
    rw [fieldNames, List.forall_mem_cons, List.forall_mem_singleton, hname, role_as_written hrole]
    exact and_iff_right rfl
  rw [hcontents]
  rcases husual.content with ⟨s, hs⟩ | ⟨items, hitems, -⟩
  · rw [hs, Option.elim_some] at hcontent
    rw [hs, ← Option.some.inj hcontent]
    exact ⟨fun _ _ _ => nofun, fun _ => rfl⟩
  · rw [hitems, Option.elim_some] at hcontent
    rw [hitems, Option.map_some, Option.some.injEq, Content.canonical_encode_iff hcontent]
    constructor
    · rintro hall _ fields ⟨⟩
      exact hall fields
    · exact fun hall fields => hall items fields rfl

/-- A text with a hint and an image come back as they were given. -/
theorem encode_verbatim_image :
    let given := [("role", .string "user"), ("content", .array [
      .object [("type", .string "text"), ("text", .string "Look"),
        ("cache_control", .object [("type", .string "ephemeral")])],
      .object [("type", .string "image_url"), ("image_url", .string "cat")]])]
    Usual given ∧ ∃ m, decode? (.object given) = some m ∧
      canonical m.encode = canonical (.object given) := by
  intro given
  have husual : Usual given := by
    refine ⟨⟨_, rfl⟩, .inr ⟨_, rfl, ?objects⟩, ?hints⟩
    case objects =>
      intro item hitem
      simp only [List.mem_cons, List.not_mem_nil, or_false] at hitem
      rcases hitem with rfl | rfl
      all_goals exact ⟨_, rfl⟩
    case hints =>
      rintro _ fields hint ⟨⟩ hfields hhint
      simp only [List.mem_cons, List.not_mem_nil, or_false, Json.object.injEq] at hfields
      rcases hfields with rfl | rfl
      · obtain rfl := Option.some.inj hhint
        exact ⟨_, rfl, rfl⟩
      · cases hhint
  refine ⟨husual, _, rfl, (encode_verbatim_iff husual rfl).2 ?_⟩
  rintro _ fields ⟨⟩ hfields
  simp only [List.mem_cons, List.not_mem_nil, or_false, Json.object.injEq] at hfields
  rcases hfields with rfl | rfl
  · refine ⟨⟨_, rfl⟩, by decide, ?_⟩
    rintro _ ⟨⟩
    rfl
  · exact ⟨⟨_, rfl⟩, nofun, nofun⟩

/-- A block with an empty text does not come back with it. -/
theorem not_encode_verbatim :
    ¬ ∀ given m, Usual given → decode? (.object given) = some m →
      canonical m.encode = canonical (.object given) := by
  intro h
  have husual : Usual [("role", .string "user"), ("content", .array [
      .object [("type", .string "text"), ("text", .string "")]])] := by
    refine ⟨⟨_, rfl⟩, .inr ⟨_, rfl, ?objects⟩, ?hints⟩
    case objects =>
      intro item hitem
      exact ⟨_, List.mem_singleton.1 hitem⟩
    case hints =>
      rintro _ fields hint ⟨⟩ hfields hhint
      obtain rfl := Json.object.inj (List.mem_singleton.1 hfields)
      cases hhint
  have hback := h _ _ husual rfl
  revert hback
  decide

end Message

end PromptBudget
