import PromptBudget.Proofs.RoundTrip

/-!
# PromptBudget — messages that are built before they are written

A value that is built before it is written has a map for each object in it: the fields stand in the
order of their keys, and of a field that was put in twice the last value is there. This is the
canonical form of what was put in.

A message that can be read can be read of its canonical form, and is the same. So a message whose
kept fields have names of their own is sent without loss. A kept field with the name of a known one
takes its place, and then no reader gives the message back: what is read has no such field.

Main results:

* `Json.lookup_canonical`, `Json.extrasOf_canonical` — the canonical form of an object has the same
  known fields and the same others.
* `Block.decode?_canonical`, `Message.decode?_canonical` — what can be read is read of its canonical
  form.
-/

namespace PromptBudget

open Json

-- ---------------------------------------------------------------------------
-- Objects
-- ---------------------------------------------------------------------------

section Object

variable {names : List String} {fields : List (String × Json)}

theorem noneTwice_toMap (names : List String) (fields : List (String × Json)) :
    noneTwice names (toMap fields) = true :=
  List.all_eq_true.2 fun name _ =>
    decide_eq_true (occurrences_of_ascending (ascending_toMap fields) name)

/-- A field that is not given twice is there in its canonical form. -/
theorem Json.lookup_canonical {name : String} (h : occurrences name fields ≤ 1) :
    lookup name (toMap (canonicalFields fields)) = (lookup name fields).map canonical := by
  rw [lookup_toMap, lookupLast_canonicalFields, lookupLast_eq_lookup h]

/-- A field that is given once is there once. -/
theorem Json.occurrences_canonical {name : String} (h : occurrences name fields = 1) :
    occurrences name (toMap (canonicalFields fields)) = 1 := by
  have hmost := occurrences_of_ascending (ascending_toMap (canonicalFields fields)) name
  have hthere : occurrences name (toMap (canonicalFields fields)) ≠ 0 := by
    intro hzero
    have hnone := lookup_eq_none_iff.2 hzero
    rw [lookup_canonical (Nat.le_of_eq h), Option.map_eq_none_iff, lookup_eq_none_iff, h] at hnone
    cases hnone
  omega

/-- The kept fields are maps already. -/
theorem Json.extrasOf_canonical (names : List String) (fields : List (String × Json)) :
    extrasOf names (toMap (canonicalFields fields)) = extrasOf names fields := by
  have hsame : (extrasOf names (toMap (canonicalFields fields))).fields =
      (extrasOf names fields).fields := by
    refine ext_of_lookup (Extras.ascending_fields _) (Extras.ascending_fields _) fun key => ?_
    by_cases hkey : key ∈ names
    · exact (avoids_extrasOf names _ key hkey).trans (avoids_extrasOf names fields key hkey).symm
    · have honce := occurrences_of_ascending (ascending_toMap (canonicalFields fields)) key
      rw [lookup_extrasOf hkey, lookup_extrasOf hkey, lookupLast_eq_lookup honce, lookup_toMap,
        lookupLast_canonicalFields, Option.map_map]
      exact congrArg (Option.map · _) (funext canonical_canonical)
  rw [← Extras.ofFields_fields (extrasOf names fields), ← hsame, Extras.ofFields_fields]

end Object

-- ---------------------------------------------------------------------------
-- Names of variants
-- ---------------------------------------------------------------------------

theorem Json.variant?_canonical {value : Json} {name : String}
    (h : variant? .json value = some name) : variant? .json (canonical value) = some name := by
  cases value with
  | string s => exact h
  | object fields =>
    match fields, h with
    | [(key, payload)], h =>
      rw [variant?] at h
      split at h
      · next hunit =>
        have hnull : payload = .null := eq_of_beq hunit
        rw [hnull]
        exact h
      · cases h
    | [], h => cases h
    | _ :: _ :: _, h => cases h
  | _ => cases h

theorem Role.decode?_canonical {value : Json} {role : Role} (h : decode? value = some role) :
    decode? (canonical value) = some role := by
  obtain ⟨name, hname, hrole⟩ := Option.bind_eq_some_iff.1 h
  exact Option.bind_eq_some_iff.2 ⟨name, variant?_canonical hname, hrole⟩

theorem Block.Kind.decode?_canonical {value : Json} {kind : Kind} (h : decode? value = some kind) :
    decode? (canonical value) = some kind := by
  unfold decode? at h ⊢
  cases hname : variant? .json value with
  | none =>
    rw [hname] at h
    cases h
  | some name =>
    rw [variant?_canonical hname]
    rwa [hname] at h

-- ---------------------------------------------------------------------------
-- Blocks
-- ---------------------------------------------------------------------------

namespace CacheHint

variable {place : Place} {value : Json} {hint : CacheHint}

/-- The kind of a hint is no object. -/
theorem canonical_of_ofKind? {kind : Json} (h : ofKind? place kind = some hint) :
    canonical kind = kind := by
  rw [ofKind?] at h
  split at h
  · next hkind =>
    rcases Bool.or_eq_true_iff.1 hkind with hname | hnumber
    · rw [eq_of_beq hname]
      rfl
    · rw [eq_of_beq (Bool.and_eq_true_iff.1 hnumber).2]
      rfl
  · cases h

theorem decode?_canonical (h : decode? place value = some hint) :
    decode? place (canonical value) = some hint := by
  cases value with
  | object fields =>
    rw [decode?] at h
    split at h
    · next honce =>
      obtain ⟨kind, hlookup, hkind⟩ := Option.bind_eq_some_iff.1 h
      have hplaced : lookup "type" (toMap (canonicalFields fields)) = some kind := by
        rw [lookup_canonical (Nat.le_of_eq honce), hlookup, Option.map_some,
          canonical_of_ofKind? hkind]
      rw [canonical, decode?, if_pos (occurrences_canonical honce), hplaced]
      exact hkind
    · cases h
  | array items =>
    match items, h with
    | [kind], h =>
      rw [canonical, canonicalItems, canonicalItems, canonical_of_ofKind? h]
      exact h
    | [], h => cases h
    | _ :: _ :: _, h => cases h
  | _ => cases h

end CacheHint

/-- A block is read of the canonical form of what it can be read of. -/
theorem Block.decode?_canonical {place : CacheHint.Place} {value : Json} {b : Block}
    (h : decode? place value = some b) : decode? place (canonical value) = some b := by
  obtain ⟨fields, rfl, htwice, hkind, htext, hhint, hextras⟩ := decode?_eq_some.1 h
  have hlookup {name : String} (hname : name ∈ fieldNames) :
      lookup name (toMap (canonicalFields fields)) = (lookup name fields).map canonical :=
    lookup_canonical (occurrences_of_noneTwice htwice hname)
  refine decode?_eq_some.2
    ⟨toMap (canonicalFields fields), by rw [canonical], noneTwice_toMap _ _, ?_, ?_, ?_, ?_⟩
  · obtain ⟨value, hvalue, hkind⟩ := Option.bind_eq_some_iff.1 hkind
    rw [hlookup (by decide), hvalue, Option.map_some, Option.bind_some]
    exact Kind.decode?_canonical hkind
  · rw [hlookup (by decide)]
    cases hvalue : lookup "text" fields with
    | none => rwa [hvalue] at htext
    | some value =>
      rw [hvalue, Option.elim_some] at htext
      cases value with
      | string s => exact htext
      | _ => cases htext
  · rw [hlookup (by decide)]
    cases hvalue : lookup "cache_control" fields with
    | none => rwa [hvalue] at hhint
    | some value =>
      rw [hvalue, Option.elim_some] at hhint
      rw [Option.map_some, Option.elim_some]
      cases value with
      | null => exact hhint
      | array items =>
        obtain ⟨hint, hdecode, heq⟩ := Option.map_eq_some_iff.1 hhint
        exact Option.map_eq_some_iff.2 ⟨hint, CacheHint.decode?_canonical hdecode, heq⟩
      | object given =>
        obtain ⟨hint, hdecode, heq⟩ := Option.map_eq_some_iff.1 hhint
        exact Option.map_eq_some_iff.2 ⟨hint, CacheHint.decode?_canonical hdecode, heq⟩
      | _ => cases hhint
  · rw [hextras, extrasOf_canonical]

-- ---------------------------------------------------------------------------
-- Messages
-- ---------------------------------------------------------------------------

theorem Content.decodeNullable?_canonical {value : Json} {content : Content}
    (h : decodeNullable? value = some content) :
    decodeNullable? (canonical value) = some content := by
  cases value with
  | null => exact h
  | string s => exact h
  | array items =>
    obtain ⟨bs, hbs, rfl⟩ := Option.map_eq_some_iff.1 h
    rw [canonical, canonicalItems_eq_map]
    refine Option.map_eq_some_iff.2 ⟨bs, ?_, rfl⟩
    rw [mapM_eq_some_iff, List.forall₂_map_left_iff]
    exact (mapM_eq_some_iff.1 hbs).imp fun _ _ => Block.decode?_canonical
  | _ => cases h

/-- A message is read of the canonical form of what it can be read of. -/
theorem Message.decode?_canonical {value : Json} {m : Message} (h : decode? value = some m) :
    decode? (canonical value) = some m := by
  obtain ⟨fields, rfl, htwice, hrole, hcontent, hextras, horigin⟩ := decode?_eq_some.1 h
  have hlookup {name : String} (hname : name ∈ fieldNames) :
      lookup name (toMap (canonicalFields fields)) = (lookup name fields).map canonical :=
    lookup_canonical (occurrences_of_noneTwice htwice hname)
  refine decode?_eq_some.2
    ⟨toMap (canonicalFields fields), by rw [canonical], noneTwice_toMap _ _, ?_, ?_, ?_, horigin⟩
  · obtain ⟨value, hvalue, hrole⟩ := Option.bind_eq_some_iff.1 hrole
    rw [hlookup (by decide), hvalue, Option.map_some, Option.bind_some]
    exact Role.decode?_canonical hrole
  · rw [hlookup (by decide)]
    cases hvalue : lookup "content" fields with
    | none => rwa [hvalue] at hcontent
    | some value =>
      rw [hvalue, Option.elim_some] at hcontent
      exact Content.decodeNullable?_canonical hcontent
  · rw [hextras, extrasOf_canonical]

end PromptBudget
