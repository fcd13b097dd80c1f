import PromptBudget.Json.Record

/-!
# PromptBudget — objects as maps

The fields of an object may come in any order, and a key may come twice. Read as a map, an object
has for each key the last value that is given for it; `toMap` writes this map down in ascending
order of the keys. Two ascending lists of fields with the same values for all keys are the same
list, so equality of canonical values is equality as maps.

Main results:

* `lookup_toMap` — the map of some fields has the last value of each key.
* `ext_of_lookup` — ascending fields are determined by the values of their keys.
* `canonical_of_isCanonical` — a canonical value is its own canonical form.
* `Extras.ofFields_fields` — kept fields are their own map.
-/

namespace PromptBudget.Json

variable {α β : Type}

/-- The value of the last field with a key. -/
def lookupLast (key : String) (fields : List (String × α)) : Option α := lookup key fields.reverse

-- ---------------------------------------------------------------------------
-- Looking up a key
-- ---------------------------------------------------------------------------

theorem lookup_append (key : String) (a b : List (String × α)) :
    lookup key (a ++ b) = (lookup key a).or (lookup key b) := by
  induction a with
  | nil => rfl
  | cons field rest ih =>
    obtain ⟨k, v⟩ := field
    by_cases h : k = key
    · simp [lookup, h]
    · simp [lookup, h, ih]

theorem lookupLast_cons (key k : String) (v : α) (rest : List (String × α)) :
    lookupLast key ((k, v) :: rest) =
      (lookupLast key rest).or (if k = key then some v else none) := by
  rw [lookupLast, List.reverse_cons, lookup_append]
  rfl

/-- Fields with their values changed. -/
theorem lookup_map (f : α → β) (key : String) (fields : List (String × α)) :
    lookup key (fields.map fun field => (field.1, f field.2)) = (lookup key fields).map f := by
  induction fields with
  | nil => rfl
  | cons field rest ih =>
    obtain ⟨k, v⟩ := field
    by_cases h : k = key
    · simp [lookup, h]
    · simp [lookup, h, ih]

theorem lookup_eq_none_iff {key : String} {fields : List (String × α)} :
    lookup key fields = none ↔ occurrences key fields = 0 := by
  induction fields with
  | nil => simp [lookup, occurrences]
  | cons field rest ih =>
    obtain ⟨k, v⟩ := field
    unfold occurrences at ih ⊢
    by_cases h : k = key
    · simp [lookup, h]
    · simp [lookup, h, ih]

theorem occurrences_append (key : String) (a b : List (String × α)) :
    occurrences key (a ++ b) = occurrences key a + occurrences key b :=
  List.countP_append

/-- A key that does not come twice has one value, first and last. -/
theorem lookupLast_eq_lookup {key : String} {fields : List (String × α)}
    (h : occurrences key fields ≤ 1) : lookupLast key fields = lookup key fields := by
  induction fields with
  | nil => rfl
  | cons field rest ih =>
    obtain ⟨k, v⟩ := field
    rw [← List.singleton_append, occurrences_append] at h
    rw [lookupLast_cons, lookup, ih (by omega)]
    by_cases hk : k = key
    · -- then the key is not among the other fields
      have hone : occurrences key [(k, v)] = 1 := by simp [occurrences, hk]
      have hnone : lookup key rest = none := lookup_eq_none_iff.2 (by omega)
      simp [hk, hnone]
    · simp [hk]

-- ---------------------------------------------------------------------------
-- Ascending fields
-- ---------------------------------------------------------------------------

theorem ascending_tail {field : String × α} {rest : List (String × α)}
    (h : ascending (field :: rest) = true) : ascending rest = true := by
  cases rest with
  | nil => rfl
  | cons next rest =>
    simp only [ascending, Bool.and_eq_true] at h
    exact h.2

/-- A key that is less than the first one is not there. -/
theorem lookup_eq_none_of_lt {key k : String} {v : α} {rest : List (String × α)}
    (h : ascending ((k, v) :: rest) = true) (hlt : key < k) :
    lookup key ((k, v) :: rest) = none := by
  have hne {a b : String} (hab : a < b) : ¬ b = a := fun heq => String.lt_irrefl a (heq ▸ hab)
  induction rest generalizing k v with
  | nil => simp [lookup, hne hlt]
  | cons next rest ih =>
    obtain ⟨l, w⟩ := next
    rw [lookup, if_neg (hne hlt)]
    simp only [ascending, Bool.and_eq_true, decide_eq_true_eq] at h
    exact ih h.2 (String.lt_trans hlt h.1)

/-- The first key does not come again. -/
theorem lookup_tail {k : String} {v : α} {rest : List (String × α)}
    (h : ascending ((k, v) :: rest) = true) : lookup k rest = none := by
  cases rest with
  | nil => rfl
  | cons next rest =>
    obtain ⟨l, w⟩ := next
    have hlt : k < l := by
      simp only [ascending, Bool.and_eq_true, decide_eq_true_eq] at h
      exact h.1
    exact lookup_eq_none_of_lt (ascending_tail h) hlt

theorem occurrences_of_ascending {fields : List (String × α)} (h : ascending fields = true)
    (key : String) : occurrences key fields ≤ 1 := by
  induction fields with
  | nil => exact Nat.zero_le 1
  | cons field rest ih =>
    obtain ⟨k, v⟩ := field
    have hrest := ih (ascending_tail h)
    rw [← List.singleton_append, occurrences_append]
    by_cases hk : k = key
    · have hnone := lookup_eq_none_iff.1 (hk ▸ lookup_tail h)
      rw [hnone]
      exact List.countP_le_length
    · have hzero : occurrences key [(k, v)] = 0 := by simp [occurrences, hk]
      omega

/-- Ascending fields with the same values for all keys are the same. -/
theorem ext_of_lookup {a b : List (String × α)} (ha : ascending a = true) (hb : ascending b = true)
    (h : ∀ key, lookup key a = lookup key b) : a = b := by
  induction a generalizing b with
  | nil =>
    cases b with
    | nil => rfl
    | cons field rest =>
      have := h field.1
      simp [lookup] at this
  | cons field rest ih =>
    obtain ⟨k, v⟩ := field
    cases b with
    | nil =>
      have := h k
      simp [lookup] at this
    | cons field' rest' =>
      obtain ⟨l, w⟩ := field'
      have hk := h k
      have hl := h l
      rw [lookup, if_pos rfl] at hk
      rw [show lookup l ((l, w) :: rest') = some w by rw [lookup, if_pos rfl]] at hl
      rcases Std.lt_trichotomy k l with hlt | heq | hlt
      · -- the lesser of two different first keys is missing on the other side
        rw [lookup_eq_none_of_lt hb hlt] at hk
        cases hk
      · subst heq
        rw [lookup, if_pos rfl] at hk
        obtain rfl := Option.some.inj hk
        refine congrArg _ (ih (ascending_tail ha) (ascending_tail hb) fun key => ?_)
        by_cases hkey : k = key
        · rw [← hkey, lookup_tail ha, lookup_tail hb]
        · have := h key
          rwa [lookup, if_neg hkey, lookup, if_neg hkey] at this
      · rw [lookup_eq_none_of_lt ha hlt] at hl
        cases hl

-- ---------------------------------------------------------------------------
-- The map of some fields
-- ---------------------------------------------------------------------------

theorem lookup_foldl_place (key : String) (fields map : List (String × α)) :
    lookup key (fields.foldl (fun map field => place field.1 field.2 map) map) =
      (lookupLast key fields).or (lookup key map) := by
  induction fields generalizing map with
  | nil => rfl
  | cons field rest ih =>
    obtain ⟨k, v⟩ := field
    rw [List.foldl_cons, ih, lookup_place, lookupLast_cons, Option.or_assoc]
    by_cases h : k = key
    · rw [if_pos h, if_pos h, Option.some_or]
    · rw [if_neg h, if_neg h, Option.none_or]

/-- The map of some fields has the last value of each key. -/
theorem lookup_toMap (key : String) (fields : List (String × α)) :
    lookup key (toMap fields) = lookupLast key fields := by
  rw [toMap, lookup_foldl_place]
  exact Option.or_none

theorem ascending_foldl_place (fields : List (String × α)) {map : List (String × α)}
    (h : ascending map = true) :
    ascending (fields.foldl (fun map field => place field.1 field.2 map) map) = true := by
  induction fields generalizing map with
  | nil => exact h
  | cons field rest ih => exact ih (ascending_place field.1 field.2 map h)

theorem ascending_toMap (fields : List (String × α)) : ascending (toMap fields) = true :=
  ascending_foldl_place fields rfl

/-- Two lists of fields are the same map if they have the same last values. -/
theorem toMap_eq_iff {a b : List (String × α)} :
    toMap a = toMap b ↔ ∀ key, lookupLast key a = lookupLast key b := by
  constructor
  · intro h key
    rw [← lookup_toMap, h, lookup_toMap]
  · intro h
    refine ext_of_lookup (ascending_toMap a) (ascending_toMap b) fun key => ?_
    rw [lookup_toMap, lookup_toMap, h]

theorem toMap_of_ascending {fields : List (String × α)} (h : ascending fields = true) :
    toMap fields = fields := by
  refine ext_of_lookup (ascending_toMap fields) h fun key => ?_
  rw [lookup_toMap, lookupLast_eq_lookup (occurrences_of_ascending h key)]

-- ---------------------------------------------------------------------------
-- Canonical values
-- ---------------------------------------------------------------------------

theorem canonicalItems_eq_map (items : List Json) : canonicalItems items = items.map canonical := by
  induction items with
  | nil => rfl
  | cons value rest ih => rw [canonicalItems, ih, List.map_cons]

theorem canonicalFields_eq_map (fields : List (String × Json)) :
    canonicalFields fields = fields.map fun field => (field.1, canonical field.2) := by
  induction fields with
  | nil => rfl
  | cons field rest ih =>
    obtain ⟨key, value⟩ := field
    rw [canonicalFields, ih, List.map_cons]

theorem lookupLast_canonicalFields (key : String) (fields : List (String × Json)) :
    lookupLast key (canonicalFields fields) = (lookupLast key fields).map canonical := by
  rw [lookupLast, canonicalFields_eq_map, ← List.map_reverse, lookup_map]
  rfl

mutual

theorem canonical_of_isCanonical :
    (value : Json) → isCanonical value = true → canonical value = value
  | .null, _ | .bool _, _ | .number _, _ | .string _, _ => rfl
  | .array items, h => by
    rw [isCanonical] at h
    rw [canonical, canonicalItems_of_isCanonical items h]
  | .object fields, h => by
    rw [isCanonical, Bool.and_eq_true] at h
    rw [canonical, canonicalFields_of_isCanonical fields h.2, toMap_of_ascending h.1]

theorem canonicalItems_of_isCanonical :
    (items : List Json) → isCanonicalItems items = true → canonicalItems items = items
  | [], _ => rfl
  | value :: rest, h => by
    rw [isCanonicalItems, Bool.and_eq_true] at h
    rw [canonicalItems, canonical_of_isCanonical value h.1,
      canonicalItems_of_isCanonical rest h.2]

theorem canonicalFields_of_isCanonical :
    (fields : List (String × Json)) → isCanonicalFields fields = true →
      canonicalFields fields = fields
  | [], _ => rfl
  | (key, value) :: rest, h => by
    rw [isCanonicalFields, Bool.and_eq_true] at h
    rw [canonicalFields, canonical_of_isCanonical value h.1,
      canonicalFields_of_isCanonical rest h.2]

end

theorem canonical_canonical (value : Json) : canonical (canonical value) = canonical value :=
  canonical_of_isCanonical _ (isCanonical_canonical value)

/-- Objects are the same as maps if each key has the same last value on both sides. -/
theorem canonical_object_eq_iff {a b : List (String × Json)} :
    canonical (.object a) = canonical (.object b) ↔
      ∀ key, (lookupLast key a).map canonical = (lookupLast key b).map canonical := by
  rw [canonical, canonical, Json.object.injEq, toMap_eq_iff]
  simp only [lookupLast_canonicalFields]

-- ---------------------------------------------------------------------------
-- Kept fields
-- ---------------------------------------------------------------------------

namespace Extras

/-- The map of some fields has the canonical forms of their last values. -/
theorem lookup_ofFields (key : String) (fields : List (String × Json)) :
    lookup key (ofFields fields).fields = (lookupLast key fields).map canonical := by
  rw [ofFields, lookup_toMap, lookupLast_canonicalFields]

theorem ofFields_fields (extras : Extras) : ofFields extras.fields = extras := by
  obtain ⟨fields, hascending, hcanonical⟩ := extras
  simp only [ofFields, canonicalFields_of_isCanonical fields hcanonical,
    toMap_of_ascending hascending]

end Extras

end PromptBudget.Json
