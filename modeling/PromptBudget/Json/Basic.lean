import PromptBudget.Number.Floating

/-!
# PromptBudget — JSON values

A JSON value keeps what its text says: an integer is not a floating-point number, and an object is
the list of its fields in order, duplicates included. `canonical` gives the form in which objects
are maps: keys in ascending order, the last of several fields with one key kept, at every level.

Main statements:

* `isCanonical_canonical` — the canonical form is one.
* `lookup_place` — after a field is placed, its key has its value and the other keys keep theirs.
-/

namespace PromptBudget

/-- A JSON number: an integer of 64 bits, signed or unsigned, or a floating-point number. -/
inductive Json.Number where
  /-- Written as an integer that fits in 64 bits. -/
  | int (n : Int)
  /-- Any other number. -/
  | float (x : Floating)
  deriving DecidableEq, Repr, Inhabited

/-- A JSON value. -/
inductive Json where
  | null
  | bool (b : Bool)
  | number (n : Json.Number)
  | string (s : String)
  | array (items : List Json)
  | object (fields : List (String × Json))
  deriving Repr, Inhabited

namespace Json

/-- A natural number as a value. -/
def nat (n : Nat) : Json := .number (.int n)

/-! ## Equality -/

mutual

/-- Whether two values are the same. -/
def same : Json → Json → Bool
  | .null, .null => true
  | .bool a, .bool b => a == b
  | .number a, .number b => decide (a = b)
  | .string a, .string b => a == b
  | .array a, .array b => sameItems a b
  | .object a, .object b => sameFields a b
  | _, _ => false

/-- Whether two lists of values are the same. -/
def sameItems : List Json → List Json → Bool
  | [], [] => true
  | a :: as, b :: bs => same a b && sameItems as bs
  | _, _ => false

/-- Whether two lists of fields are the same. -/
def sameFields : List (String × Json) → List (String × Json) → Bool
  | [], [] => true
  | (k, a) :: as, (l, b) :: bs => k == l && same a b && sameFields as bs
  | _, _ => false

end

mutual

theorem same_iff : (a b : Json) → (same a b = true ↔ a = b)
  | .null, b => by cases b <;> simp [same]
  | .bool a, b => by cases b <;> simp [same]
  | .number a, b => by cases b <;> simp [same]
  | .string a, b => by cases b <;> simp [same]
  | .array a, b => by
    cases b with
    | array b => simp [same, sameItems_iff a b]
    | _ => simp [same]
  | .object a, b => by
    cases b with
    | object b => simp [same, sameFields_iff a b]
    | _ => simp [same]

theorem sameItems_iff : (as bs : List Json) → (sameItems as bs = true ↔ as = bs)
  | [], bs => by cases bs <;> simp [sameItems]
  | a :: as, bs => by
    cases bs with
    | nil => simp [sameItems]
    | cons b bs => simp [sameItems, same_iff a b, sameItems_iff as bs]

theorem sameFields_iff : (as bs : List (String × Json)) → (sameFields as bs = true ↔ as = bs)
  | [], bs => by cases bs <;> simp [sameFields]
  | (k, a) :: as, bs => by
    cases bs with
    | nil => simp [sameFields]
    | cons b bs =>
      obtain ⟨l, b⟩ := b
      simp [sameFields, same_iff a b, sameFields_iff as bs]

end

instance : DecidableEq Json := fun a b =>
  if h : same a b = true then .isTrue ((same_iff a b).1 h)
  else .isFalse fun heq => h ((same_iff a b).2 heq)

/-! ## Objects as maps -/

/-- The value of the first field with a key. -/
def lookup (key : String) : List (String × α) → Option α
  | [] => none
  | (k, v) :: rest => if k = key then some v else lookup key rest

/-- Places a field among fields in ascending order of their keys, over one with the same key. -/
def place (key : String) (value : α) : List (String × α) → List (String × α)
  | [] => [(key, value)]
  | (k, v) :: rest =>
    if key < k then (key, value) :: (k, v) :: rest
    else if key = k then (key, value) :: rest
    else (k, v) :: place key value rest

/-- The fields as a map: keys in ascending order, each with its last value. -/
def toMap (fields : List (String × α)) : List (String × α) :=
  fields.foldl (fun map field => place field.1 field.2 map) []

/-- Whether the keys of fields are in ascending order, without duplicates. -/
def ascending : List (String × α) → Bool
  | [] | [_] => true
  | (k, _) :: (l, v) :: rest => decide (k < l) && ascending ((l, v) :: rest)

mutual

/-- The value with every object in it made a map. -/
def canonical : Json → Json
  | .array items => .array (canonicalItems items)
  | .object fields => .object (toMap (canonicalFields fields))
  | value => value

/-- The canonical forms of values. -/
def canonicalItems : List Json → List Json
  | [] => []
  | value :: rest => canonical value :: canonicalItems rest

/-- Fields with the canonical forms of their values. -/
def canonicalFields : List (String × Json) → List (String × Json)
  | [] => []
  | (key, value) :: rest => (key, canonical value) :: canonicalFields rest

end

mutual

/-- Whether every object in a value is a map. -/
def isCanonical : Json → Bool
  | .array items => isCanonicalItems items
  | .object fields => ascending fields && isCanonicalFields fields
  | _ => true

/-- Whether every object in some values is a map. -/
def isCanonicalItems : List Json → Bool
  | [] => true
  | value :: rest => isCanonical value && isCanonicalItems rest

/-- Whether every object in the values of some fields is a map. -/
def isCanonicalFields : List (String × Json) → Bool
  | [] => true
  | (_, value) :: rest => isCanonical value && isCanonicalFields rest

end

/-! ### Placing a field -/

theorem lookup_place (key : String) (value : α) (fields : List (String × α)) (other : String) :
    lookup other (place key value fields) = if key = other then some value else lookup other fields := by
  induction fields with
  | nil => simp [place, lookup]
  | cons field rest ih =>
    obtain ⟨k, v⟩ := field
    rw [place]
    split
    · simp [lookup]
    · split
      · next heq => subst heq; by_cases h : key = other <;> simp [lookup, h]
      · next hne =>
        by_cases h : key = other
        · subst h
          have : ¬k = key := fun hk => hne hk.symm
          simp [lookup, this, ih]
        · simp [lookup, ih, h]

theorem not_lt_of_ne_of_not_lt {a b : String} (hlt : ¬a < b) (hne : ¬a = b) : b < a := by
  rcases Std.lt_trichotomy a b with h | h | h
  · exact absurd h hlt
  · exact absurd h hne
  · exact h

theorem ascending_place (key : String) (value : α) (fields : List (String × α)) (h : ascending fields = true) :
    ascending (place key value fields) = true := by
  induction fields with
  | nil => rfl
  | cons field rest ih =>
    obtain ⟨k, v⟩ := field
    rw [place]
    split
    · next hlt => simp [ascending, hlt, h]
    · next hnot =>
      split
      · next heq =>
        subst heq
        cases rest with
        | nil => rfl
        | cons next rest => simpa [ascending] using h
      · next hne =>
        have hafter : k < key := not_lt_of_ne_of_not_lt hnot hne
        cases rest with
        | nil => simp [place, ascending, hafter]
        | cons next rest =>
          obtain ⟨l, w⟩ := next
          simp only [ascending, Bool.and_eq_true, decide_eq_true_eq] at h
          have hrest := ih h.2
          rw [place] at hrest ⊢
          split
          · simp_all [ascending]
          · split <;> simp_all [ascending]

theorem isCanonicalFields_place (key : String) (value : Json) (fields : List (String × Json))
    (hvalue : isCanonical value = true) (h : isCanonicalFields fields = true) :
    isCanonicalFields (place key value fields) = true := by
  induction fields with
  | nil => simp [place, isCanonicalFields, hvalue]
  | cons field rest ih =>
    obtain ⟨k, v⟩ := field
    simp only [isCanonicalFields, Bool.and_eq_true] at h
    rw [place]
    split
    · simp [isCanonicalFields, hvalue, h]
    · split
      · simp [isCanonicalFields, hvalue, h]
      · simp [isCanonicalFields, h, ih]

theorem foldl_place_isMap (fields acc : List (String × Json)) (hfields : isCanonicalFields fields = true)
    (hacc : ascending acc = true ∧ isCanonicalFields acc = true) :
    let map := fields.foldl (fun map field => place field.1 field.2 map) acc
    ascending map = true ∧ isCanonicalFields map = true := by
  induction fields generalizing acc with
  | nil => exact hacc
  | cons field rest ih =>
    obtain ⟨k, v⟩ := field
    simp only [isCanonicalFields, Bool.and_eq_true] at hfields
    exact ih (place k v acc) hfields.2
      ⟨ascending_place k v acc hacc.1, isCanonicalFields_place k v acc hfields.1 hacc.2⟩

mutual

theorem isCanonical_canonical : (value : Json) → isCanonical (canonical value) = true
  | .null | .bool _ | .number _ | .string _ => rfl
  | .array items => by simp [canonical, isCanonical, isCanonicalItems_canonicalItems items]
  | .object fields => by
    have h := foldl_place_isMap (canonicalFields fields) [] (isCanonicalFields_canonicalFields fields) ⟨rfl, rfl⟩
    simp [canonical, isCanonical, toMap, h]

theorem isCanonicalItems_canonicalItems : (items : List Json) → isCanonicalItems (canonicalItems items) = true
  | [] => rfl
  | value :: rest => by
    simp [canonicalItems, isCanonicalItems, isCanonical_canonical value, isCanonicalItems_canonicalItems rest]

theorem isCanonicalFields_canonicalFields :
    (fields : List (String × Json)) → isCanonicalFields (canonicalFields fields) = true
  | [] => rfl
  | (_, value) :: rest => by
    simp [canonicalFields, isCanonicalFields, isCanonical_canonical value, isCanonicalFields_canonicalFields rest]

end

end Json

/-- Fields that a reader keeps without interpreting them: a map of canonical JSON values. -/
structure Json.Extras where
  /-- The fields, in ascending order of their keys. -/
  fields : List (String × Json) := []
  /-- The keys ascend. -/
  ascending_fields : Json.ascending fields = true := by rfl
  /-- The values are canonical. -/
  canonical_fields : Json.isCanonicalFields fields = true := by rfl
  deriving DecidableEq, Repr

namespace Json.Extras

/-- No fields. -/
def none : Extras := {}

/-- The map of some fields. -/
def ofFields (fields : List (String × Json)) : Extras :=
  have h := foldl_place_isMap (canonicalFields fields) [] (isCanonicalFields_canonicalFields fields) ⟨rfl, rfl⟩
  ⟨toMap (canonicalFields fields), h.1, h.2⟩

/-- Whether there is no field. -/
def isEmpty (extras : Extras) : Bool := extras.fields.isEmpty

/-- The value of a key. -/
def get? (extras : Extras) (key : String) : Option Json := lookup key extras.fields

end Json.Extras

end PromptBudget
