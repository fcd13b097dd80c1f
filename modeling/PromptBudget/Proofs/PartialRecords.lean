import PromptBudget.Json.Record
import PromptBudget.Proofs.Requests

/-!
# PromptBudget — records without some of their fields

A record is read field by field, so a document that leaves out fields of another one is read like
that one, but for the fields that are gone: these have their defaults. It does not matter in which
order the fields stand and which fields with unknown names stand between them.

Main results:

* `LeavesOut.withDefault_of_elim` — a field is read as it was, or has its default.
* `leavesOut_edited` — fields that are taken out, and unknown ones that are put in.
-/

namespace PromptBudget.Json

variable {α β : Type}

/-- A record that leaves out fields of another one: of the known fields, those that are gone are
not there, nor those that were not there, and every other one has a value that is related to the
one that it had. Fields with unknown names may be anywhere. -/
structure LeavesOut (names : List String) (gone : String → Bool)
    (related : String → α → β → Prop) (whole : List (String × α)) (part : List (String × β)) :
    Prop where
  once : ∀ name ∈ names, occurrences name part ≤ 1
  missing : ∀ name ∈ names, gone name = true ∨ lookup name whole = none → lookup name part = none
  kept : ∀ name ∈ names, gone name = false → ∀ value, lookup name whole = some value →
    ∃ given, lookup name part = some given ∧ related name value given

-- ---------------------------------------------------------------------------
-- Reading
-- ---------------------------------------------------------------------------

namespace LeavesOut

variable {names : List String} {gone : String → Bool} {related : String → Json → Json → Prop}
  {whole part : List (String × Json)} {dialect : Dialect} {r : Record Json}

/-- It is a record. -/
theorem exists_record (h : LeavesOut names gone related whole part) (dialect : Dialect) :
    ∃ r, record? dialect names (.map part) = some r := by
  have honce : (names.all fun name => occurrences name part ≤ 1) = true :=
    List.all_eq_true.2 fun name hname => decide_eq_true (h.once name hname)
  rw [record?, if_pos honce]
  exact ⟨_, rfl⟩

theorem withDefault_eq_elim (hr : record? dialect names (.map part) = some r) {name : String}
    (hname : name ∈ names) (decode : Json → Option α) (default : α) :
    r.withDefault name decode default = (lookup name part).elim (some default) decode := by
  rw [Record.withDefault, record?_object hr name (List.contains_iff_mem.2 hname)]
  cases lookup name part <;> rfl

/-- If the fields have the values that they had, they are read as they were, but for those that
are gone, which have their defaults. -/
theorem withDefault_of_elim (h : LeavesOut names gone (fun _ => Eq) whole part)
    (hr : record? dialect names (.map part) = some r) (name : String) (hname : name ∈ names)
    {decode : Json → Option α} {default value : α}
    (hread : (lookup name whole).elim (some default) decode = some value) :
    r.withDefault name decode default = some (if gone name then default else value) := by
  rw [withDefault_eq_elim hr hname]
  cases hgone : gone name with
  | true => rw [h.missing name hname (.inl hgone), Option.elim_none, if_pos rfl]
  | false =>
    rw [if_neg Bool.false_ne_true, ← hread]
    cases hvalue : lookup name whole with
    | none => rw [h.missing name hname (.inr hvalue)]
    | some given =>
      obtain ⟨_, hpart, rfl⟩ := h.kept name hname hgone given hvalue
      rw [hpart]

/-- A field that had a value. -/
theorem withDefault_of_lookup (h : LeavesOut names gone (fun _ => Eq) whole part)
    (hr : record? dialect names (.map part) = some r) (name : String) (hname : name ∈ names)
    {decode : Json → Option α} {default value : α} {given : Json}
    (hgiven : lookup name whole = some given) (hread : decode given = some value) :
    r.withDefault name decode default = some (if gone name then default else value) := by
  refine h.withDefault_of_elim hr name hname ?_
  rw [hgiven, Option.elim_some, hread]

end LeavesOut

-- ---------------------------------------------------------------------------
-- Taking out and putting in
-- ---------------------------------------------------------------------------

section Edited

variable {names : List String} {gone : String → Bool} {fields extra : List (String × α)}
  {name : String}

theorem lookup_filter_gone (hgone : gone name = true) :
    lookup name (fields.filter fun field => !gone field.1) = none := by
  rw [lookup_eq_none_iff_not_mem]
  intro hmem
  obtain ⟨field, hfield, rfl⟩ := List.mem_map.1 hmem
  have hkept := (List.mem_filter.1 hfield).2
  rw [hgone] at hkept
  exact nomatch hkept

/-- Fields that are taken out, and unknown ones that are put in after the others. -/
theorem lookup_edited (hname : name ∈ names) (hextra : ∀ key ∈ keys extra, key ∉ names) :
    lookup name ((fields.filter fun field => !gone field.1) ++ extra) =
      if gone name then none else lookup name fields := by
  have hnone : lookup name extra = none :=
    lookup_eq_none_iff_not_mem.2 fun hmem => hextra name hmem hname
  rw [lookup_append, hnone, Option.or_none]
  cases hgone : gone name with
  | true => rw [lookup_filter_gone hgone, if_pos rfl]
  | false =>
    rw [lookup_filter (fun key => !gone key) name fields (by rw [hgone]; rfl),
      if_neg Bool.false_ne_true]

theorem occurrences_edited (hname : name ∈ names) (hextra : ∀ key ∈ keys extra, key ∉ names)
    (hnodup : (keys fields).Nodup) :
    occurrences name ((fields.filter fun field => !gone field.1) ++ extra) ≤ 1 := by
  have hnone : occurrences name extra = 0 :=
    lookup_eq_none_iff.1 (lookup_eq_none_iff_not_mem.2 fun hmem => hextra name hmem hname)
  have hfields : occurrences name fields ≤ 1 := by
    rw [occurrences_eq_count]
    exact List.nodup_iff_count_le_one.1 hnodup name
  have hfilter : occurrences name (fields.filter fun field => !gone field.1) ≤
      occurrences name fields := List.filter_sublist.countP_le
  rw [occurrences_append, hnone]
  omega

end Edited

/-- Fields with their values changed, each under its key. -/
theorem lookup_map_key (edit : String → α → β) (key : String) (fields : List (String × α)) :
    lookup key (fields.map fun field => (field.1, edit field.1 field.2)) =
      (lookup key fields).map (edit key) := by
  induction fields with
  | nil => rfl
  | cons field rest ih =>
    obtain ⟨k, v⟩ := field
    by_cases h : k = key
    · simp [lookup, h]
    · simp [lookup, h, ih]

variable {γ : Type} {names : List String} {gone : String → Bool}

theorem LeavesOut.of_map {related : String → β → γ → Prop} {f : α → β} {whole : List (String × α)}
    {part : List (String × γ)}
    (h : LeavesOut names gone (fun name value => related name (f value)) whole part) :
    LeavesOut names gone related (whole.map fun field => (field.1, f field.2)) part := by
  refine ⟨h.once, ?_, ?_⟩
  · intro name hname hmissing
    rw [lookup_map, Option.map_eq_none_iff] at hmissing
    exact h.missing name hname hmissing
  · intro name hname hgone value hvalue
    rw [lookup_map] at hvalue
    obtain ⟨given, hgiven, rfl⟩ := Option.map_eq_some_iff.1 hvalue
    exact h.kept name hname hgone given hgiven

/-- What is left when fields are taken out and others are changed, with unknown fields after it. -/
theorem leavesOut_edited {related : String → α → β → Prop} {fields : List (String × α)}
    {extra : List (String × β)} (hnodup : (keys fields).Nodup)
    (hextra : ∀ key ∈ keys extra, key ∉ names) (edit : String → α → β)
    (hedit : ∀ field ∈ fields, related field.1 field.2 (edit field.1 field.2)) :
    LeavesOut names gone related fields
      (((fields.filter fun field => !gone field.1).map fun field =>
        (field.1, edit field.1 field.2)) ++ extra) := by
  have hcomm : (fields.filter fun field => !gone field.1).map
        (fun field => (field.1, edit field.1 field.2)) =
      (fields.map fun field => (field.1, edit field.1 field.2)).filter
        fun field => !gone field.1 := by
    rw [List.filter_map]
    rfl
  have hkeys : keys (fields.map fun field => (field.1, edit field.1 field.2)) = keys fields := by
    rw [keys, List.map_map]
    rfl
  rw [hcomm]
  refine ⟨?_, ?_, ?_⟩
  · intro name hname
    exact occurrences_edited hname hextra (by rwa [hkeys])
  · intro name hname hmissing
    rw [lookup_edited hname hextra, lookup_map_key]
    rcases hmissing with hgone | hnone
    · rw [if_pos hgone]
    · rw [hnone, Option.map_none, ite_self]
  · intro name hname hgone value hvalue
    refine ⟨edit name value, ?_, hedit (name, value) (mem_of_lookup hvalue)⟩
    rw [lookup_edited hname hextra, lookup_map_key, hgone, hvalue]
    rfl

end PromptBudget.Json
