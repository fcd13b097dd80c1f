import Mathlib.Data.List.Forall2
import PromptBudget.Proofs.Requests
import PromptBudget.Proofs.TomlScalars
import PromptBudget.Toml.Reader

/-!
# PromptBudget — TOML documents read back

A document of sections is written section by section, each as a header and a line for each field.
Reading it goes over the same lines: the header opens a table, every field is added to the table
that was opened last, and a blank line changes nothing. What is read are the sections, each as a
table with the values that its fields read as.

Main results:

* `line_header`, `line_field` — what one line does to the tables read so far.
* `document?_sectionsText` — a document of sections is read as it is written.
-/

namespace PromptBudget.Toml

open Scan
open Json (lookup keys)

-- ---------------------------------------------------------------------------
-- Keys
-- ---------------------------------------------------------------------------

/-- A name that is a key without quotes. -/
structure IsBareKey (name : String) : Prop where
  nonempty : name.toList ≠ []
  chars : ∀ c ∈ name.toList, isKeyChar c = true

instance (name : String) : Decidable (IsBareKey name) :=
  decidable_of_iff (name.toList ≠ [] ∧ name.toList.all isKeyChar = true)
    ⟨fun h => ⟨h.1, List.all_eq_true.1 h.2⟩, fun h => ⟨h.nonempty, List.all_eq_true.2 h.chars⟩⟩

/-- A text that goes on after a key, and not with another part of it. -/
structure EndsKey (text : List Char) : Prop where
  stops : ∀ c, text.head? = some c → isKeyChar c = false
  noDot : (skipBlanks text).head? ≠ some '.'

theorem endsKey_cons {c : Char} {rest : List Char} (hc : isKeyChar c = false)
    (hdot : (skipBlanks (c :: rest)).head? ≠ some '.') : EndsKey (c :: rest) :=
  ⟨fun _ hd => Option.some.inj hd ▸ hc, hdot⟩

theorem not_isInlineBlank_of_isKeyChar {c : Char} (hc : isKeyChar c = true) :
    isInlineBlank c = false := by
  rw [isInlineBlank, Bool.or_eq_false_iff, beq_eq_false_iff_ne, beq_eq_false_iff_ne]
  constructor <;> rintro rfl <;> exact absurd hc (by decide)

section Keys

variable {name : String} {stop : List Char}

theorem IsBareKey.exists_cons (h : IsBareKey name) :
    ∃ c rest, name.toList = c :: rest ∧ isKeyChar c = true := by
  obtain ⟨c, rest, hname⟩ := List.exists_cons_of_ne_nil h.nonempty
  exact ⟨c, rest, hname, h.chars c (hname ▸ List.mem_cons_self)⟩

theorem skipBlanks_bare (h : IsBareKey name) (stop : List Char) :
    skipBlanks (name.toList ++ stop) = name.toList ++ stop := by
  obtain ⟨c, rest, hname, hc⟩ := h.exists_cons
  rw [hname, List.cons_append, skipBlanks,
    List.dropWhile_cons_of_neg (by simp [not_isInlineBlank_of_isKeyChar hc])]

theorem keyPart_bare (h : IsBareKey name) (hstop : EndsKey stop) :
    keyPart (name.toList ++ stop) = some (name, stop) := by
  have htake : (name.toList ++ stop).takeWhile isKeyChar = name.toList := by
    rw [List.takeWhile_append_of_pos h.chars]
    cases stop with
    | nil => simp
    | cons c rest => simp [hstop.stops c rfl]
  have hdrop : (name.toList ++ stop).dropWhile isKeyChar = stop := by
    rw [List.dropWhile_append_of_pos h.chars]
    cases stop with
    | nil => simp
    | cons c rest => simp [hstop.stops c rfl]
  obtain ⟨c, rest, hname, hc⟩ := h.exists_cons
  have hdouble : c ≠ '"' := by rintro rfl; exact absurd hc (by decide)
  have hsingle : c ≠ '\'' := by rintro rfl; exact absurd hc (by decide)
  rw [keyPart.eq_def]
  split
  · next heq => rw [hname] at heq; exact absurd (List.cons.inj heq).1 hdouble
  · next heq => rw [hname] at heq; exact absurd (List.cons.inj heq).1 hsingle
  · simp only [htake, hdrop, List.isEmpty_iff, h.nonempty, if_false, String.ofList_toList]

theorem keyRest_eq {fuel : Nat} (hstop : EndsKey stop) :
    keyRest (fuel + 1) stop = some ([], skipBlanks stop) := by
  rw [keyRest]
  split
  · next heq => exact absurd (by rw [heq]; rfl) hstop.noDot
  · rfl

theorem key_bare (h : IsBareKey name) (hstop : EndsKey stop) :
    key (name.toList ++ stop) = some (([], name), skipBlanks stop) := by
  rw [key, skipBlanks_bare h]
  simp only [keyPart_bare h hstop, keyRest_eq hstop, Option.bind_eq_bind, Option.bind_some]
  rfl

end Keys

-- ---------------------------------------------------------------------------
-- Fields
-- ---------------------------------------------------------------------------

/-- No value starts with a blank or with a bracket. -/
theorem scalar_eq_none {c : Char} (hc : c ∈ [' ', '\t', '[', '\x7b']) (rest : List Char) :
    scalar (c :: rest) = none := by
  simp only [List.mem_cons, List.not_mem_nil, or_false] at hc
  rcases hc with rfl | rfl | rfl | rfl <;> rfl

/-- What reads as a scalar is read as a value, and there are no blanks in front of it. -/
theorem value_eq_scalar {levels : Nat} {text : List Char} {found : Toml × List Char}
    (h : scalar text = some found) : value levels (skipBlanks text) = some found := by
  cases text with
  | nil => exact nomatch h
  | cons c rest =>
    have hc : c ∉ [' ', '\t', '[', '\x7b'] := by
      intro hmem
      rw [scalar_eq_none hmem rest] at h
      exact nomatch h
    simp only [List.mem_cons, List.not_mem_nil, or_false, not_or] at hc
    obtain ⟨hspace, htab, hbracket, hbrace⟩ := hc
    rw [skipBlanks, List.dropWhile_cons_of_neg (by simp [isInlineBlank, hspace, htab])]
    cases levels with
    | zero => exact h
    | succ levels =>
      rw [value, h]
      · exact fun _ h => hbracket (List.cons.inj h).1
      · exact fun _ h => hbrace (List.cons.inj h).1

/-- A field, and what it reads as. -/
structure FieldReads (written found : String × Toml) : Prop where
  key : written.1 = found.1
  bare : IsBareKey written.1
  value : ReadsAs written.2 found.2

theorem FieldReads.of_value {key : String} {value found : Toml} (hbare : IsBareKey key)
    (hvalue : ReadsAs value found) : FieldReads (key, value) (key, found) := ⟨rfl, hbare, hvalue⟩

/-- The line of a field. -/
def fieldLine (field : String × Toml) : List Char :=
  field.1.toList ++ ' ' :: '=' :: ' ' :: ((scalarText field.2).toList ++ ['\n'])

section Fields

variable {written found : String × Toml}

theorem assignment_eq {item : Scanner Toml} {name : String} {v : Toml}
    {text left more rest : List Char} (hkey : key text = some (([], name), left))
    (hequals : expect '=' (skipBlanks left) = some more)
    (hvalue : item (skipBlanks more) = some (v, rest)) :
    assignment item text = some (([], name, v), rest) := by
  rw [assignment, hkey]
  simp only [hequals, hvalue, Option.bind_eq_bind, Option.bind_some]

theorem assignment_fieldLine (h : FieldReads written found) (rest : List Char) :
    assignment (value maxLevels) (fieldLine written ++ rest) =
      some (([], found.1, found.2), '\n' :: rest) := by
  have hstop : EndsKey (' ' :: '=' :: ' ' :: ((scalarText written.2).toList ++ '\n' :: rest)) :=
    endsKey_cons rfl (by simp [skipBlanks, isInlineBlank])
  have htext : fieldLine written ++ rest =
      written.1.toList ++ ' ' :: '=' :: ' ' :: ((scalarText written.2).toList ++ '\n' :: rest) := by
    simp [fieldLine]
  have hvalue : value maxLevels (skipBlanks ((scalarText written.2).toList ++ '\n' :: rest)) =
      some (found.2, '\n' :: rest) := value_eq_scalar (h.value rest)
  rw [htext, ← h.key]
  exact assignment_eq (key_bare h.bare hstop) rfl hvalue

end Fields

-- ---------------------------------------------------------------------------
-- Tables
-- ---------------------------------------------------------------------------

/-- The tables of a document while the last one of them is read. -/
def opened (done : Fields) (name : String) (fields : Fields) : Fields :=
  done ++ [(name, .table .header fields)]

section Tables

variable {done fields : Fields} {name : String}

theorem lookup_opened (hname : name ∉ keys done) :
    lookup name (opened done name fields) = some (.table .header fields) := by
  rw [opened, Json.lookup_append, Json.lookup_eq_none_iff_not_mem.2 hname, Option.none_or]
  exact if_pos rfl

theorem replace_opened (hname : name ∉ keys done) (others : Fields) :
    replace name (.table .header others) (opened done name fields) = opened done name others := by
  have hdone : ∀ field ∈ done,
      (if field.1 = name then (name, Toml.table .header others) else field) = field := by
    intro field hfield
    exact if_neg fun (h : field.1 = name) => hname (h ▸ List.mem_map_of_mem hfield)
  rw [replace, opened, List.map_append, List.map_congr_left hdone, List.map_id', List.map_singleton,
    if_pos rfl, opened]

/-- The edit of the table that was opened last. -/
theorem editAt_opened (hname : name ∉ keys done) {edit : Opening → Fields → Option Fields}
    {others : Fields} (hedit : edit .header fields = some others) :
    editAt .header edit .header [name] (opened done name fields) =
      some (opened done name others) := by
  rw [editAt, lookup_opened hname]
  refine (if_pos (rfl : Route.header.admits .header = true)).trans ?_
  rw [editAt, hedit, Option.map_some, replace_opened hname]

/-- A field that is new in its table stands after the others. -/
theorem addField_new {key : String} (hkey : key ∉ keys fields) (value : Toml) :
    addField [] key value fields = some (fields ++ [(key, value)]) := by
  rw [addField_nil, Json.lookup_eq_none_iff_not_mem.2 hkey]
  rfl

/-- A table that is new in its document stands after the others. -/
theorem editAt_openTable (hname : name ∉ keys done) :
    editAt .header (openTable name) .header [] done = some (opened done name []) := by
  rw [editAt, openTable_fresh name _ done (Json.lookup_eq_none_iff_not_mem.2 hname), opened]

end Tables

-- ---------------------------------------------------------------------------
-- Lines
-- ---------------------------------------------------------------------------

/-- The rest of a document, after which its tables are these. -/
def Finishes (p : Partial) (text : List Char) (root : Fields) : Prop :=
  ∀ fuel, text.length < fuel → Partial.lines fuel p text = some root

theorem finishes_nil (p : Partial) : Finishes p [] p.root := by
  intro fuel hfuel
  obtain ⟨n, rfl⟩ := Nat.exists_eq_succ_of_ne_zero (Nat.ne_zero_of_lt hfuel)
  rfl

/-- A line is read, then the rest. -/
theorem finishes_line {p next : Partial} {line rest : List Char} {root : Fields}
    (hstart : ∃ c more, line = c :: more ∧ isInlineBlank c = false)
    (hline : p.line (line ++ rest) = some (next, rest)) (hrest : Finishes next rest root) :
    Finishes p (line ++ rest) root := by
  intro fuel hfuel
  obtain ⟨n, rfl⟩ := Nat.exists_eq_succ_of_ne_zero (Nat.ne_zero_of_lt hfuel)
  obtain ⟨c, more, rfl, hblank⟩ := hstart
  have hskip : skipBlanks (c :: (more ++ rest)) = c :: (more ++ rest) := by
    rw [skipBlanks, List.dropWhile_cons_of_neg (by simp [hblank])]
  rw [List.cons_append] at hline hfuel ⊢
  rw [Partial.lines, hskip]
  simp only [hline, Option.bind_eq_bind, Option.bind_some]
  refine hrest n ?_
  rw [List.length_cons, List.length_append] at hfuel
  omega

/-- The line of a header. -/
def headerLine (name : String) : List Char := '[' :: (name.toList ++ [']', '\n'])

theorem line_header {done : Fields} {name : String} (hname : name ∉ keys done)
    (hbare : IsBareKey name) (current : List String) (rest : List Char) :
    Partial.line ⟨done, current⟩ (headerLine name ++ rest) =
      some (⟨opened done name [], [name]⟩, rest) := by
  have hstop : EndsKey (']' :: '\n' :: rest) :=
    endsKey_cons rfl (by simp [skipBlanks, isInlineBlank])
  have htext : headerLine name ++ rest = '[' :: (name.toList ++ ']' :: '\n' :: rest) := by
    simp [headerLine]
  obtain ⟨c, more, hchars, hc⟩ := hbare.exists_cons
  have hbracket : c ≠ '[' := by rintro rfl; exact absurd hc (by decide)
  have hheader : Partial.line ⟨done, current⟩ ('[' :: (name.toList ++ ']' :: '\n' :: rest)) =
      Partial.header ⟨done, current⟩ false (name.toList ++ ']' :: '\n' :: rest) := by
    rw [hchars, List.cons_append, Partial.line]
    exact fun _ h => hbracket (List.cons.inj h).1
  have hexpect : expect ']' (skipBlanks (skipBlanks (']' :: '\n' :: rest))) =
      some ('\n' :: rest) := rfl
  have hend : endOfLine? ('\n' :: rest) = some rest := rfl
  rw [htext, hheader, Partial.header, key_bare hbare hstop]
  simp only [hexpect, hend, editAt_openTable hname, Option.bind_eq_bind, Option.bind_some,
    Bool.false_eq_true, if_false, List.nil_append]

theorem line_field {done fields : Fields} {name : String} {written found : String × Toml}
    (hname : name ∉ keys done) (hkey : found.1 ∉ keys fields) (h : FieldReads written found)
    (rest : List Char) :
    Partial.line ⟨opened done name fields, [name]⟩ (fieldLine written ++ rest) =
      some (⟨opened done name (fields ++ [found]), [name]⟩, rest) := by
  have hfield : Partial.line ⟨opened done name fields, [name]⟩ (fieldLine written ++ rest) =
      Partial.field ⟨opened done name fields, [name]⟩ (fieldLine written ++ rest) := by
    obtain ⟨c, more, hchars, hc⟩ := h.bare.exists_cons
    have hne : ∀ d ∈ ['[', '#', '\n', '\r'], isKeyChar d = false := by simp [isKeyChar]
    have hother : ∀ d ∈ ['[', '#', '\n', '\r'], c ≠ d := by
      rintro d hd rfl
      exact absurd hc (by simp [hne c hd])
    simp only [List.forall_mem_cons] at hother
    obtain ⟨hbracket, hcomment, hline, hreturn, _⟩ := hother
    rw [fieldLine, hchars, List.cons_append, List.cons_append, Partial.line]
    · exact fun _ h => hbracket (List.cons.inj h).1
    · exact fun _ h => hbracket (List.cons.inj h).1
    · exact fun _ h => hcomment (List.cons.inj h).1
    · exact fun _ h => hline (List.cons.inj h).1
    · exact fun _ h => hreturn (List.cons.inj h).1
  have hend : endOfLine? ('\n' :: rest) = some rest := rfl
  have hedit : editAt .header (fun _ fields => addField [] found.1 found.2 fields) .header [name]
      (opened done name fields) = some (opened done name (fields ++ [(found.1, found.2)])) :=
    editAt_opened hname (addField_new hkey found.2)
  rw [hfield, Partial.field, assignment_fieldLine h]
  simp only [hend, hedit, Option.bind_eq_bind, Option.bind_some]

-- ---------------------------------------------------------------------------
-- Sections
-- ---------------------------------------------------------------------------

/-- A section of fields, and what it reads as. -/
structure SectionReads (written found : String × Fields) : Prop where
  name : written.1 = found.1
  bare : IsBareKey written.1
  nodup : (keys found.2).Nodup
  fields : List.Forall₂ FieldReads written.2 found.2

theorem SectionReads.of_fields {name : String} {written found : Fields} (hbare : IsBareKey name)
    (hnodup : (keys found).Nodup) (hfields : List.Forall₂ FieldReads written found) :
    SectionReads (name, written) (name, found) := ⟨rfl, hbare, hnodup, hfields⟩

/-- The lines of fields. -/
def fieldLines (fields : Fields) : List Char := fields.flatMap fieldLine

/-- The lines of a section. -/
def sectionLines (written : String × Fields) : List Char :=
  headerLine written.1 ++ fieldLines written.2

theorem toList_sectionText (name : String) (fields : Fields) :
    (sectionText name fields).toList = sectionLines (name, fields) := by
  have hfield : ∀ field : String × Toml,
      (field.1 ++ " = " ++ scalarText field.2 ++ "\n").toList = fieldLine field := by
    intro field
    simp [fieldLine]
  rw [sectionText, String.toList_append, String.toList_join, List.flatMap_map]
  simp only [hfield]
  simp [sectionLines, headerLine, fieldLines]

theorem finishes_fields {done fields written found : Fields} {name : String}
    (hname : name ∉ keys done) (hnodup : (keys (fields ++ found)).Nodup)
    (h : List.Forall₂ FieldReads written found) {rest : List Char} {root : Fields}
    (hrest : Finishes ⟨opened done name (fields ++ found), [name]⟩ rest root) :
    Finishes ⟨opened done name fields, [name]⟩ (fieldLines written ++ rest) root := by
  induction h generalizing fields with
  | nil => simpa [fieldLines] using hrest
  | @cons field read written found hfield _ ih =>
    have hkey : read.1 ∉ keys fields := by
      rw [keys, List.map_append, List.nodup_append] at hnodup
      exact fun hmem => hnodup.2.2 _ hmem _ List.mem_cons_self rfl
    have hstart : ∃ c more, fieldLine field = c :: more ∧ isInlineBlank c = false := by
      obtain ⟨c, more, hchars, hc⟩ := hfield.bare.exists_cons
      rw [fieldLine, hchars]
      exact ⟨c, _, rfl, not_isInlineBlank_of_isKeyChar hc⟩
    rw [List.append_cons] at hnodup hrest
    rw [fieldLines, List.flatMap_cons, List.append_assoc]
    exact finishes_line hstart (line_field hname hkey hfield _) (ih hnodup hrest)

/-- The rest of a document that starts with a section. -/
theorem finishes_section {done : Fields} {written found : String × Fields}
    (h : SectionReads written found) (hname : found.1 ∉ keys done) (current : List String)
    {rest : List Char} {root : Fields}
    (hrest : Finishes ⟨opened done found.1 found.2, [found.1]⟩ rest root) :
    Finishes ⟨done, current⟩ (sectionLines written ++ rest) root := by
  obtain ⟨name, fields⟩ := written
  obtain rfl : name = found.1 := h.name
  have hstart : ∃ c more, headerLine found.1 = c :: more ∧ isInlineBlank c = false :=
    ⟨'[', _, rfl, by decide⟩
  rw [sectionLines, List.append_assoc]
  have hnodup : (keys ([] ++ found.2)).Nodup := h.nodup
  have hfields : Finishes ⟨opened done found.1 [], [found.1]⟩ (fieldLines fields ++ rest) root :=
    finishes_fields hname hnodup h.fields hrest
  exact finishes_line hstart (line_header hname h.bare current _) hfields

theorem finishes_blank {p : Partial} {rest : List Char} {root : Fields} (h : Finishes p rest root) :
    Finishes p ('\n' :: rest) root := by
  have hstart : ∃ c more, ['\n'] = c :: more ∧ isInlineBlank c = false := ⟨'\n', [], rfl, by decide⟩
  exact finishes_line hstart rfl h

/-- Sections are read one after another, with a blank line between them. -/
theorem finishes_sections {done : Fields} {written found : List (String × Fields)}
    (h : List.Forall₂ SectionReads written found) (hnodup : (keys done ++ keys found).Nodup)
    (current : List String) :
    Finishes ⟨done, current⟩ (['\n'].intercalate (written.map sectionLines))
      (done ++ found.map fun read => (read.1, .table .header read.2)) := by
  induction h generalizing done current with
  | nil => simpa using finishes_nil ⟨done, current⟩
  | @cons part read written found hpart hrest ih =>
    have hname : read.1 ∉ keys done := by
      rw [List.nodup_append] at hnodup
      exact fun hmem => hnodup.2.2 _ hmem _ List.mem_cons_self rfl
    have hlater : (keys (opened done read.1 read.2) ++ keys found).Nodup := by
      rw [opened, keys, List.map_append, List.append_assoc]
      exact hnodup
    rw [List.map_cons, List.map_cons, List.append_cons]
    cases hrest with
    | nil =>
      rw [List.map_nil, List.map_nil, List.append_nil, List.intercalate_singleton,
        ← List.append_nil (sectionLines part)]
      exact finishes_section hpart hname current (finishes_nil _)
    | cons _ _ =>
      rw [List.map_cons, List.intercalate_cons_cons, List.append_assoc]
      exact finishes_section hpart hname current (finishes_blank (ih hlater _))

/-- A document of sections is read as it is written. -/
theorem document?_sectionsText {written found : List (String × Fields)}
    (h : List.Forall₂ SectionReads written found) (hnodup : (keys found).Nodup) :
    document? (sectionsText written) =
      some (found.map fun read => (read.1, .table .header read.2)) := by
  have hparts : written.map (String.toList ∘ fun part => sectionText part.1 part.2) =
      written.map sectionLines :=
    List.map_congr_left fun part _ => toList_sectionText part.1 part.2
  have htext : (sectionsText written).toList = ['\n'].intercalate (written.map sectionLines) := by
    rw [sectionsText, String.toList_intercalate, List.map_map, ← hparts]
    rfl
  have hmark : skipByteOrderMark (sectionsText written).toList = (sectionsText written).toList := by
    rw [htext]
    match written with
    | [] => rfl
    | [part] => rfl
    | part :: next :: more =>
      rw [List.map_cons, List.map_cons, List.intercalate_cons_cons]
      rfl
  have hkeys : (keys ([] : Fields) ++ keys found).Nodup := hnodup
  have hread : Finishes ⟨[], []⟩ (['\n'].intercalate (written.map sectionLines))
      (found.map fun read => (read.1, .table .header read.2)) :=
    finishes_sections h hkeys []
  rw [document?, hmark, htext]
  exact hread _ (Nat.lt_succ_self _)

end PromptBudget.Toml
