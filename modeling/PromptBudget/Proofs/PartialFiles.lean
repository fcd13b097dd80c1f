import PromptBudget.Proofs.Omissions
import PromptBudget.Proofs.TomlDocuments
import PromptBudget.Settings.Load
import PromptBudget.Settings.Text

/-!
# PromptBudget — files that leave out settings

Settings are written as a TOML document of sections. Sections and fields may be taken out of it and
unknown ones put in: what is left is still a document of sections, so it is read as it is written,
and what is read gives the settings with the defaults of what is gone. The one value that need not
read as it is written is the threshold, a number of 32 bits that is printed as one of 64.

Main results:

* `Settings.document?_edit` — the text that is left reads as a document.
* `Settings.decode?_omission` — the settings that a document without some of them gives.
-/

namespace PromptBudget

open Json

-- ---------------------------------------------------------------------------
-- Sections as they are written
-- ---------------------------------------------------------------------------

/-- The fields of the section with a number in the place of the threshold. -/
def SearchSettings.fieldsWith (number : Toml) (s : SearchSettings) : Toml.Fields :=
  [("enabled", .boolean s.enabled)] ++ tomlText? "endpoint" s.endpoint
    ++ [("top_k", .integer s.topK), ("score_threshold", number),
      ("inject_target", .string s.target.name), ("timeout_ms", .integer s.timeoutMillis)]

namespace Settings

/-- The sections of the settings with a number in the place of the threshold. -/
def sectionsWith (number : Toml) (s : Settings) : List (String × Toml.Fields) :=
  [("llm", s.llm.fields), ("semantic", s.search.fieldsWith number),
    ("compression", s.compression.fields), ("tool_description", s.toolDocs.fields),
    ("loop_detection", s.loops.fields), ("log", s.log.fields)]

/-- The sections of the settings, as they are written. -/
def sections (s : Settings) : List (String × Toml.Fields) :=
  s.sectionsWith (.float (Floating.convert Floating.double s.search.scoreThreshold))

theorem toml_eq (s : Settings) : s.toml = Toml.sectionsText s.sections := rfl

theorem nodup_fieldNames (name : String) : (fieldNames name).Nodup := by
  unfold fieldNames
  split <;> decide

/-- The sections have no other keys than the known ones. -/
theorem keys_sectionsWith (number : Toml) (s : Settings) :
    ∀ part ∈ s.sectionsWith number, (keys part.2).Sublist (fieldNames part.1) := by
  have hllm : (keys s.llm.fields).Sublist (fieldNames "llm") := by
    rw [LlmSettings.fields]
    cases s.llm.apiKey with
    | none => exact (by decide :
        ["endpoint", "summary_model", "timeout_secs"].Sublist (fieldNames "llm"))
    | some _ => exact List.Sublist.refl _
  have hsearch : (keys (s.search.fieldsWith number)).Sublist (fieldNames "semantic") := by
    rw [SearchSettings.fieldsWith]
    cases s.search.endpoint with
    | none => exact (by decide : ["enabled", "top_k", "score_threshold", "inject_target",
        "timeout_ms"].Sublist (fieldNames "semantic"))
    | some _ => exact List.Sublist.refl _
  have hcompression : (keys s.compression.fields).Sublist (fieldNames "compression") := .refl _
  have htoolDocs : (keys s.toolDocs.fields).Sublist (fieldNames "tool_description") := .refl _
  have hloops : (keys s.loops.fields).Sublist (fieldNames "loop_detection") := .refl _
  have hlog : (keys s.log.fields).Sublist (fieldNames "log") := .refl _
  simp only [sectionsWith, List.forall_mem_cons]
  exact ⟨hllm, hsearch, hcompression, htoolDocs, hloops, hlog, fun _ h => nomatch h⟩

end Settings

-- ---------------------------------------------------------------------------
-- Sections as they are read
-- ---------------------------------------------------------------------------

section Reading

open Toml

theorem tomlText?_reads {name : String} (hbare : IsBareKey name) (text : Option String) :
    List.Forall₂ FieldReads (tomlText? name text) (tomlText? name text) := by
  cases text with
  | none => exact .nil
  | some text => exact .cons (.of_value hbare (readsAs_string text)) .nil

theorem LlmSettings.fields_read {s : LlmSettings} (htimeout : s.timeoutSecs < twoPow 63) :
    List.Forall₂ FieldReads s.fields s.fields := by
  refine List.rel_append (List.rel_append ?_ (tomlText?_reads (by decide) s.apiKey)) ?_
  · exact .cons (.of_value (by decide) (readsAs_string _)) .nil
  · exact .cons (.of_value (by decide) (readsAs_string _))
      (.cons (.of_value (by decide) (readsAs_integer htimeout)) .nil)

theorem SearchSettings.fields_read {s : SearchSettings} (htopK : s.topK < twoPow 63)
    (htimeout : s.timeoutMillis < twoPow 63) {number found : Toml}
    (hnumber : ReadsAs number found) :
    List.Forall₂ FieldReads (s.fieldsWith number) (s.fieldsWith found) := by
  refine List.rel_append (List.rel_append ?_ (tomlText?_reads (by decide) s.endpoint)) ?_
  · exact .cons (.of_value (by decide) (readsAs_boolean _)) .nil
  · exact .cons (.of_value (by decide) (readsAs_integer htopK))
      (.cons (.of_value (by decide) hnumber)
      (.cons (.of_value (by decide) (readsAs_string _))
      (.cons (.of_value (by decide) (readsAs_integer htimeout)) .nil)))

theorem CompressionSettings.fields_read {s : CompressionSettings}
    (hwindow : s.recentWindow < twoPow 63) (htokens : s.tokenThreshold < twoPow 63) :
    List.Forall₂ FieldReads s.fields s.fields :=
  .cons (.of_value (by decide) (readsAs_boolean _))
    (.cons (.of_value (by decide) (readsAs_integer hwindow))
    (.cons (.of_value (by decide) (readsAs_integer htokens)) .nil))

theorem ToolDocsSettings.fields_read (s : ToolDocsSettings) :
    List.Forall₂ FieldReads s.fields s.fields :=
  .cons (.of_value (by decide) (readsAs_boolean _))
    (.cons (.of_value (by decide) (readsAs_string _))
    (.cons (.of_value (by decide) (readsAs_string _))
    (.cons (.of_value (by decide) (readsAs_string _))
    (.cons (.of_value (by decide) (readsAs_string _)) .nil))))

theorem LoopSettings.fields_read (s : LoopSettings) :
    List.Forall₂ FieldReads s.fields s.fields :=
  .cons (.of_value (by decide) (readsAs_boolean _)) .nil

theorem LogSettings.fields_read (s : LogSettings) : List.Forall₂ FieldReads s.fields s.fields :=
  .cons (.of_value (by decide) (readsAs_string _))
    (.cons (.of_value (by decide) (readsAs_boolean _)) .nil)

end Reading

namespace Settings

/-- Every section reads as it is, but for the threshold. -/
theorem sectionsWith_reads {s : Settings} (hwords : s.WordsBelow 63) {number found : Toml}
    (hnumber : Toml.ReadsAs number found) :
    List.Forall₂ Toml.SectionReads (s.sectionsWith number) (s.sectionsWith found) := by
  have hsublist := keys_sectionsWith found s
  simp only [sectionsWith, List.forall_mem_cons] at hsublist
  obtain ⟨hllm, hsearch, hcompression, htoolDocs, hloops, hlog, _⟩ := hsublist
  have hnodup := nodup_fieldNames
  refine .cons (.of_fields (by decide) (hllm.nodup (hnodup _)) ?_)
    (.cons (.of_fields (by decide) (hsearch.nodup (hnodup _)) ?_)
    (.cons (.of_fields (by decide) (hcompression.nodup (hnodup _)) ?_)
    (.cons (.of_fields (by decide) (htoolDocs.nodup (hnodup _)) ?_)
    (.cons (.of_fields (by decide) (hloops.nodup (hnodup _)) ?_)
    (.cons (.of_fields (by decide) (hlog.nodup (hnodup _)) ?_) .nil)))))
  · exact LlmSettings.fields_read hwords.timeoutSecs
  · exact SearchSettings.fields_read hwords.topK hwords.timeoutMillis hnumber
  · exact CompressionSettings.fields_read hwords.recentWindow hwords.tokenThreshold
  · exact ToolDocsSettings.fields_read s.toolDocs
  · exact LoopSettings.fields_read s.loops
  · exact LogSettings.fields_read s.log

-- ---------------------------------------------------------------------------
-- Taking out and putting in
-- ---------------------------------------------------------------------------

/-- Fields and sections with unknown names. -/
structure Additions where
  /-- The unknown fields of each section. -/
  fields : String → Toml.Fields := fun _ => []
  /-- The unknown sections. -/
  sections : List (String × Toml.Fields) := []

/-- A section without the fields that are left out, with additions. -/
def Omission.editSection (o : Omission) (a : Additions) (name : String) (fields : Toml.Fields) :
    Toml.Fields :=
  (fields.filter fun field => !o.fields.contains (name, field.1)) ++ a.fields name

/-- Sections without those and those fields that are left out, with additions. -/
def Omission.edit (o : Omission) (a : Additions) (sections : List (String × Toml.Fields)) :
    List (String × Toml.Fields) :=
  ((sections.filter fun part => !o.sections.contains part.1).map fun part =>
    (part.1, o.editSection a part.1 part.2)) ++ a.sections

/-- The additions have unknown names, each of them once, and values that read as they are. -/
structure Additions.Proper (a : Additions) : Prop where
  fieldNames : ∀ name, ∀ key ∈ keys (a.fields name), key ∉ fieldNames name
  sectionNames : ∀ key ∈ keys a.sections, key ∉ sectionNames
  nodupFields : ∀ name, (keys (a.fields name)).Nodup
  nodupSections : (keys a.sections).Nodup
  fields : ∀ name, ∀ field ∈ a.fields name, Toml.FieldReads field field
  sections : ∀ part ∈ a.sections, Toml.SectionReads part part

/-- A section without some fields, with additions, reads as it is. -/
theorem sectionReads_edit {o : Omission} {a : Additions} (ha : a.Proper)
    {written found : String × Toml.Fields} (h : Toml.SectionReads written found)
    (hknown : (keys found.2).Sublist (fieldNames found.1)) :
    Toml.SectionReads (written.1, o.editSection a written.1 written.2)
      (found.1, o.editSection a found.1 found.2) := by
  obtain ⟨name, written⟩ := written
  obtain ⟨_, found⟩ := found
  obtain rfl := h.name
  have hfilter : (keys (found.filter fun field => !o.fields.contains (name, field.1))).Sublist
      (keys found) := List.filter_sublist.map Prod.fst
  have hnodup : (keys (o.editSection a name found)).Nodup := by
    rw [Omission.editSection, keys, List.map_append]
    refine List.nodup_append.2 ⟨hfilter.nodup h.nodup, ha.nodupFields name, ?_⟩
    rintro key hkey _ hextra rfl
    exact ha.fieldNames name key hextra ((hfilter.trans hknown).subset hkey)
  refine .of_fields h.bare hnodup (List.rel_append (List.rel_filter ?_ h.fields) ?_)
  · intro field read hfield
    exact iff_of_eq (congrArg (fun key => (!o.fields.contains (name, key)) = true) hfield.key)
  · exact List.forall₂_same.2 (ha.fields name)

/-- A document without some sections and fields, with additions, reads as it is. -/
theorem edit_reads {o : Omission} {a : Additions} (ha : a.Proper)
    {written found : List (String × Toml.Fields)} (h : List.Forall₂ Toml.SectionReads written found)
    (hknown : ∀ part ∈ found, (keys part.2).Sublist (fieldNames part.1)) :
    List.Forall₂ Toml.SectionReads (o.edit a written) (o.edit a found) := by
  refine List.rel_append ?_ (List.forall₂_same.2 ha.sections)
  induction h with
  | nil => exact .nil
  | @cons part read written found hpart _ ih =>
    obtain ⟨hread, hfound⟩ := List.forall_mem_cons.1 hknown
    rw [List.filter_cons, List.filter_cons, hpart.name]
    split
    · exact .cons (sectionReads_edit ha hpart hread) (ih hfound)
    · exact ih hfound

theorem nodup_edit {o : Omission} {a : Additions} (ha : a.Proper)
    {sections : List (String × Toml.Fields)} (hsections : keys sections = sectionNames) :
    (keys (o.edit a sections)).Nodup := by
  have hfilter : (keys (sections.filter fun part => !o.sections.contains part.1)).Sublist
      sectionNames := hsections ▸ List.filter_sublist.map Prod.fst
  have hkeys : keys (o.edit a sections) =
      keys (sections.filter fun part => !o.sections.contains part.1) ++ keys a.sections := by
    rw [Omission.edit, keys, List.map_append, List.map_map]
    rfl
  rw [hkeys]
  refine List.nodup_append.2 ⟨hfilter.nodup (by decide), ha.nodupSections, ?_⟩
  rintro key hkey _ hextra rfl
  exact ha.sectionNames key hextra (hfilter.subset hkey)

-- ---------------------------------------------------------------------------
-- Documents of sections
-- ---------------------------------------------------------------------------

theorem treeFields_eq_map (fields : Toml.Fields) :
    Toml.treeFields fields = fields.map fun field => (field.1, field.2.tree) := by
  induction fields with
  | nil => rfl
  | cons field rest ih => rw [Toml.treeFields, ih, List.map_cons]

/-- The document of some sections. -/
def documentOf (sections : List (String × Toml.Fields)) : Json :=
  .object (sections.map fun part => (part.1, .object (Toml.treeFields part.2)))

theorem documentOf_sectionsWith (number : Toml) (s : Settings) :
    documentOf (s.sectionsWith number) = s.written number.tree := by
  have hllm : Json.object (Toml.treeFields s.llm.fields) = s.llm.encode := by
    rw [LlmSettings.fields, LlmSettings.encode]
    cases s.llm.apiKey <;> rfl
  have hsearch : Json.object (Toml.treeFields (s.search.fieldsWith number)) =
      s.search.written number.tree := by
    rw [SearchSettings.fieldsWith, SearchSettings.written]
    cases s.search.endpoint <;> rfl
  rw [written, ← hllm, ← hsearch]
  rfl

theorem treeFields_tables (sections : List (String × Toml.Fields)) :
    Json.object (Toml.treeFields (sections.map fun part => (part.1, .table .header part.2))) =
      documentOf sections := by
  rw [treeFields_eq_map, List.map_map, documentOf]
  rfl

theorem sectionFrom_edit (o : Omission) {a : Additions} (ha : a.Proper) (name : String)
    {fields : Toml.Fields} (hnodup : (keys fields).Nodup) :
    o.SectionFrom name (.object (Toml.treeFields fields))
      (.object (Toml.treeFields (o.editSection a name fields))) := by
  have hextra : ∀ key ∈ keys ((a.fields name).map fun field => (field.1, field.2.tree)),
      key ∉ fieldNames name := by
    rw [keys, List.map_map]
    exact ha.fieldNames name
  have hedited : LeavesOut (fieldNames name) (fun field => o.fields.contains (name, field))
      (fun _ value given => value.tree = given) fields
      (((fields.filter fun field => !o.fields.contains (name, field.1)).map fun field =>
        (field.1, field.2.tree)) ++ (a.fields name).map fun field => (field.1, field.2.tree)) :=
    leavesOut_edited hnodup hextra (fun _ => Toml.tree) fun _ _ => rfl
  rw [← List.map_append, ← treeFields_eq_map, ← Omission.editSection] at hedited
  rw [treeFields_eq_map fields]
  exact ⟨_, _, rfl, rfl, hedited.of_map⟩

theorem documentFrom_edit (o : Omission) {a : Additions} (ha : a.Proper)
    {sections : List (String × Toml.Fields)} (hnodup : (keys sections).Nodup)
    (hnodups : ∀ part ∈ sections, (keys part.2).Nodup) :
    o.DocumentFrom (documentOf sections) (documentOf (o.edit a sections)) := by
  have hextra : ∀ key ∈ keys (a.sections.map fun part =>
      (part.1, Json.object (Toml.treeFields part.2))), key ∉ Settings.sectionNames := by
    rw [keys, List.map_map]
    exact ha.sectionNames
  have hedited : LeavesOut Settings.sectionNames o.sections.contains
      (fun name fields => o.SectionFrom name (.object (Toml.treeFields fields))) sections
      (((sections.filter fun part => !o.sections.contains part.1).map fun part =>
        (part.1, Json.object (Toml.treeFields (o.editSection a part.1 part.2))))
        ++ a.sections.map fun part => (part.1, Json.object (Toml.treeFields part.2))) :=
    leavesOut_edited hnodup hextra
      (fun name fields => .object (Toml.treeFields (o.editSection a name fields)))
      fun part hpart => sectionFrom_edit o ha part.1 (hnodups part hpart)
  rw [documentOf, documentOf, Omission.edit, List.map_append, List.map_map]
  exact ⟨_, _, rfl, rfl, hedited.of_map⟩

theorem documentFrom_edit_sections (o : Omission) {a : Additions} (ha : a.Proper) (number : Toml)
    (s : Settings) :
    o.DocumentFrom (s.written number.tree) (documentOf (o.edit a (s.sectionsWith number))) := by
  rw [← documentOf_sectionsWith]
  exact documentFrom_edit o ha (by decide : sectionNames.Nodup) fun part hpart =>
    (keys_sectionsWith number s part hpart).nodup (nodup_fieldNames part.1)

-- ---------------------------------------------------------------------------
-- What is left is read
-- ---------------------------------------------------------------------------

/-- Settings that can be written in JSON, with a threshold that is not changed by being printed as
a decimal and read. -/
structure FitsJson (s : Settings) : Prop where
  words : s.WordsBelow 64
  threshold : asSingle? (Json.single s.search.scoreThreshold) = some s.search.scoreThreshold

/-- Settings that can be written in TOML, where whole numbers have a sign, with a threshold that is
not changed by being printed as a decimal and read. -/
structure FitsToml (s : Settings) : Prop where
  words : s.WordsBelow 63
  threshold : (Toml.readFloat? (Toml.floatText
    (Floating.convert Floating.double s.search.scoreThreshold))).map
      (Floating.convert Floating.single) = some s.search.scoreThreshold

theorem WordsBelow.mono {s : Settings} (h : s.WordsBelow 63) : s.WordsBelow 64 := by
  have hle : twoPow 63 ≤ twoPow 64 := Nat.pow_le_pow_right (by decide) (by decide)
  exact ⟨h.timeoutSecs.trans_le hle, h.topK.trans_le hle, h.timeoutMillis.trans_le hle,
    h.recentWindow.trans_le hle, h.tokenThreshold.trans_le hle⟩

/-- What the text of settings is read as: a number `x` stands in the place of the threshold. -/
theorem document?_edit {s : Settings} (h : s.FitsToml) : ∃ x,
    Floating.convert Floating.single x = s.search.scoreThreshold ∧
    ∀ (o : Omission) {a : Additions}, a.Proper →
      Toml.document? (Toml.sectionsText (o.edit a s.sections)) =
        some ((o.edit a (s.sectionsWith (.float x))).map fun part =>
          (part.1, .table .header part.2)) := by
  obtain ⟨x, hread, hconvert⟩ := Option.map_eq_some_iff.1 h.threshold
  refine ⟨x, hconvert, fun o a ha => ?_⟩
  have hsections := sectionsWith_reads h.words (Toml.readsAs_float hread)
  have hedited : List.Forall₂ Toml.SectionReads (o.edit a s.sections)
      (o.edit a (s.sectionsWith (.float x))) :=
    edit_reads ha hsections (keys_sectionsWith _ s)
  exact Toml.document?_sectionsText hedited (nodup_edit ha rfl)

theorem proper_nothing : Additions.Proper {} where
  fieldNames := fun _ _ h => nomatch h
  sectionNames := fun _ h => nomatch h
  nodupFields := fun _ => List.nodup_nil
  nodupSections := List.nodup_nil
  fields := fun _ _ h => nomatch h
  sections := fun _ h => nomatch h

theorem edit_nothing (sections : List (String × Toml.Fields)) :
    Omission.edit {} {} sections = sections := by
  have hsections : (sections.filter fun _ => true).map (fun part =>
      (part.1, (part.2.filter fun _ => true) ++ ([] : Toml.Fields))) ++ [] = sections := by
    simp
  exact hsections

theorem ofToml?_of_documentFrom {s : Settings} (h : s.FitsToml) {x : Floating}
    (hconvert : Floating.convert Floating.single x = s.search.scoreThreshold) {o : Omission}
    {text : String} {part : Toml.Fields} (hpart : Toml.document? text = some part)
    (hfrom : o.DocumentFrom (s.written (Toml.float x).tree) (.object (Toml.treeFields part))) :
    ofToml? text = some (s.resetting o) := by
  have hnumber : asSingle? (Toml.float x).tree = some s.search.scoreThreshold :=
    congrArg some hconvert
  rw [ofToml?, hpart, Option.bind_some]
  exact decode?_documentFrom h.words.mono hnumber hfrom _

/-- The text of settings without some sections and fields, with additions. -/
theorem ofToml?_edit {s : Settings} (h : s.FitsToml) (o : Omission) {a : Additions}
    (ha : a.Proper) : ofToml? (Toml.sectionsText (o.edit a s.sections)) = some (s.resetting o) := by
  obtain ⟨x, hconvert, hread⟩ := document?_edit h
  refine ofToml?_of_documentFrom h hconvert (hread o ha) ?_
  rw [treeFields_tables]
  exact documentFrom_edit_sections o ha _ s

theorem encode_eq_written (s : Settings) :
    s.encode = s.written (Json.single s.search.scoreThreshold) := rfl

/-- What reads as a threshold in JSON is a number. -/
theorem exists_single {threshold y : Floating}
    (h : asSingle? (Json.single threshold) = some y) :
    ∃ x, Json.single threshold = .number (.float x) := by
  cases threshold with
  | finite negative significand exponent => exact ⟨_, rfl⟩
  | infinite negative => exact nomatch h
  | undefined => exact nomatch h

/-- Settings are read back from JSON. -/
theorem decode?_encode {s : Settings} (h : s.FitsJson) (dialect : Dialect) :
    decode? dialect s.encode = some s := by
  obtain ⟨x, hx⟩ := exists_single h.threshold
  have hfrom := documentFrom_edit_sections {} proper_nothing (.float x) s
  rw [edit_nothing, documentOf_sectionsWith] at hfrom
  have hencode : s.encode = s.written (Toml.float x).tree := by
    rw [encode_eq_written, hx]
    rfl
  have hnumber : asSingle? (Toml.float x).tree = some s.search.scoreThreshold := by
    rw [← h.threshold, hx]
    rfl
  rw [hencode]
  exact decode?_documentFrom h.words hnumber hfrom dialect

/-- A document of settings need not give everything. Whichever sections and fields are taken out of
the document that settings are written as, and whichever unknown ones are put in, what is left is
read as the settings with the defaults of what is gone. -/
theorem decode?_omission (s : Settings) :
    (s.FitsJson → (∀ dialect, decode? dialect s.encode = some s) ∧
      ∀ (o : Omission) (part : Json), o.DocumentFrom s.encode part →
        ∀ dialect, decode? dialect part = some (s.resetting o)) ∧
    (s.FitsToml → ofToml? s.toml = some s ∧
      (∀ (o : Omission) (a : Additions), a.Proper →
        ofToml? (Toml.sectionsText (o.edit a s.sections)) = some (s.resetting o)) ∧
      ∃ whole, Toml.document? s.toml = some whole ∧
        ∀ (o : Omission) (text : String) (part : Toml.Fields), Toml.document? text = some part →
          o.DocumentFrom (.object (Toml.treeFields whole)) (.object (Toml.treeFields part)) →
            ofToml? text = some (s.resetting o)) ∧
    s.resetting {} = s ∧
    ∀ (o : Omission) (name : String),
      s.resetting { o with sections := name :: o.sections } =
        s.resetting { o with fields := (fieldNames name).map (Prod.mk name) ++ o.fields } := by
  refine ⟨fun h => ?json, fun h => ?toml, s.resetting_nothing, s.resetting_section⟩
  case json => exact ⟨decode?_encode h, fun o part => decode?_documentFrom h.words h.threshold⟩
  case toml =>
    obtain ⟨x, hconvert, hread⟩ := document?_edit h
    have hwhole := hread {} proper_nothing
    have hnothing := ofToml?_edit h {} proper_nothing
    rw [edit_nothing, edit_nothing, ← toml_eq] at hwhole
    rw [edit_nothing, ← toml_eq, resetting_nothing] at hnothing
    refine ⟨hnothing, fun o _ ha => ofToml?_edit h o ha, _, hwhole, ?_⟩
    intro o text part hpart hfrom
    rw [treeFields_tables, documentOf_sectionsWith] at hfrom
    exact ofToml?_of_documentFrom h hconvert hpart hfrom

/-- A file with one section and a half of settings, and with a note and a section that nobody
knows. The other sections and the field that is missing have their defaults. -/
theorem decode?_omission_compression :
    FitsToml { compression := { enabled := false, recentWindow := 3 } } ∧
    ofToml? ("[compression]\nrecent_user_msg_window = 3\nsummary_token_threshold = 5000\n" ++
        "note = 'a \"b\"'\n\n[log]\nlevel = \"info\"\njson = false\n\n[cache]\nsize = 4\n") =
      some { compression := { recentWindow := 3 } } := by
  have hfits : FitsToml { compression := { enabled := false, recentWindow := 3 } } :=
    ⟨⟨by decide, by decide, by decide, by decide, by decide⟩, by decide +kernel⟩
  obtain ⟨o, ho⟩ : ∃ o : Omission, o = ⟨["llm", "semantic", "tool_description", "loop_detection"],
    [("compression", "compress_user_prompt")]⟩ := ⟨_, rfl⟩
  obtain ⟨a, ha⟩ : ∃ a : Additions, a = ⟨fun name =>
    if name = "compression" then [("note", .string "a \"b\"")] else [],
    [("cache", [("size", .integer 4)])]⟩ := ⟨_, rfl⟩
  have hproper : a.Proper := by
    rw [ha]
    refine ⟨fun name => ?_, by decide, fun name => ?_, by decide, fun name => ?_, ?_⟩ <;>
      dsimp only
    · split
      · next hname => exact hname ▸ by decide
      · exact fun _ h => nomatch h
    · split
      · exact List.nodup_singleton "note"
      · exact List.nodup_nil
    · split
      · exact List.forall_mem_singleton.2 (.of_value (by decide) (Toml.readsAs_string _))
      · exact fun _ h => nomatch h
    · exact List.forall_mem_singleton.2 (.of_fields (by decide) (by decide)
        (.cons (.of_value (by decide) (@Toml.readsAs_integer 4 (by decide))) .nil))
  have hread := ((decode?_omission { compression := { enabled := false, recentWindow := 3 } }).2.1
    hfits).2.1 o a hproper
  have htext : Toml.sectionsText (o.edit a
      ({ compression := { enabled := false, recentWindow := 3 } } : Settings).sections) =
      "[compression]\nrecent_user_msg_window = 3\nsummary_token_threshold = 5000\n" ++
        "note = 'a \"b\"'\n\n[log]\nlevel = \"info\"\njson = false\n\n[cache]\nsize = 4\n" := by
    rw [ho, ha]
    decide +kernel
  rw [htext, ho] at hread
  exact ⟨hfits, hread⟩

end Settings

end PromptBudget
