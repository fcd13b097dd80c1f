import PromptBudget.Proofs.PartialRecords
import PromptBudget.Settings.Codec

/-!
# PromptBudget — documents that leave out settings

A document of settings need not give every section and every field: what it leaves out has its
default, and keys with unknown names change nothing. The defaults are given in two places, field by
field for a section that is there and as a whole for one that is not, and the two agree.

Every section has one lemma, about the document of the section without some of its fields. The
lemma about the whole document goes through the sections in the same way.

Main results:

* `Settings.decode?_documentFrom` — a document without some sections and fields is read as the
  settings with the defaults of these.
* `Settings.resetting_section` — to leave out a section is to leave out each of its fields.
-/

namespace PromptBudget

open Json

namespace Settings

/-- The names of the fields of each section. -/
def fieldNames : String → List String
  | "llm" => ["endpoint", "api_key", "summary_model", "timeout_secs"]
  | "semantic" => ["enabled", "endpoint", "top_k", "score_threshold", "inject_target", "timeout_ms"]
  | "compression" => ["compress_user_prompt", "recent_user_msg_window", "summary_token_threshold"]
  | "tool_description" => ["enabled", "start", "end", "parse_failure_marker", "failure_section"]
  | "loop_detection" => ["enabled"]
  | "log" => ["level", "json"]
  | _ => []

end Settings

-- ---------------------------------------------------------------------------
-- Sections
-- ---------------------------------------------------------------------------

/-- The section with the default of every field that is gone. -/
def LlmSettings.resetting (gone : String → Bool) (s : LlmSettings) : LlmSettings :=
  let defaults : LlmSettings := {}
  { endpoint := if gone "endpoint" then defaults.endpoint else s.endpoint
    apiKey := if gone "api_key" then defaults.apiKey else s.apiKey
    summaryModel := if gone "summary_model" then defaults.summaryModel else s.summaryModel
    timeoutSecs := if gone "timeout_secs" then defaults.timeoutSecs else s.timeoutSecs }

/-- The section with the default of every field that is gone. -/
def SearchSettings.resetting (gone : String → Bool) (s : SearchSettings) : SearchSettings :=
  let defaults : SearchSettings := {}
  { enabled := if gone "enabled" then defaults.enabled else s.enabled
    endpoint := if gone "endpoint" then defaults.endpoint else s.endpoint
    topK := if gone "top_k" then defaults.topK else s.topK
    scoreThreshold := if gone "score_threshold" then defaults.scoreThreshold else s.scoreThreshold
    target := if gone "inject_target" then defaults.target else s.target
    timeoutMillis := if gone "timeout_ms" then defaults.timeoutMillis else s.timeoutMillis }

/-- The section with the default of every field that is gone. -/
def CompressionSettings.resetting (gone : String → Bool) (s : CompressionSettings) :
    CompressionSettings :=
  let defaults : CompressionSettings := {}
  { enabled := if gone "compress_user_prompt" then defaults.enabled else s.enabled
    recentWindow := if gone "recent_user_msg_window" then defaults.recentWindow else s.recentWindow
    tokenThreshold :=
      if gone "summary_token_threshold" then defaults.tokenThreshold else s.tokenThreshold }

/-- The section with the default of every field that is gone. -/
def ToolDocsSettings.resetting (gone : String → Bool) (s : ToolDocsSettings) : ToolDocsSettings :=
  let defaults : ToolDocsSettings := {}
  { enabled := if gone "enabled" then defaults.enabled else s.enabled
    start := if gone "start" then defaults.start else s.start
    stop := if gone "end" then defaults.stop else s.stop
    failureMarker := if gone "parse_failure_marker" then defaults.failureMarker else s.failureMarker
    failureHeading := if gone "failure_section" then defaults.failureHeading else s.failureHeading }

/-- The section with the default of every field that is gone. -/
def LoopSettings.resetting (gone : String → Bool) (s : LoopSettings) : LoopSettings :=
  let defaults : LoopSettings := {}
  { enabled := if gone "enabled" then defaults.enabled else s.enabled }

/-- The section with the default of every field that is gone. -/
def LogSettings.resetting (gone : String → Bool) (s : LogSettings) : LogSettings :=
  let defaults : LogSettings := {}
  { level := if gone "level" then defaults.level else s.level
    json := if gone "json" then defaults.json else s.json }

/-- The section in a document where a number is written in the place of the threshold. -/
def SearchSettings.written (number : Json) (s : SearchSettings) : Json :=
  .object ([("enabled", .bool s.enabled)] ++ optionalText "endpoint" s.endpoint
    ++ [("top_k", Json.nat s.topK), ("score_threshold", number),
      ("inject_target", .string s.target.name), ("timeout_ms", Json.nat s.timeoutMillis)])

theorem InjectionTarget.decode?_name (dialect : Dialect) (target : InjectionTarget) :
    decode? dialect (.string target.name) = some target := by
  cases target <;> rfl

theorem asWord?_nat {n : Nat} (h : n < twoPow 64) : asWord? (Json.nat n) = some n := asNat?_nat h

section Sections

variable (dialect : Dialect) {gone : String → Bool} {whole part : List (String × Json)}

theorem LlmSettings.decode?_leavesOut {s : LlmSettings} (htimeout : s.timeoutSecs < twoPow 64)
    (hwhole : s.encode = .object whole)
    (h : LeavesOut (Settings.fieldNames "llm") gone (fun _ => Eq) whole part) :
    decode? dialect (.object part) = some (s.resetting gone) := by
  obtain rfl := Json.object.inj hwhole
  obtain ⟨r, hr⟩ := h.exists_record dialect
  refine Option.bind_eq_some_iff.2 ⟨r, hr, ?_⟩
  refine Option.bind_eq_some_iff.2
    ⟨_, h.withDefault_of_lookup hr "endpoint" (by decide) rfl rfl, ?_⟩
  refine Option.bind_eq_some_iff.2 ⟨if gone "api_key" then none else s.apiKey,
    h.withDefault_of_elim hr "api_key" (by decide) (by cases s.apiKey <;> rfl), ?_⟩
  refine Option.bind_eq_some_iff.2 ⟨_, h.withDefault_of_lookup hr "summary_model" (by decide)
    (by cases s.apiKey <;> rfl) rfl, ?_⟩
  refine Option.bind_eq_some_iff.2 ⟨_, h.withDefault_of_lookup hr "timeout_secs" (by decide)
    (by cases s.apiKey <;> rfl) (asWord?_nat htimeout), ?_⟩
  rfl

theorem SearchSettings.decode?_leavesOut {s : SearchSettings} (htopK : s.topK < twoPow 64)
    (htimeout : s.timeoutMillis < twoPow 64) {number : Json}
    (hnumber : asSingle? number = some s.scoreThreshold) (hwhole : s.written number = .object whole)
    (h : LeavesOut (Settings.fieldNames "semantic") gone (fun _ => Eq) whole part) :
    decode? dialect (.object part) = some (s.resetting gone) := by
  obtain rfl := Json.object.inj hwhole
  obtain ⟨r, hr⟩ := h.exists_record dialect
  refine Option.bind_eq_some_iff.2 ⟨r, hr, ?_⟩
  refine Option.bind_eq_some_iff.2
    ⟨_, h.withDefault_of_lookup hr "enabled" (by decide) rfl rfl, ?_⟩
  refine Option.bind_eq_some_iff.2 ⟨if gone "endpoint" then none else s.endpoint,
    h.withDefault_of_elim hr "endpoint" (by decide) (by cases s.endpoint <;> rfl), ?_⟩
  refine Option.bind_eq_some_iff.2 ⟨_, h.withDefault_of_lookup hr "top_k" (by decide)
    (by cases s.endpoint <;> rfl) (asWord?_nat htopK), ?_⟩
  refine Option.bind_eq_some_iff.2 ⟨_, h.withDefault_of_lookup hr "score_threshold" (by decide)
    (by cases s.endpoint <;> rfl) hnumber, ?_⟩
  refine Option.bind_eq_some_iff.2 ⟨_, h.withDefault_of_lookup hr "inject_target" (by decide)
    (by cases s.endpoint <;> rfl) (InjectionTarget.decode?_name dialect s.target), ?_⟩
  refine Option.bind_eq_some_iff.2 ⟨_, h.withDefault_of_lookup hr "timeout_ms" (by decide)
    (by cases s.endpoint <;> rfl) (asWord?_nat htimeout), ?_⟩
  rfl

theorem CompressionSettings.decode?_leavesOut {s : CompressionSettings}
    (hwindow : s.recentWindow < twoPow 64) (htokens : s.tokenThreshold < twoPow 64)
    (hwhole : s.encode = .object whole)
    (h : LeavesOut (Settings.fieldNames "compression") gone (fun _ => Eq) whole part) :
    decode? dialect (.object part) = some (s.resetting gone) := by
  obtain rfl := Json.object.inj hwhole
  obtain ⟨r, hr⟩ := h.exists_record dialect
  refine Option.bind_eq_some_iff.2 ⟨r, hr, ?_⟩
  refine Option.bind_eq_some_iff.2
    ⟨_, h.withDefault_of_lookup hr "compress_user_prompt" (by decide) rfl rfl, ?_⟩
  refine Option.bind_eq_some_iff.2 ⟨_, h.withDefault_of_lookup hr "recent_user_msg_window"
    (by decide) rfl (asWord?_nat hwindow), ?_⟩
  refine Option.bind_eq_some_iff.2 ⟨_, h.withDefault_of_lookup hr "summary_token_threshold"
    (by decide) rfl (asWord?_nat htokens), ?_⟩
  rfl

theorem ToolDocsSettings.decode?_leavesOut {s : ToolDocsSettings}
    (hwhole : s.encode = .object whole)
    (h : LeavesOut (Settings.fieldNames "tool_description") gone (fun _ => Eq) whole part) :
    decode? dialect (.object part) = some (s.resetting gone) := by
  obtain rfl := Json.object.inj hwhole
  obtain ⟨r, hr⟩ := h.exists_record dialect
  refine Option.bind_eq_some_iff.2 ⟨r, hr, ?_⟩
  refine Option.bind_eq_some_iff.2
    ⟨_, h.withDefault_of_lookup hr "enabled" (by decide) rfl rfl, ?_⟩
  refine Option.bind_eq_some_iff.2
    ⟨_, h.withDefault_of_lookup hr "start" (by decide) rfl rfl, ?_⟩
  refine Option.bind_eq_some_iff.2
    ⟨_, h.withDefault_of_lookup hr "end" (by decide) rfl rfl, ?_⟩
  refine Option.bind_eq_some_iff.2
    ⟨_, h.withDefault_of_lookup hr "parse_failure_marker" (by decide) rfl rfl, ?_⟩
  refine Option.bind_eq_some_iff.2
    ⟨_, h.withDefault_of_lookup hr "failure_section" (by decide) rfl rfl, ?_⟩
  rfl

theorem LoopSettings.decode?_leavesOut {s : LoopSettings} (hwhole : s.encode = .object whole)
    (h : LeavesOut (Settings.fieldNames "loop_detection") gone (fun _ => Eq) whole part) :
    decode? dialect (.object part) = some (s.resetting gone) := by
  obtain rfl := Json.object.inj hwhole
  obtain ⟨r, hr⟩ := h.exists_record dialect
  refine Option.bind_eq_some_iff.2 ⟨r, hr, ?_⟩
  refine Option.bind_eq_some_iff.2
    ⟨_, h.withDefault_of_lookup hr "enabled" (by decide) rfl rfl, ?_⟩
  rfl

theorem LogSettings.decode?_leavesOut {s : LogSettings} (hwhole : s.encode = .object whole)
    (h : LeavesOut (Settings.fieldNames "log") gone (fun _ => Eq) whole part) :
    decode? dialect (.object part) = some (s.resetting gone) := by
  obtain rfl := Json.object.inj hwhole
  obtain ⟨r, hr⟩ := h.exists_record dialect
  refine Option.bind_eq_some_iff.2 ⟨r, hr, ?_⟩
  refine Option.bind_eq_some_iff.2
    ⟨_, h.withDefault_of_lookup hr "level" (by decide) rfl rfl, ?_⟩
  refine Option.bind_eq_some_iff.2
    ⟨_, h.withDefault_of_lookup hr "json" (by decide) rfl rfl, ?_⟩
  rfl

end Sections

-- ---------------------------------------------------------------------------
-- Documents
-- ---------------------------------------------------------------------------

namespace Settings

/-- The settings in a document where a number is written in the place of the threshold. -/
def written (number : Json) (s : Settings) : Json :=
  .object [("llm", s.llm.encode), ("semantic", s.search.written number),
    ("compression", s.compression.encode), ("tool_description", s.toolDocs.encode),
    ("loop_detection", s.loops.encode), ("log", s.log.encode)]

/-- What a document of settings leaves out: sections, and fields of sections. -/
structure Omission where
  sections : List String := []
  fields : List (String × String) := []

namespace Omission

/-- Whether a field is left out, alone or with its section. -/
def omits (o : Omission) (name field : String) : Bool :=
  o.sections.contains name || o.fields.contains (name, field)

/-- A section without the fields that are left out, perhaps with fields of unknown names. -/
def SectionFrom (o : Omission) (name : String) (whole part : Json) : Prop :=
  ∃ fields rest, whole = .object fields ∧ part = .object rest ∧
    LeavesOut (fieldNames name) (fun field => o.fields.contains (name, field)) (fun _ => Eq)
      fields rest

/-- A document without the sections and fields that are left out, perhaps with sections and fields
of unknown names. -/
def DocumentFrom (o : Omission) (whole part : Json) : Prop :=
  ∃ sections rest, whole = .object sections ∧ part = .object rest ∧
    LeavesOut sectionNames o.sections.contains o.SectionFrom sections rest

end Omission

/-- The settings with the default of everything that is left out. -/
def resetting (o : Omission) (s : Settings) : Settings where
  llm := s.llm.resetting (o.omits "llm")
  search := s.search.resetting (o.omits "semantic")
  compression := s.compression.resetting (o.omits "compression")
  toolDocs := s.toolDocs.resetting (o.omits "tool_description")
  loops := s.loops.resetting (o.omits "loop_detection")
  log := s.log.resetting (o.omits "log")

/-- A section that is left out has the default of every field. -/
theorem withDefault_section {α : Type} {o : Omission} {whole part : List (String × Json)}
    (h : LeavesOut sectionNames o.sections.contains o.SectionFrom whole part) {dialect : Dialect}
    {r : Record Json} (hr : record? dialect sectionNames (.map part) = some r) (name : String)
    (hname : name ∈ sectionNames) {value : Json} (hvalue : lookup name whole = some value)
    {decode : Json → Option α} {default : α} {resetting : (String → Bool) → α}
    (hdefault : resetting (fun _ => true) = default)
    (hdecode : ∀ {gone fields rest}, value = .object fields →
      LeavesOut (fieldNames name) gone (fun _ => Eq) fields rest →
        decode (.object rest) = some (resetting gone)) :
    r.withDefault name decode default = some (resetting (o.omits name)) := by
  rw [LeavesOut.withDefault_eq_elim hr hname]
  cases hgone : o.sections.contains name with
  | true =>
    have homits : o.omits name = fun _ => true := by
      funext field
      rw [Omission.omits, hgone, Bool.true_or]
    rw [h.missing name hname (.inl hgone), Option.elim_none, homits, hdefault]
  | false =>
    have homits : o.omits name = fun field => o.fields.contains (name, field) := by
      funext field
      rw [Omission.omits, hgone, Bool.false_or]
    obtain ⟨given, hgiven, fields, rest, hfields, rfl, hrest⟩ :=
      h.kept name hname hgone value hvalue
    rw [hgiven, Option.elim_some, homits, hdecode hfields hrest]

/-- The whole numbers of the settings have so many bits. -/
structure WordsBelow (bits : Nat) (s : Settings) : Prop where
  timeoutSecs : s.llm.timeoutSecs < twoPow bits
  topK : s.search.topK < twoPow bits
  timeoutMillis : s.search.timeoutMillis < twoPow bits
  recentWindow : s.compression.recentWindow < twoPow bits
  tokenThreshold : s.compression.tokenThreshold < twoPow bits

/-- A document without some sections and fields is read as the settings with their defaults. -/
theorem decode?_documentFrom {s : Settings} (hwords : s.WordsBelow 64) {number : Json}
    (hnumber : asSingle? number = some s.search.scoreThreshold) {o : Omission} {part : Json}
    (h : o.DocumentFrom (s.written number) part) (dialect : Dialect) :
    decode? dialect part = some (s.resetting o) := by
  obtain ⟨sections, rest, hsections, rfl, h⟩ := h
  obtain rfl := Json.object.inj hsections
  obtain ⟨r, hr⟩ := h.exists_record dialect
  refine Option.bind_eq_some_iff.2 ⟨r, hr, ?_⟩
  refine Option.bind_eq_some_iff.2 ⟨_, withDefault_section h hr "llm" (by decide) rfl rfl
    (LlmSettings.decode?_leavesOut dialect hwords.timeoutSecs), ?_⟩
  refine Option.bind_eq_some_iff.2 ⟨_, withDefault_section h hr "semantic" (by decide) rfl rfl
    (SearchSettings.decode?_leavesOut dialect hwords.topK hwords.timeoutMillis hnumber), ?_⟩
  refine Option.bind_eq_some_iff.2 ⟨_, withDefault_section h hr "compression" (by decide) rfl rfl
    (CompressionSettings.decode?_leavesOut dialect hwords.recentWindow hwords.tokenThreshold), ?_⟩
  refine Option.bind_eq_some_iff.2 ⟨_, withDefault_section h hr "tool_description" (by decide) rfl
    rfl (ToolDocsSettings.decode?_leavesOut dialect), ?_⟩
  refine Option.bind_eq_some_iff.2 ⟨_, withDefault_section h hr "loop_detection" (by decide) rfl
    rfl (LoopSettings.decode?_leavesOut dialect), ?_⟩
  refine Option.bind_eq_some_iff.2 ⟨_, withDefault_section h hr "log" (by decide) rfl
    rfl (LogSettings.decode?_leavesOut dialect), ?_⟩
  rfl

end Settings

-- ---------------------------------------------------------------------------
-- Resetting
-- ---------------------------------------------------------------------------

namespace Settings

/-- Only what is said of known fields matters. -/
theorem resetting_congr (s : Settings) {o o' : Omission}
    (h : ∀ name, ∀ field ∈ fieldNames name, o.omits name field = o'.omits name field) :
    s.resetting o = s.resetting o' := by
  have hllm := h "llm"
  have hsearch := h "semantic"
  have hcompression := h "compression"
  have htoolDocs := h "tool_description"
  have hloops := h "loop_detection"
  have hlog := h "log"
  simp only [fieldNames, List.forall_mem_cons] at hllm hsearch hcompression htoolDocs hloops hlog
  simp only [resetting, LlmSettings.resetting, SearchSettings.resetting,
    CompressionSettings.resetting, ToolDocsSettings.resetting, LoopSettings.resetting,
    LogSettings.resetting, hllm, hsearch, hcompression, htoolDocs, hloops, hlog]

theorem resetting_nothing (s : Settings) : s.resetting {} = s := rfl

/-- To leave out a section is to leave out each of its fields. -/
theorem resetting_section (s : Settings) (o : Omission) (name : String) :
    s.resetting { o with sections := name :: o.sections } =
      s.resetting { o with fields := (fieldNames name).map (Prod.mk name) ++ o.fields } := by
  refine s.resetting_congr fun other field hfield => ?_
  have hmem : (other, field) ∈ (fieldNames name).map (Prod.mk name) ↔ other = name := by
    constructor
    · intro hmem
      obtain ⟨_, _, hpair⟩ := List.mem_map.1 hmem
      exact (Prod.mk.inj hpair).1.symm
    · rintro rfl
      exact List.mem_map_of_mem hfield
  rw [Bool.eq_iff_iff]
  simp only [Omission.omits, Bool.or_eq_true, List.contains_iff_mem, List.mem_cons,
    List.mem_append, hmem]
  tauto

end Settings

end PromptBudget
