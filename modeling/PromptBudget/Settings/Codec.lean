import PromptBudget.Json.Record
import PromptBudget.Settings.Basic

/-!
# PromptBudget — settings as documents

Settings are written as a record of sections, each a record of fields. A section that a document
leaves out is the default section. A field that is left out in a section has the default that the
section names for it, or one that is given here for a document: whether these are the values of the
default section is shown in `Proofs/Omissions`. Optional texts are left out when they are missing.
-/

namespace PromptBudget

open Json

/-- A number of 64 bits without a sign. -/
def asWord? (value : Json) : Option Nat := asNat? 64 value

/-- The text field of a record, if a text is given. -/
def optionalText (name : String) : Option String → List (String × Json)
  | some text => [(name, .string text)]
  | none => []

/-- Whether a section that does not say so is enabled. -/
def enabledUnlessGiven : Bool := true

/-! ## Sections -/

/-- The section in JSON. -/
def LlmSettings.encode (s : LlmSettings) : Json :=
  .object ([("endpoint", .string s.endpoint)] ++ optionalText "api_key" s.apiKey
    ++ [("summary_model", .string s.summaryModel), ("timeout_secs", Json.nat s.timeoutSecs)])

/-- The section that a document writes. -/
def LlmSettings.decode? (dialect : Dialect) (value : Json) : Option LlmSettings := do
  let r ← record? dialect ["endpoint", "api_key", "summary_model", "timeout_secs"] value.shape
  return {
    endpoint := ← r.withDefault "endpoint" asString? LlmSettings.defaultEndpoint
    apiKey := ← r.withDefault "api_key" (nullable asString?) none
    summaryModel := ← r.withDefault "summary_model" asString? LlmSettings.defaultSummaryModel
    timeoutSecs := ← r.withDefault "timeout_secs" asWord? LlmSettings.defaultTimeoutSecs }

/-- The name of a target. -/
def InjectionTarget.name : InjectionTarget → String
  | .lastUser => "last_user"
  | .system => "system"

/-- The target that a document names. -/
def InjectionTarget.decode? (dialect : Dialect) (value : Json) : Option InjectionTarget :=
  match variant? dialect value with
  | some "last_user" => some .lastUser
  | some "system" => some .system
  | _ => none

/-- The section in JSON. -/
def SearchSettings.encode (s : SearchSettings) : Json :=
  .object ([("enabled", .bool s.enabled)] ++ optionalText "endpoint" s.endpoint
    ++ [("top_k", Json.nat s.topK), ("score_threshold", Json.single s.scoreThreshold),
      ("inject_target", .string s.target.name), ("timeout_ms", Json.nat s.timeoutMillis)])

/-- The section that a document writes. -/
def SearchSettings.decode? (dialect : Dialect) (value : Json) : Option SearchSettings := do
  let r ← record? dialect
    ["enabled", "endpoint", "top_k", "score_threshold", "inject_target", "timeout_ms"] value.shape
  return {
    enabled := ← r.withDefault "enabled" asBool? enabledUnlessGiven
    endpoint := ← r.withDefault "endpoint" (nullable asString?) none
    topK := ← r.withDefault "top_k" asWord? SearchSettings.defaultTopK
    scoreThreshold := ← r.withDefault "score_threshold" asSingle? SearchSettings.defaultThreshold
    target := ← r.withDefault "inject_target" (InjectionTarget.decode? dialect) default
    timeoutMillis := ← r.withDefault "timeout_ms" asWord? SearchSettings.defaultTimeoutMillis }

/-- The section in JSON. -/
def CompressionSettings.encode (s : CompressionSettings) : Json :=
  .object [("compress_user_prompt", .bool s.enabled), ("recent_user_msg_window", Json.nat s.recentWindow),
    ("summary_token_threshold", Json.nat s.tokenThreshold)]

/-- The section that a document writes. -/
def CompressionSettings.decode? (dialect : Dialect) (value : Json) : Option CompressionSettings := do
  let r ← record? dialect
    ["compress_user_prompt", "recent_user_msg_window", "summary_token_threshold"] value.shape
  return {
    enabled := ← r.withDefault "compress_user_prompt" asBool? enabledUnlessGiven
    recentWindow := ← r.withDefault "recent_user_msg_window" asWord? CompressionSettings.defaultRecentWindow
    tokenThreshold := ← r.withDefault "summary_token_threshold" asWord? CompressionSettings.defaultTokenThreshold }

/-- The section in JSON. -/
def ToolDocsSettings.encode (s : ToolDocsSettings) : Json :=
  .object [("enabled", .bool s.enabled), ("start", .string s.start), ("end", .string s.stop),
    ("parse_failure_marker", .string s.failureMarker), ("failure_section", .string s.failureHeading)]

/-- The section that a document writes. -/
def ToolDocsSettings.decode? (dialect : Dialect) (value : Json) : Option ToolDocsSettings := do
  let r ← record? dialect ["enabled", "start", "end", "parse_failure_marker", "failure_section"] value.shape
  return {
    enabled := ← r.withDefault "enabled" asBool? enabledUnlessGiven
    start := ← r.withDefault "start" asString? ToolDocsSettings.defaultStart
    stop := ← r.withDefault "end" asString? ToolDocsSettings.defaultStop
    failureMarker := ← r.withDefault "parse_failure_marker" asString? ToolDocsSettings.defaultFailureMarker
    failureHeading := ← r.withDefault "failure_section" asString? ToolDocsSettings.defaultFailureHeading }

/-- The section in JSON. -/
def LoopSettings.encode (s : LoopSettings) : Json :=
  .object [("enabled", .bool s.enabled)]

/-- The section that a document writes. -/
def LoopSettings.decode? (dialect : Dialect) (value : Json) : Option LoopSettings := do
  let r ← record? dialect ["enabled"] value.shape
  return { enabled := ← r.withDefault "enabled" asBool? enabledUnlessGiven }

/-- The section in JSON. -/
def LogSettings.encode (s : LogSettings) : Json :=
  .object [("level", .string s.level), ("json", .bool s.json)]

/-- The section that a document writes. -/
def LogSettings.decode? (dialect : Dialect) (value : Json) : Option LogSettings := do
  let r ← record? dialect ["level", "json"] value.shape
  return {
    level := ← r.withDefault "level" asString? LogSettings.defaultLevel
    json := ← r.withDefault "json" asBool? false }

/-! ## All sections -/

namespace Settings

/-- The names of the sections. -/
def sectionNames : List String := ["llm", "semantic", "compression", "tool_description", "loop_detection", "log"]

/-- The settings in JSON. -/
def encode (s : Settings) : Json :=
  .object [("llm", s.llm.encode), ("semantic", s.search.encode), ("compression", s.compression.encode),
    ("tool_description", s.toolDocs.encode), ("loop_detection", s.loops.encode), ("log", s.log.encode)]

/-- The settings that a document writes. -/
def decode? (dialect : Dialect) (value : Json) : Option Settings := do
  let r ← record? dialect sectionNames value.shape
  return {
    llm := ← r.withDefault "llm" (LlmSettings.decode? dialect) {}
    search := ← r.withDefault "semantic" (SearchSettings.decode? dialect) {}
    compression := ← r.withDefault "compression" (CompressionSettings.decode? dialect) {}
    toolDocs := ← r.withDefault "tool_description" (ToolDocsSettings.decode? dialect) {}
    loops := ← r.withDefault "loop_detection" (LoopSettings.decode? dialect) {}
    log := ← r.withDefault "log" (LogSettings.decode? dialect) {} }

end Settings

end PromptBudget
