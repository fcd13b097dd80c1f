import PromptBudget.Settings.Codec
import PromptBudget.Text.Quoted
import PromptBudget.Toml.Printer

/-!
# PromptBudget — settings as text

Settings are written as a TOML document for files, and on one line for logs. The line does not show
the API key, only whether there is one.
-/

namespace PromptBudget

open Toml

/-! ## TOML -/

/-- A string field, if a text is given. -/
def tomlText? (name : String) (text : Option String) : Fields :=
  (text.map fun s => (name, Toml.string s)).toList

/-- The fields of the section. -/
def LlmSettings.fields (s : LlmSettings) : Fields :=
  [("endpoint", .string s.endpoint)] ++ tomlText? "api_key" s.apiKey
    ++ [("summary_model", .string s.summaryModel), ("timeout_secs", .integer s.timeoutSecs)]

/-- The fields of the section. The threshold is written as the number of 64 bits that it is. -/
def SearchSettings.fields (s : SearchSettings) : Fields :=
  [("enabled", .boolean s.enabled)] ++ tomlText? "endpoint" s.endpoint
    ++ [("top_k", .integer s.topK), ("score_threshold", .float (Floating.convert Floating.double s.scoreThreshold)),
      ("inject_target", .string s.target.name), ("timeout_ms", .integer s.timeoutMillis)]

/-- The fields of the section. -/
def CompressionSettings.fields (s : CompressionSettings) : Fields :=
  [("compress_user_prompt", .boolean s.enabled), ("recent_user_msg_window", .integer s.recentWindow),
    ("summary_token_threshold", .integer s.tokenThreshold)]

/-- The fields of the section. -/
def ToolDocsSettings.fields (s : ToolDocsSettings) : Fields :=
  [("enabled", .boolean s.enabled), ("start", .string s.start), ("end", .string s.stop),
    ("parse_failure_marker", .string s.failureMarker), ("failure_section", .string s.failureHeading)]

/-- The fields of the section. -/
def LoopSettings.fields (s : LoopSettings) : Fields := [("enabled", .boolean s.enabled)]

/-- The fields of the section. -/
def LogSettings.fields (s : LogSettings) : Fields := [("level", .string s.level), ("json", .boolean s.json)]

/-- The settings as a TOML document. -/
def Settings.toml (s : Settings) : String :=
  sectionsText [("llm", s.llm.fields), ("semantic", s.search.fields), ("compression", s.compression.fields),
    ("tool_description", s.toolDocs.fields), ("loop_detection", s.loops.fields), ("log", s.log.fields)]

/-! ## One line -/

/-- The text of a truth value. -/
def boolText (b : Bool) : String := if b then "true" else "false"

/-- The text of an optional text. -/
def optionText : Option String → String
  | some s => "Some(" ++ Text.quoted s ++ ")"
  | none => "None"

/-- Whether there is a secret, and nothing else about it. -/
def redacted (secret : Option String) : String :=
  if secret.isSome then "[REDACTED]" else "None"

/-- Numbers are positional from `1e-4` up to `1e16`. -/
def logStyle : Decimal.Style := ⟨some (-3), some 16⟩

/-- The text of a number of the format with 32 bits. -/
def singleText : Floating → String
  | .infinite negative => if negative then "-inf" else "inf"
  | .undefined => "NaN"
  | x => (Floating.write? Floating.single logStyle x).getD ""

/-- The section on one line. -/
def LlmSettings.line (s : LlmSettings) : String :=
  Text.labelled "LlmConfig" [("endpoint", Text.quoted s.endpoint), ("api_key", Text.quoted (redacted s.apiKey)),
    ("summary_model", Text.quoted s.summaryModel), ("timeout_secs", toString s.timeoutSecs)]

/-- The target in a line. -/
def InjectionTarget.label : InjectionTarget → String
  | .lastUser => "LastUser"
  | .system => "System"

/-- The section on one line. -/
def SearchSettings.line (s : SearchSettings) : String :=
  Text.labelled "SemanticConfig" [("enabled", boolText s.enabled), ("endpoint", optionText s.endpoint),
    ("top_k", toString s.topK), ("score_threshold", singleText s.scoreThreshold), ("inject_target", s.target.label),
    ("timeout_ms", toString s.timeoutMillis)]

/-- The section on one line. -/
def CompressionSettings.line (s : CompressionSettings) : String :=
  Text.labelled "CompressionConfig" [("compress_user_prompt", boolText s.enabled),
    ("recent_user_msg_window", toString s.recentWindow), ("summary_token_threshold", toString s.tokenThreshold)]

/-- The section on one line. -/
def ToolDocsSettings.line (s : ToolDocsSettings) : String :=
  Text.labelled "ToolDescriptionConfig" [("enabled", boolText s.enabled), ("start", Text.quoted s.start),
    ("end", Text.quoted s.stop), ("parse_failure_marker", Text.quoted s.failureMarker),
    ("failure_section", Text.quoted s.failureHeading)]

/-- The section on one line. -/
def LoopSettings.line (s : LoopSettings) : String :=
  Text.labelled "LoopDetectionConfig" [("enabled", boolText s.enabled)]

/-- The section on one line. -/
def LogSettings.line (s : LogSettings) : String :=
  Text.labelled "LogConfig" [("level", Text.quoted s.level), ("json", boolText s.json)]

/-- The settings on one line. -/
def Settings.line (s : Settings) : String :=
  Text.labelled "AppConfig" [("llm", s.llm.line), ("semantic", s.search.line), ("compression", s.compression.line),
    ("tool_description", s.toolDocs.line), ("loop_detection", s.loops.line), ("log", s.log.line)]

end PromptBudget
