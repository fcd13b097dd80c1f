import PromptBudget.Number.Floating
import PromptBudget.Time.Duration

/-!
# PromptBudget — settings

The settings come in six sections, one for each concern, and every field has a default. Defaults
with a name are those of a field that a file leaves out as well. `validate` says which settings can
be used. What a request needs of them is its `Plan`.

Main statement:

* `fault?_default` — the defaults can be used.
-/

namespace PromptBudget

/-! ## Defaults that a file and the settings share -/

/-- Where the service that writes summaries is reached. -/
def LlmSettings.defaultEndpoint : String := "http://localhost:8000/v1"

/-- The model that writes summaries. -/
def LlmSettings.defaultSummaryModel : String := "deepseek-v3"

/-- How many seconds a summary may take. -/
def LlmSettings.defaultTimeoutSecs : Nat := 60

/-- How many passages are used at most. -/
def SearchSettings.defaultTopK : Nat := 5

/-- Seven tenths, in the format with 32 bits. -/
def SearchSettings.defaultThreshold : Floating := .finite false 11744051 (-24)

/-- How many milliseconds a search may take. -/
def SearchSettings.defaultTimeoutMillis : Nat := 5000

/-- How many user messages the recent part of a conversation has. -/
def CompressionSettings.defaultRecentWindow : Nat := 1

/-- Up to how many tokens nothing is replaced. -/
def CompressionSettings.defaultTokenThreshold : Nat := 5000

/-- The text that tool documentation starts with. -/
def ToolDocsSettings.defaultStart : String := "====\n\nTOOL USE"

/-- The text that follows tool documentation. -/
def ToolDocsSettings.defaultStop : String := "\n\n====\n\nCAPABILITIES"

/-- The text that tells of a tool call that was not understood. -/
def ToolDocsSettings.defaultFailureMarker : String := "Failed to parse apply_diff XML"

/-- The heading of the section about the tool of that call. -/
def ToolDocsSettings.defaultFailureHeading : String := "## apply_diff"

/-- The least level that is logged. -/
def LogSettings.defaultLevel : String := "info"

/-! ## Sections -/

/-- The service that writes summaries. -/
structure LlmSettings where
  /-- Where it is reached. -/
  endpoint : String := LlmSettings.defaultEndpoint
  /-- The key that it asks for. -/
  apiKey : Option String := none
  /-- The model that writes the summary. -/
  summaryModel : String := LlmSettings.defaultSummaryModel
  /-- How many seconds a summary may take. -/
  timeoutSecs : Nat := LlmSettings.defaultTimeoutSecs
  deriving DecidableEq, Repr, Inhabited

/-- Where passages are put. -/
inductive InjectionTarget where
  | lastUser
  | system
  deriving DecidableEq, Repr

instance : Inhabited InjectionTarget := ⟨.lastUser⟩

/-- The search for passages. -/
structure SearchSettings where
  /-- Whether passages are searched. -/
  enabled : Bool := true
  /-- Where the service is reached. -/
  endpoint : Option String := none
  /-- How many passages are used at most. -/
  topK : Nat := SearchSettings.defaultTopK
  /-- The least score of a passage that is used. -/
  scoreThreshold : Floating := SearchSettings.defaultThreshold
  /-- Where passages are put. -/
  target : InjectionTarget := default
  /-- How many milliseconds a search may take. -/
  timeoutMillis : Nat := SearchSettings.defaultTimeoutMillis
  deriving DecidableEq, Repr, Inhabited

/-- The replacement of old messages by a summary. -/
structure CompressionSettings where
  /-- Whether old messages are replaced. -/
  enabled : Bool := true
  /-- How many user messages the recent part of a conversation has. -/
  recentWindow : Nat := CompressionSettings.defaultRecentWindow
  /-- Up to how many tokens nothing is replaced. -/
  tokenThreshold : Nat := CompressionSettings.defaultTokenThreshold
  deriving DecidableEq, Repr, Inhabited

/-- The documentation of tools inside the system message. -/
structure ToolDocsSettings where
  /-- Whether it is moved to the last user message. -/
  enabled : Bool := true
  /-- The text that it starts with. -/
  start : String := ToolDocsSettings.defaultStart
  /-- The text that follows it. -/
  stop : String := ToolDocsSettings.defaultStop
  /-- The text that tells of a tool call that was not understood. -/
  failureMarker : String := ToolDocsSettings.defaultFailureMarker
  /-- The heading of the section about that tool. -/
  failureHeading : String := ToolDocsSettings.defaultFailureHeading
  deriving DecidableEq, Repr, Inhabited

/-- The detection of repeated answers. -/
structure LoopSettings where
  /-- Whether they are detected. -/
  enabled : Bool := true
  deriving DecidableEq, Repr, Inhabited

/-- The log. -/
structure LogSettings where
  /-- The least level that is logged. -/
  level : String := LogSettings.defaultLevel
  /-- Whether it is written in JSON. -/
  json : Bool := false
  deriving DecidableEq, Repr, Inhabited

/-- All settings. -/
structure Settings where
  llm : LlmSettings := {}
  search : SearchSettings := {}
  compression : CompressionSettings := {}
  toolDocs : ToolDocsSettings := {}
  loops : LoopSettings := {}
  log : LogSettings := {}
  deriving DecidableEq, Repr, Inhabited

/-- Which settings cannot be used. -/
inductive Settings.Fault where
  | emptyWindow
  | noPassages
  | thresholdOutOfRange
  | emptyDelimiter
  deriving DecidableEq, Repr

/-- What is wrong with the settings. -/
def Settings.Fault.message : Settings.Fault → String
  | .emptyWindow => "recent_user_msg_window must be at least 1"
  | .noPassages => "semantic.top_k must be at least 1"
  | .thresholdOutOfRange => "semantic.score_threshold must be between 0.0 and 1.0"
  | .emptyDelimiter => "tool_description delimiters must not be empty"

namespace Settings

/-- The first fault of the settings, if they have one. -/
def fault? (s : Settings) : Option Fault :=
  if s.compression.recentWindow = 0 then some .emptyWindow
  else if s.search.topK = 0 then some .noPassages
  else if !(Floating.zero.le s.search.scoreThreshold && s.search.scoreThreshold.le .one) then
    some .thresholdOutOfRange
  else if s.toolDocs.start.isEmpty || s.toolDocs.stop.isEmpty then some .emptyDelimiter
  else none

/-- The settings, if they can be used. -/
def validate (s : Settings) : Except Fault Settings :=
  match s.fault? with
  | some fault => .error fault
  | none => .ok s

end Settings

/-- What a request needs of the settings. -/
structure Plan where
  /-- Whether old messages are replaced. -/
  compress : Bool
  /-- How many user messages the recent part of a conversation has. -/
  recentWindow : Nat
  /-- Up to how many tokens nothing is replaced. -/
  tokenThreshold : Nat
  /-- Whether passages are searched. -/
  search : Bool
  /-- How many passages are used at most. -/
  topK : Nat
  /-- The least score of a passage that is used. -/
  scoreThreshold : Floating
  /-- Where passages are put. -/
  target : InjectionTarget
  /-- How long a search may take. -/
  searchTimeout : Duration
  /-- How long a summary may take. -/
  summaryTimeout : Duration
  /-- Whether tool documentation is moved. -/
  moveToolDocs : Bool
  /-- The settings about tool documentation. -/
  toolDocs : ToolDocsSettings
  /-- Whether repeated answers are detected. -/
  detectLoops : Bool
  deriving DecidableEq, Repr, Inhabited

/-- The plan of some settings. -/
def Settings.plan (s : Settings) : Plan :=
  { compress := s.compression.enabled
    recentWindow := s.compression.recentWindow
    tokenThreshold := s.compression.tokenThreshold
    search := s.search.enabled
    topK := s.search.topK
    scoreThreshold := s.search.scoreThreshold
    target := s.search.target
    searchTimeout := .ofMillis s.search.timeoutMillis
    summaryTimeout := .ofSecs s.llm.timeoutSecs
    moveToolDocs := s.toolDocs.enabled
    toolDocs := s.toolDocs
    detectLoops := s.loops.enabled }

/-- The plan that leaves requests as they are. -/
def Plan.passthrough : Plan :=
  { Settings.plan {} with compress := false, search := false, moveToolDocs := false, detectLoops := false }

theorem Settings.fault?_default : ({} : Settings).fault? = none := by
  decide +kernel

end PromptBudget
