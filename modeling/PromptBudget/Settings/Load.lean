import PromptBudget.Settings.Codec
import PromptBudget.Text.Utf8
import PromptBudget.Toml.Reader

/-!
# PromptBudget — loading settings

Settings are read from a TOML file; without a file they are the defaults. Variables of the
environment then take the place of some of them, except for an API key that the file gives. Settings
that cannot be used are refused.
-/

namespace PromptBudget

open Json

/-- What is found at a path. -/
inductive FileState where
  | missing
  | directory
  | file (bytes : List UInt8)
  deriving Repr, Inhabited

/-- Why a file gives no text. -/
inductive FileState.Failure where
  | missing
  | directory
  | notText
  deriving DecidableEq, Repr

/-- The reason in words. -/
def FileState.Failure.message : FileState.Failure → String
  | .missing => "No such file or directory (os error 2)"
  | .directory => "Is a directory (os error 21)"
  | .notText => "stream did not contain valid UTF-8"

/-- The text of a file. -/
def FileState.text : FileState → Except FileState.Failure String
  | .missing => .error .missing
  | .directory => .error .directory
  | .file bytes =>
    match Text.decode? bytes with
    | some text => .ok text
    | none => .error .notText

/-- The variables of the environment, with the value of each that is set. -/
abbrev Environment := List (String × String)

namespace Settings

/-- Why there are no settings. -/
inductive LoadError where
  /-- The file cannot be read. -/
  | unreadable (failure : FileState.Failure)
  /-- The file is no document of settings. -/
  | malformed
  /-- The settings cannot be used. -/
  | unusable (fault : Fault)
  deriving DecidableEq, Repr

/-- TOML admits elements past the last field of a record, and an empty table or array as the payload
of a variant without one. -/
def tomlDialect : Dialect :=
  { surplus := true, isUnit := fun value => value == .object [] || value == .array [] }

/-- The settings of a TOML document. -/
def ofToml? (text : String) : Option Settings :=
  (Toml.document? text).bind fun fields => decode? tomlDialect (.object (Toml.treeFields fields))

/-- Refuses settings that cannot be used. -/
def usable (s : Settings) : Except LoadError Settings :=
  match s.fault? with
  | some fault => .error (.unusable fault)
  | none => .ok s

/-- The settings of a file. -/
def ofFile (file : FileState) : Except LoadError Settings :=
  match file with
  | .missing => .ok {}
  | found =>
    match found.text with
    | .error failure => .error (.unreadable failure)
    | .ok text =>
      match ofToml? text with
      | none => .error .malformed
      | some s => s.usable

/-- The settings with the variables of the environment in the place of some of them. -/
def withEnvironment (environment : Environment) (s : Settings) : Settings :=
  let get (name : String) : Option String := lookup name environment
  { s with
    llm := { s.llm with
      endpoint := (get "PROMPTFLOW_LLM_ENDPOINT").getD s.llm.endpoint
      apiKey := s.llm.apiKey <|> get "PROMPTFLOW_API_KEY" <|> get "OPENAI_API_KEY"
      summaryModel := (get "PROMPTFLOW_SUMMARY_MODEL").getD s.llm.summaryModel }
    search := { s.search with endpoint := get "PROMPTFLOW_SEMANTIC_ENDPOINT" <|> s.search.endpoint } }

/-- The settings of a file and the environment. -/
def load (file : FileState) (environment : Environment) : Except LoadError Settings :=
  match ofFile file with
  | .error e => .error e
  | .ok s => (s.withEnvironment environment).usable

/-- What is wrong, for the file at a path. Why a document is malformed is a matter of detail. -/
def LoadError.message (path detail : String) : LoadError → String
  | .unreadable failure => "Failed to read config file at " ++ path ++ ": " ++ failure.message
  | .malformed => "Failed to parse config file at " ++ path ++ ": " ++ detail
  | .unusable fault => "Configuration validation failed: " ++ fault.message

end Settings

end PromptBudget
