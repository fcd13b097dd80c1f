import PromptBudget.Chat.Input
import PromptBudget.Command.Options
import PromptBudget.Http.Completions
import PromptBudget.Http.Passages
import PromptBudget.Json.Printer
import PromptBudget.Report
import PromptBudget.Settings.Load
import PromptBudget.Settings.Text

/-!
# PromptBudget — running a command

A command sees the environment, files, standard input and the network, and ends with an exit code,
what it prints, and a message if it failed. Settings are loaded first, but only the commands that
use them fail if that fails.
-/

namespace PromptBudget.Command

/-- What a command sees. -/
structure Surroundings where
  /-- The variables of the environment. -/
  environment : Environment
  /-- What is found at a path. -/
  files : String → FileState
  /-- The bytes of standard input. -/
  input : List UInt8
  /-- How requests over HTTP are sent. -/
  transport : Http.Transport
  /-- Why a document of settings is malformed, in detail. -/
  malformedDetail : String := ""

/-- What a command ends with. -/
structure Output where
  /-- The exit code. -/
  code : Nat := 0
  /-- What is printed. -/
  printed : String := ""
  /-- Why the command failed. -/
  failure : Option String := none
  deriving DecidableEq, Repr

/-- A command that fails. -/
def Output.failed (reason : String) (printed : String := "") : Output :=
  { code := 1, printed, failure := some reason }

/-! ## Paths -/

/-- A path inside a directory. -/
def joinPath (directory name : String) : String :=
  if directory.isEmpty || directory.endsWith "/" then directory ++ name else directory ++ "/" ++ name

/-- Where the settings are if nothing else is said: in the home directory. -/
def defaultPath (environment : Environment) : String :=
  joinPath (joinPath ((Json.lookup "HOME" environment).getD "/tmp") ".promptflow") "config.toml"

/-- Where the environment says that the settings are. -/
def pathFromEnvironment (environment : Environment) : Option String :=
  Json.lookup "PROMPTFLOW_CONFIG" environment

/-- Where the settings of a command are. -/
def Request.path (request : Request) (environment : Environment) : String :=
  request.settingsPath.getD (defaultPath environment)

/-- The file that a command reads its request from. -/
def Request.input? (request : Request) : Option String :=
  match request.action with
  | .arrange options => options.input
  | .count input => input
  | _ => none

/-- Whether a command reads its request from standard input. -/
def Request.readsInput (request : Request) : Bool :=
  match request.action with
  | .arrange options => options.input.isNone
  | .count input => input.isNone
  | _ => false

/-- The paths of the files that a command looks at. -/
def Request.paths (request : Request) (environment : Environment) : List String :=
  request.path environment :: request.input?.toList

/-! ## Requests -/

/-- The text of the request, from a file or from standard input. -/
def requestText (around : Surroundings) (path : Option String) : Except String String :=
  match path with
  | some path =>
    match (around.files path).text with
    | .ok text => .ok text
    | .error _ => .error ("failed to read " ++ path)
  | none =>
    match Text.decode? around.input with
    | some text => .ok text
    | none => .error "failed to read stdin"

/-- The messages of the request. -/
def requestMessages (around : Surroundings) (path : Option String) : Except String (List Message) := do
  match readMessages (← requestText around path) with
  | .ok messages => return messages
  | .error e => throw e.message

/-- The plan for a request. One that is left as it is still has the window of the settings. -/
def planFor (settings : Settings) (options : ArrangeOptions) : Plan :=
  if options.passthrough then { Plan.passthrough with recentWindow := settings.compression.recentWindow }
  else settings.plan

/-- The identity of a request. -/
def identityFor (options : ArrangeOptions) : Identity :=
  { projectPath := options.projectPath, language := options.language.getD "" }

/-- The services of the settings. -/
def servicesFor (transport : Http.Transport) (settings : Settings) : Collaborators :=
  { generator := Http.Completions.generator transport settings.llm
    searcher := Http.Passages.searcher? transport settings.search }

/-- The bounds of a request that starts now. -/
def boundsFor (options : ArrangeOptions) : RequestContext :=
  { deadline := options.timeoutMillis.map Duration.ofMillis }

/-! ## Commands -/

/-- Arranges a request and prints it. -/
def arrangeRequest (around : Surroundings) (settings : Settings) (options : ArrangeOptions) : Output :=
  match requestMessages around options.input with
  | .error reason => .failed reason
  | .ok messages =>
    let arranged := arrangeOrPass (planFor settings options) (identityFor options)
      (servicesFor around.transport settings) (boundsFor options) 0 messages
    let document := if options.messagesOnly then Message.encodeList arranged.messages else arranged.encode
    { printed := Json.pretty 0 document ++ "\n" }

/-- Prints how many messages and tokens a request has. -/
def countRequest (around : Surroundings) (path : Option String) : Output :=
  match requestMessages around path with
  | .error reason => .failed reason
  | .ok messages =>
    { printed := "messages: " ++ toString messages.length ++ "\n" ++
        "tokens:   " ++ toString (Tokens.countMessages messages) ++ "\n" }

/-- The settings with the key hidden. -/
def hideKey (settings : Settings) : Settings :=
  { settings with llm := { settings.llm with apiKey := settings.llm.apiKey.map fun _ => "***" } }

/-- Prints the settings. -/
def showSettings (settings : Settings) : Output :=
  { printed := (hideKey settings).toml ++ "\n" }

/-- What in the settings will keep stages from working. -/
def warnings (settings : Settings) : List String :=
  (if settings.compression.enabled && settings.llm.apiKey.isNone then
      ["Compression enabled but no API key set (PROMPTFLOW_API_KEY)"]
    else [])
    ++ (if settings.search.enabled && settings.search.endpoint.isNone then
      ["Semantic search enabled but no endpoint configured; stage will be skipped"]
    else [])

/-- Prints whether the settings can be used, and what they come to. -/
def validateSettings (loaded : Except String Settings) : Output :=
  match loaded with
  | .error reason => .failed reason ("Config error: " ++ reason ++ "\n")
  | .ok settings =>
    { printed := "Config OK\n" ++ String.join ((warnings settings).map fun w => "  warning: " ++ w ++ "\n") ++ "\n" ++
        "  Summary model:   " ++ settings.llm.summaryModel ++ "\n" ++
        "  Endpoint:        " ++ settings.llm.endpoint ++ "\n" ++
        "  Token threshold: " ++ toString settings.compression.tokenThreshold ++ "\n" ++
        "  Recent window:   " ++ toString settings.compression.recentWindow ++ "\n" }

/-- Runs a command that needs settings. -/
def withSettings (loaded : Except String Settings) (f : Settings → Output) : Output :=
  match loaded with
  | .error reason => .failed reason
  | .ok settings => f settings

/-- Runs a command. -/
def Request.run (request : Request) (around : Surroundings) : Output :=
  let path := request.path around.environment
  let loaded := (Settings.load (around.files path) around.environment).mapError
    (·.message path around.malformedDetail)
  match request.action with
  | .arrange options => withSettings loaded fun settings => arrangeRequest around settings options
  | .count input => countRequest around input
  | .showSettings => withSettings loaded showSettings
  | .settingsPath => { printed := path ++ "\n" }
  | .validateSettings => validateSettings loaded
  | .initialSettings => { printed := Settings.toml {} }

/-- The version of the program. -/
def version : String := "promptflow 0.1.0"

/-- Runs the command of some words. -/
def run (words : List String) (around : Surroundings) : Output :=
  match read words (pathFromEnvironment around.environment) with
  | .ok request => request.run around
  | .error .usage => { code := 2 }
  | .error .help => {}
  | .error .version => { printed := version ++ "\n" }

end PromptBudget.Command
