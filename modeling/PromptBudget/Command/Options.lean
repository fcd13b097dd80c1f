import PromptBudget.Number.Power
import PromptBudget.Text.Find

/-!
# PromptBudget — the words of a command line

A command line names a command and sets options. Options stand after the command that they belong
to; those for every command may stand after any word of it, and then the innermost one counts. The
words are read one after another by an automaton, so the first thing that is wrong, or the first
question for help, decides.
-/

namespace PromptBudget.Command

/-! ## What can be said -/

/-- Where in a command line a word stands. -/
inductive Scope where
  | root
  | arrange
  | count
  | config
  | configShow
  | configPath
  | configValidate
  | configInit
  deriving DecidableEq, Repr

/-- An option without a value. -/
inductive Flag where
  | verbose
  | passthrough
  | messagesOnly
  deriving DecidableEq, Repr

/-- An option with a value. -/
inductive Setting where
  | config
  | input
  | projectPath
  | language
  | timeoutMs
  deriving DecidableEq, Repr

/-- The commands that may follow in a scope. -/
def Scope.commands : Scope → List (String × Scope)
  | .root => [("arrange", .arrange), ("count", .count), ("config", .config)]
  | .config => [("show", .configShow), ("path", .configPath), ("validate", .configValidate), ("init", .configInit)]
  | _ => []

/-- The long names of the options without a value in a scope. -/
def Scope.flags : Scope → List (String × Flag)
  | .arrange => [("verbose", .verbose), ("passthrough", .passthrough), ("messages-only", .messagesOnly)]
  | _ => [("verbose", .verbose)]

/-- The long names of the options with a value in a scope. -/
def Scope.settings : Scope → List (String × Setting)
  | .arrange => [("config", .config), ("input", .input), ("project-path", .projectPath), ("language", .language),
      ("timeout-ms", .timeoutMs)]
  | .count => [("config", .config), ("input", .input)]
  | _ => [("config", .config)]

/-- The option without a value that a letter stands for. -/
def Scope.shortFlag? (_ : Scope) : Char → Option Flag
  | 'v' => some .verbose
  | _ => none

/-- The option with a value that a letter stands for in a scope. -/
def Scope.shortSetting? (scope : Scope) : Char → Option Setting
  | 'c' => some .config
  | 'i' => if (scope.settings.map (·.2)).contains .input then some .input else none
  | _ => none

/-! ## What has been said -/

/-- The options that are given in one scope. -/
structure Given where
  flags : List Flag := []
  settings : List (Setting × String) := []
  deriving DecidableEq, Repr

/-- Why the words of a command line are not a command to run. -/
inductive Stop where
  /-- They are not understood. -/
  | usage
  /-- They ask for help. -/
  | help
  /-- They ask for the version. -/
  | version
  deriving DecidableEq, Repr

/-- What has been understood so far. -/
structure State where
  /-- The innermost scope. -/
  scope : Scope := .root
  /-- The options given in it. -/
  given : Given := {}
  /-- The options given in the scopes around it, the innermost first. -/
  outer : List Given := []
  /-- The option whose value must come next. -/
  pending : Option Setting := none
  /-- Whether no options may follow. -/
  closed : Bool := false
  deriving Repr

/-- The number of 64 bits that a text writes; it may start with a plus sign. -/
def wordOf? (text : String) : Option Nat :=
  let digits := match text.toList with
    | '+' :: rest => rest
    | all => all
  let n := digits.foldl (fun n c => n * 10 + (c.toNat - 48)) 0
  if digits.isEmpty || !digits.all Char.isDigit || twoPow 64 ≤ n then none else some n

/-- Whether an option takes a value: paths must not be empty, times must be numbers. -/
def Setting.admits : Setting → String → Bool
  | .config, value | .input, value => !value.isEmpty
  | .timeoutMs, value => (wordOf? value).isSome
  | .projectPath, _ | .language, _ => true

/-- Gives an option without a value, which must not have been given. -/
def State.setFlag (s : State) (flag : Flag) : Except Stop State :=
  if s.given.flags.contains flag then .error .usage
  else .ok { s with given := { s.given with flags := flag :: s.given.flags } }

/-- Gives an option a value, which must not have been given. -/
def State.set (s : State) (setting : Setting) (value : String) : Except Stop State :=
  if (s.given.settings.map (·.1)).contains setting || !setting.admits value then .error .usage
  else .ok { s with pending := none, given := { s.given with settings := (setting, value) :: s.given.settings } }

/-- Waits for the value of an option. -/
def State.await (s : State) (setting : Setting) : Except Stop State :=
  if (s.given.settings.map (·.1)).contains setting then .error .usage
  else .ok { s with pending := some setting }

/-! ## Reading words -/

/-- Reads the letters after a single dash. What follows the letter of an option with a value is the value. -/
def readLetters (s : State) : List Char → Except Stop State
  | [] => .ok s
  | c :: rest =>
    match s.scope.shortFlag? c, s.scope.shortSetting? c with
    | some flag, _ => do readLetters (← s.setFlag flag) rest
    | none, some setting =>
      match rest with
      | [] => s.await setting
      | '=' :: value => s.set setting (String.ofList value)
      | value => s.set setting (String.ofList value)
    | none, none =>
      if c == 'h' then .error .help
      else if c == 'V' && s.scope == .root then .error .version
      else .error .usage

/-- The value of the first pair with a name. -/
def named (name : String) (pairs : List (String × α)) : Option α :=
  (pairs.find? (·.1 == name)).map (·.2)

/-- Reads an option with a long name, and its value if it follows an equals sign. -/
def readLong (s : State) (name : String) (value : Option String) : Except Stop State :=
  match named name s.scope.flags, named name s.scope.settings with
  | some flag, _ => if value.isSome then .error .usage else s.setFlag flag
  | none, some setting =>
    match value with
    | some value => s.set setting value
    | none => s.await setting
  | none, none =>
    if value.isSome then .error .usage
    else if name == "help" then .error .help
    else if name == "version" && s.scope == .root then .error .version
    else .error .usage

/-- Splits the text of a long option at its first equals sign. -/
def splitValue (text : List Char) : String × Option String :=
  match Text.breakOn? ['='] text with
  | some (name, value) => (String.ofList name, some (String.ofList (value.drop 1)))
  | none => (String.ofList text, none)

/-- Reads a word that is neither a value nor a command. -/
def readOption (s : State) (word : String) : Except Stop State :=
  match word.toList with
  | ['-', '-'] => .ok { s with closed := true }
  | '-' :: '-' :: text => readLong s (splitValue text).1 (splitValue text).2
  | '-' :: c :: letters => readLetters s (c :: letters)
  | _ => .error .usage

/-- Whether a word starts an option. A lone dash does not. -/
def startsOption (word : String) : Bool :=
  match word.toList with
  | '-' :: _ :: _ => true
  | _ => false

/-- Reads a word. -/
def State.step (s : State) (word : String) : Except Stop State :=
  if s.closed then .error .usage
  else
    match s.pending with
    | some setting => if startsOption word then .error .usage else s.set setting word
    | none =>
      match named word s.scope.commands with
      | some scope => .ok { scope, outer := s.given :: s.outer }
      | none => if word == "help" && !s.scope.commands.isEmpty then .error .help else readOption s word

/-! ## Requests -/

/-- The options of the command that arranges a request. -/
structure ArrangeOptions where
  /-- The file with the request, if it is not on standard input. -/
  input : Option String := none
  /-- The project that the request is about. -/
  projectPath : String := ""
  /-- The language of the answers. -/
  language : Option String := none
  /-- How many milliseconds the request may take. -/
  timeoutMillis : Option Nat := none
  /-- Whether the request is left as it is. -/
  passthrough : Bool := false
  /-- Whether only the messages are printed. -/
  messagesOnly : Bool := false
  deriving DecidableEq, Repr

/-- A command. -/
inductive Action where
  | arrange (options : ArrangeOptions)
  | count (input : Option String)
  | showSettings
  | settingsPath
  | validateSettings
  | initialSettings
  deriving DecidableEq, Repr

/-- A command with the path of its settings, if one is given. -/
structure Request where
  /-- The command. -/
  action : Action
  /-- The path of the settings. -/
  settingsPath : Option String
  deriving DecidableEq, Repr

/-- The value of an option. -/
def Given.value? (given : Given) (setting : Setting) : Option String :=
  (given.settings.find? (·.1 == setting)).map (·.2)

/-- The options of the command that arranges a request. -/
def Given.arrangeOptions (given : Given) : ArrangeOptions :=
  { input := given.value? .input
    projectPath := (given.value? .projectPath).getD ""
    language := given.value? .language
    timeoutMillis := (given.value? .timeoutMs).bind wordOf?
    passthrough := given.flags.contains .passthrough
    messagesOnly := given.flags.contains .messagesOnly }

/-- The command of a scope. -/
def action? (scope : Scope) (given : Given) : Option Action :=
  match scope with
  | .arrange => some (.arrange given.arrangeOptions)
  | .count => some (.count (given.value? .input))
  | .configShow => some .showSettings
  | .configPath => some .settingsPath
  | .configValidate => some .validateSettings
  | .configInit => some .initialSettings
  | .root | .config => none

/-- The command of a command line that has been read, where the environment may give a path for the
settings. A path that is empty is refused unless it is given in every scope. -/
def State.finish (s : State) (fallback : Option String) : Except Stop Request :=
  let scopes := s.given :: s.outer
  let paths := scopes.map (·.value? .config)
  match action? s.scope s.given with
  | none => .error .usage
  | some action =>
    if s.pending.isSome || (fallback == some "" && paths.contains none) then .error .usage
    else .ok { action, settingsPath := (paths.findSome? id).or fallback }

/-- The command of some words. -/
def read (words : List String) (fallback : Option String) : Except Stop Request := do
  (← words.foldlM State.step {}).finish fallback

end PromptBudget.Command
