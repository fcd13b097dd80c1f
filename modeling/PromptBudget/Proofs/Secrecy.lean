import PromptBudget.Command.Run
import PromptBudget.Proofs.Overrides
import PromptBudget.Proofs.PartialRecords

/-!
# PromptBudget — the API key stays secret

The API key comes from the file of the settings or from one of two variables. What the commands
about settings print does not depend on it, only on whether and where it is given.

The proof hides the key as early as it can. Hiding it in the document and then reading the settings
is the same as reading them and then hiding it (`Settings.decode?_hideInDocument`), so the settings
without their key can be computed from a file in which it is hidden. The environment adds a key only
if there is none, and whether there is one can still be seen. What is printed is computed from the
settings without their key.

Main results:

* `Settings.decode?_hideInDocument` — reading goes on where the key is hidden.
* `Settings.hideKey_load` — what is loaded, but for the key, is determined by what is not secret.
* `Command.run_hidesKey` — two runs that differ in the key alone print the same.
-/

namespace PromptBudget

open Json

-- ---------------------------------------------------------------------------
-- Records with edited fields
-- ---------------------------------------------------------------------------

namespace Json

variable {names : List String} {f : String → Json → Json} {α : Type}

/-- The record with the value of each field changed. -/
def Record.edit (f : String → Json → Json) (r : Record Json) : Record Json :=
  { r with fields := r.fields.map fun field => (field.1, f field.1 field.2) }

theorem Record.withDefault_edit (r : Record Json) (name : String) (decode : Json → Option α)
    (default : α) :
    (r.edit f).withDefault name decode default = r.withDefault name (fun v => decode (f name v))
      default := by
  rw [withDefault, withDefault, get?, get?, edit, lookup_map_key]
  cases lookup name r.fields <;> rfl

/-- A field whose value reads as before. -/
theorem Record.withDefault_edit_of_eq {name : String} {decode : Json → Option α}
    (h : ∀ v, decode (f name v) = decode v) (r : Record Json) (default : α) :
    (r.edit f).withDefault name decode default = r.withDefault name decode default := by
  rw [withDefault_edit]
  simp only [h]

/-- A field whose value reads as another one, and so does the default. -/
theorem Record.withDefault_edit_of_map {name : String} {decode : Json → Option α} {g : α → α}
    (h : ∀ v, decode (f name v) = (decode v).map g) (r : Record Json) {default : α}
    (hdefault : g default = default) :
    (r.edit f).withDefault name decode default = (r.withDefault name decode default).map g := by
  rw [withDefault_edit, withDefault, withDefault]
  simp only [h]
  cases r.get? name with
  | none => rw [Option.map_some, hdefault]
  | some value => rfl

theorem record?_map_edit (dialect : Dialect) (names : List String) (f : String → Json → Json)
    (fields : List (String × Json)) :
    record? dialect names (.map (fields.map fun field => (field.1, f field.1 field.2))) =
      (record? dialect names (.map fields)).map (Record.edit f) := by
  have hcount (name : String) :
      occurrences name (fields.map fun field => (field.1, f field.1 field.2)) =
        occurrences name fields := by
    rw [occurrences, occurrences, List.countP_map]
    rfl
  rw [record?, record?]
  simp only [hcount]
  split
  · rw [Option.map_some, Record.edit, List.filter_map]
    rfl
  · rfl

theorem record?_list_edit (dialect : Dialect) {names : List String} {f : String → Json → Json}
    {items edited : List Json} (hlength : edited.length = items.length)
    (hzip : names.zip edited = (names.zip items).map fun field => (field.1, f field.1 field.2)) :
    record? dialect names (.list edited) =
      (record? dialect names (.list items)).map (Record.edit f) := by
  rw [record?, record?, hlength]
  split
  · rw [Option.map_some, Record.edit, hzip]
  · rfl

/-- What is read from a record goes on where its fields are changed, if it does for every record. -/
theorem bind_record?_edit {dialect : Dialect} {given edited : Shape Json}
    {read : Record Json → Option α} {g : α → α}
    (hrecord : record? dialect names edited = (record? dialect names given).map (Record.edit f))
    (hread : ∀ r, read (r.edit f) = (read r).map g) :
    (record? dialect names edited).bind read = ((record? dialect names given).bind read).map g := by
  rw [hrecord, Option.bind_map, Option.map_bind]
  exact congrArg _ (funext hread)

end Json

-- ---------------------------------------------------------------------------
-- A key in a document
-- ---------------------------------------------------------------------------

/-- Fields where the values under a key are changed. -/
def editUnder (key : String) (f : Json → Json) (fields : List (String × Json)) :
    List (String × Json) :=
  fields.map fun field => (field.1, if field.1 = key then f field.2 else field.2)

/-- What is shown for a key. What is no text is no key. -/
def hideText : Json → Json
  | .string _ => .string "***"
  | value => value

/-- A table with the key in it hidden. -/
def hideInTable : Json → Json
  | .object fields => .object (editUnder "api_key" hideText fields)
  | value => value

/-- Values with the second one hidden, which is where the key stands if a section is an array. -/
def hideSecond : List Json → List Json
  | endpoint :: key :: rest => endpoint :: hideText key :: rest
  | items => items

/-- A section with the key in it hidden, be it a table or an array. -/
def hideInSection : Json → Json
  | .array items => .array (hideSecond (items.map hideInTable))
  | value => hideInTable value

/-- A document with the key in it hidden. -/
def hideInDocument (fields : List (String × Json)) : List (String × Json) :=
  editUnder "llm" hideInSection fields

/-- The section without its key: only whether there is one. -/
def LlmSettings.hidden (s : LlmSettings) : LlmSettings :=
  { s with apiKey := s.apiKey.map fun _ => "***" }

theorem asString?_hideInTable (value : Json) : asString? (hideInTable value) = asString? value := by
  cases value <;> rfl

theorem asWord?_hideInTable (value : Json) : asWord? (hideInTable value) = asWord? value := by
  cases value <;> rfl

/-- What is read for a key that is hidden. -/
theorem nullable_hideText (value : Json) : nullable asString? (hideText value) =
    (nullable asString? value).map (Option.map fun _ => "***") := by
  cases value <;> rfl

theorem nullable_hideInTable (value : Json) :
    nullable asString? (hideInTable value) = nullable asString? value := by
  cases value <;> rfl

namespace LlmSettings

/-- The known fields of the section. -/
def fieldNames : List String := ["endpoint", "api_key", "summary_model", "timeout_secs"]

/-- The section that a record writes. -/
def ofRecord? (r : Record Json) : Option LlmSettings := do
  let defaults : LlmSettings := {}
  return {
    endpoint := ← r.withDefault "endpoint" asString? defaults.endpoint
    apiKey := ← r.withDefault "api_key" (nullable asString?) none
    summaryModel := ← r.withDefault "summary_model" asString? defaults.summaryModel
    timeoutSecs := ← r.withDefault "timeout_secs" asWord? defaults.timeoutSecs }

theorem decode?_eq (dialect : Dialect) (value : Json) :
    decode? dialect value = (record? dialect fieldNames value.shape).bind ofRecord? := rfl

/-- A record whose fields read as before, but for the key, which is hidden. -/
theorem ofRecord?_edit {f : String → Json → Json}
    (hendpoint : ∀ v, asString? (f "endpoint" v) = asString? v)
    (hkey : ∀ v, nullable asString? (f "api_key" v) =
      (nullable asString? v).map (Option.map fun _ => "***"))
    (hmodel : ∀ v, asString? (f "summary_model" v) = asString? v)
    (htimeout : ∀ v, asWord? (f "timeout_secs" v) = asWord? v) (r : Record Json) :
    ofRecord? (r.edit f) = (ofRecord? r).map hidden := by
  rw [ofRecord?, ofRecord?, Record.withDefault_edit_of_eq hendpoint,
    Record.withDefault_edit_of_map hkey r rfl, Record.withDefault_edit_of_eq hmodel,
    Record.withDefault_edit_of_eq htimeout]
  cases r.withDefault "endpoint" asString? _ with
  | none => rfl
  | some endpoint =>
    cases r.withDefault "api_key" (nullable asString?) none with
    | none => rfl
    | some key =>
      cases r.withDefault "summary_model" asString? _ with
      | none => rfl
      | some model => cases r.withDefault "timeout_secs" asWord? _ <;> rfl

theorem zip_hideSecond (items : List Json) :
    fieldNames.zip (hideSecond (items.map hideInTable)) =
      (fieldNames.zip items).map fun field => (field.1,
        if field.1 = "api_key" then hideText (hideInTable field.2) else hideInTable field.2) := by
  match items with
  | [] => rfl
  | [_] => rfl
  | [_, _] => rfl
  | [_, _, _] => rfl
  | _ :: _ :: _ :: _ :: _ => rfl

/-- Reading a section goes on where the key in it is hidden. -/
theorem decode?_hideInSection (dialect : Dialect) (value : Json) :
    decode? dialect (hideInSection value) = (decode? dialect value).map hidden := by
  rw [decode?_eq, decode?_eq]
  cases value with
  | object fields =>
    refine bind_record?_edit (record?_map_edit dialect fieldNames
      (fun name v => if name = "api_key" then hideText v else v) fields)
      (ofRecord?_edit ?_ ?_ ?_ ?_)
    · exact fun v => rfl
    · exact nullable_hideText
    · exact fun v => rfl
    · exact fun v => rfl
  | array items =>
    have hlength : (hideSecond (items.map hideInTable)).length = items.length := by
      match items with
      | [] => rfl
      | [_] => rfl
      | _ :: _ :: rest => simp [hideSecond]
    refine bind_record?_edit (record?_list_edit dialect (f := fun name v =>
      if name = "api_key" then hideText (hideInTable v) else hideInTable v) hlength
      (zip_hideSecond items)) (ofRecord?_edit ?_ ?_ ?_ ?_)
    · exact asString?_hideInTable
    · exact fun v => (nullable_hideText _).trans (by rw [nullable_hideInTable])
    · exact asString?_hideInTable
    · exact asWord?_hideInTable
  | _ => rfl

end LlmSettings

namespace Settings

/-- The settings that a record writes. -/
def ofRecord? (dialect : Dialect) (r : Record Json) : Option Settings := do
  return {
    llm := ← r.withDefault "llm" (LlmSettings.decode? dialect) {}
    search := ← r.withDefault "semantic" (SearchSettings.decode? dialect) {}
    compression := ← r.withDefault "compression" (CompressionSettings.decode? dialect) {}
    toolDocs := ← r.withDefault "tool_description" (ToolDocsSettings.decode? dialect) {}
    loops := ← r.withDefault "loop_detection" (LoopSettings.decode? dialect) {}
    log := ← r.withDefault "log" (LogSettings.decode? dialect) {} }

theorem ofRecord?_edit (dialect : Dialect) (r : Record Json) :
    ofRecord? dialect (r.edit fun name v => if name = "llm" then hideInSection v else v) =
      (ofRecord? dialect r).map Command.hideKey := by
  -- of every other section the value is as before
  have hother {α : Type} {name : String} (h : name ≠ "llm") (decode : Json → Option α) (v : Json) :
      decode (if name = "llm" then hideInSection v else v) = decode v := by
    rw [if_neg h]
  rw [ofRecord?, ofRecord?,
    Record.withDefault_edit_of_map (fun v => LlmSettings.decode?_hideInSection dialect v) r rfl,
    Record.withDefault_edit_of_eq (hother (by decide) _),
    Record.withDefault_edit_of_eq (hother (by decide) _),
    Record.withDefault_edit_of_eq (hother (by decide) _),
    Record.withDefault_edit_of_eq (hother (by decide) _),
    Record.withDefault_edit_of_eq (hother (by decide) _)]
  cases r.withDefault "llm" (LlmSettings.decode? dialect) {} with
  | none => rfl
  | some llm =>
    simp only [Option.map_some, Option.bind_eq_bind, Option.bind_some, Option.map_bind,
      Function.comp_def]
    rfl

/-- Reading a document goes on where the key in it is hidden. -/
theorem decode?_hideInDocument (dialect : Dialect) (fields : List (String × Json)) :
    decode? dialect (.object (hideInDocument fields)) =
      (decode? dialect (.object fields)).map Command.hideKey := by
  show (record? dialect sectionNames (.map (hideInDocument fields))).bind (ofRecord? dialect) =
    ((record? dialect sectionNames (.map fields)).bind (ofRecord? dialect)).map Command.hideKey
  exact bind_record?_edit (record?_map_edit dialect sectionNames
    (fun name v => if name = "llm" then hideInSection v else v) fields) (ofRecord?_edit dialect)

end Settings

-- ---------------------------------------------------------------------------
-- Files and the environment
-- ---------------------------------------------------------------------------

/-- What a file gives with the key in it hidden: the reason why it has no text, or the document that
its text is, if it is one. -/
def FileState.withoutKey (file : FileState) :
    Except FileState.Failure (Option (List (String × Json))) :=
  file.text.map fun text =>
    (Toml.document? text).map fun fields => hideInDocument (Toml.treeFields fields)

/-- Two environments differ at most in the keys that they give. -/
structure AlikeVariables (a b : Environment) : Prop where
  others : ∀ name, name ≠ "PROMPTFLOW_API_KEY" → name ≠ "OPENAI_API_KEY" →
    lookup name a = lookup name b
  key : (lookup "PROMPTFLOW_API_KEY" a).isSome = (lookup "PROMPTFLOW_API_KEY" b).isSome
  fallback : (lookup "OPENAI_API_KEY" a).isSome = (lookup "OPENAI_API_KEY" b).isSome

namespace Settings

open Command (hideKey)

theorem hideKey_ofToml? (text : String) : (ofToml? text).map hideKey =
    ((Toml.document? text).map fun fields => hideInDocument (Toml.treeFields fields)).bind
      fun fields => decode? tomlDialect (.object fields) := by
  rw [ofToml?, Option.map_bind, Option.bind_map]
  refine congrArg _ (funext fun fields => ?_)
  exact (decode?_hideInDocument tomlDialect _).symm

theorem hideKey_usable (s : Settings) : s.usable.map hideKey = (hideKey s).usable := by
  have hfault : (hideKey s).fault? = s.fault? := rfl
  rw [usable, usable, hfault]
  cases s.fault? <;> rfl

/-- The settings of what a file gives. -/
def ofContent : Except FileState.Failure (Option (List (String × Json))) → Except LoadError Settings
  | .error .missing => .ok {}
  | .error failure => .error (.unreadable failure)
  | .ok document =>
    match document.bind fun fields => decode? tomlDialect (.object fields) with
    | none => .error .malformed
    | some s => s.usable

/-- The settings of a file, but for the key, are those of the file with the key hidden. -/
theorem hideKey_ofFile (file : FileState) :
    (ofFile file).map hideKey = ofContent file.withoutKey := by
  cases file with
  | missing => rfl
  | directory => rfl
  | file bytes =>
    simp only [ofFile, FileState.withoutKey]
    cases htext : (FileState.file bytes).text with
    | error failure =>
      -- a file that is there is not missing
      cases failure with
      | missing =>
        rw [FileState.text] at htext
        split at htext <;> cases htext
      | directory => rfl
      | notText => rfl
    | ok text =>
      have hread := hideKey_ofToml? text
      simp only [Except.map, ofContent, ← hread]
      cases ofToml? text with
      | none => rfl
      | some s => exact hideKey_usable s

variable {a b : Environment}

/-- A key that is hidden shows whether there is one, and nothing else. -/
theorem hidden_eq_iff {key other : Option String} :
    (key.map fun _ => "***") = (other.map fun _ => "***") ↔ key.isSome = other.isSome := by
  cases key <;> cases other <;> simp

/-- The environment gives a key only if there is none, so it is enough to know where keys are. -/
theorem hideKey_withEnvironment (h : AlikeVariables a b) {s t : Settings}
    (hs : hideKey s = hideKey t) :
    hideKey (s.withEnvironment a) = hideKey (t.withEnvironment b) := by
  obtain ⟨⟨endpoint, key, model, seconds⟩, search, compression, toolDocs, loops, log⟩ := s
  obtain ⟨⟨endpoint', key', model', seconds'⟩, search', compression', toolDocs', loops', log'⟩ := t
  simp only [hideKey, Settings.mk.injEq, LlmSettings.mk.injEq] at hs
  obtain ⟨⟨rfl, hkey, rfl, rfl⟩, rfl, rfl, rfl, rfl, rfl⟩ := hs
  have hkeys : (((key <|> lookup "PROMPTFLOW_API_KEY" a <|> lookup "OPENAI_API_KEY" a).map
        fun _ => "***") : Option String) =
      (key' <|> lookup "PROMPTFLOW_API_KEY" b <|> lookup "OPENAI_API_KEY" b).map
        fun _ => "***" := by
    rw [hidden_eq_iff] at hkey ⊢
    simp only [Option.orElse_eq_orElse, Option.orElse_eq_or, Option.isSome_or, hkey, h.key,
      h.fallback]
  have hothers (name : String) (hname : name ≠ "PROMPTFLOW_API_KEY" ∧ name ≠ "OPENAI_API_KEY") :
      lookup name a = lookup name b := h.others name hname.1 hname.2
  simp only [hideKey, withEnvironment, hkeys]
  rw [hothers "PROMPTFLOW_LLM_ENDPOINT" (by decide), hothers "PROMPTFLOW_SUMMARY_MODEL" (by decide),
    hothers "PROMPTFLOW_SEMANTIC_ENDPOINT" (by decide)]

/-- What is loaded, but for the key, is determined by what is not secret. -/
theorem hideKey_load (h : AlikeVariables a b) {file other : FileState}
    (hfile : file.withoutKey = other.withoutKey) :
    (load file a).map hideKey = (load other b).map hideKey := by
  have hsettings : (ofFile file).map hideKey = (ofFile other).map hideKey := by
    rw [hideKey_ofFile, hideKey_ofFile, hfile]
  rw [load_eq_map, load_eq_map]
  cases hs : ofFile file with
  | error e =>
    cases ht : ofFile other with
    | error e' =>
      rw [hs, ht] at hsettings
      exact hsettings
    | ok t =>
      rw [hs, ht] at hsettings
      cases hsettings
  | ok s =>
    cases ht : ofFile other with
    | error e' =>
      rw [hs, ht] at hsettings
      cases hsettings
    | ok t =>
      rw [hs, ht] at hsettings
      exact congrArg Except.ok (hideKey_withEnvironment h (Except.ok.inj hsettings))

end Settings

-- ---------------------------------------------------------------------------
-- What is printed
-- ---------------------------------------------------------------------------

theorem Settings.line_hideKey (s : Settings) : (Command.hideKey s).line = s.line := by
  obtain ⟨⟨endpoint, key, model, seconds⟩, search, compression, toolDocs, loops, log⟩ := s
  cases key <;> rfl

namespace Command

theorem hideKey_hideKey (s : Settings) : hideKey (hideKey s) = hideKey s := by
  obtain ⟨⟨endpoint, key, model, seconds⟩, search, compression, toolDocs, loops, log⟩ := s
  cases key <;> rfl

theorem showSettings_hideKey (s : Settings) : showSettings (hideKey s) = showSettings s := by
  rw [showSettings, showSettings, hideKey_hideKey]

theorem validateSettings_hideKey (s : Settings) :
    validateSettings (.ok (hideKey s)) = validateSettings (.ok s) := by
  obtain ⟨⟨endpoint, key, model, seconds⟩, search, compression, toolDocs, loops, log⟩ := s
  cases key <;> rfl

/-- A command is about the settings. -/
def Action.IsAboutSettings : Action → Prop
  | .showSettings | .settingsPath | .validateSettings | .initialSettings => True
  | .arrange _ | .count _ => False

/-- What a command about the settings ends with, from their path and what has been loaded. -/
def settingsOutput (path detail : String) (loaded : Except Settings.LoadError Settings) :
    Action → Output
  | .showSettings => withSettings (loaded.mapError (·.message path detail)) showSettings
  | .settingsPath => { printed := path ++ "\n" }
  | .validateSettings => validateSettings (loaded.mapError (·.message path detail))
  | _ => { printed := Settings.toml {} }

variable {words : List String} {request : Request}

theorem settingsOutput_hideKey (path detail : String)
    (loaded : Except Settings.LoadError Settings) (action : Action) :
    settingsOutput path detail (loaded.map hideKey) action =
      settingsOutput path detail loaded action := by
  cases loaded with
  | error e => rfl
  | ok s =>
    cases action with
    | showSettings => exact showSettings_hideKey s
    | validateSettings => exact validateSettings_hideKey s
    | _ => rfl

theorem run_eq_settingsOutput {around : Surroundings}
    (hread : read words (pathFromEnvironment around.environment) = .ok request)
    (haction : request.action.IsAboutSettings) :
    run words around = settingsOutput (request.path around.environment) around.malformedDetail
      (Settings.load (around.files (request.path around.environment)) around.environment)
      request.action := by
  rw [run, hread]
  show request.run around = _
  rw [Request.run]
  cases hrequest : request.action with
  | arrange options =>
    rw [hrequest] at haction
    exact haction.elim
  | count input =>
    rw [hrequest] at haction
    exact haction.elim
  | _ => rfl

/-- What a command ends with depends on the detail of a malformed document only if there is one, and
then only at the end of what is printed. -/
theorem settingsOutput_detail (path : String) (loaded : Except Settings.LoadError Settings)
    (action : Action) (detail other : String) :
    (settingsOutput path detail loaded action).code =
        (settingsOutput path other loaded action).code ∧
      ((settingsOutput path detail loaded action).printed =
          (settingsOutput path other loaded action).printed ∨
        loaded = .error .malformed ∧ ∃ front,
          (settingsOutput path detail loaded action).printed = front ++ detail ++ "\n" ∧
          (settingsOutput path other loaded action).printed = front ++ other ++ "\n") := by
  cases action with
  | validateSettings =>
    cases loaded with
    | ok s => exact ⟨rfl, .inl rfl⟩
    | error e =>
      cases e with
      | malformed =>
        refine ⟨rfl, .inr ⟨rfl, "Config error: " ++
          ("Failed to parse config file at " ++ path ++ ": "), ?_, ?_⟩⟩
        all_goals
          show "Config error: " ++ ("Failed to parse config file at " ++ path ++ ": " ++ _) ++
            "\n" = _
          simp only [String.append_assoc]
      | _ => exact ⟨rfl, .inl rfl⟩
  | showSettings => cases loaded <;> exact ⟨rfl, .inl rfl⟩
  | _ => exact ⟨rfl, .inl rfl⟩

/-- Two surroundings of a command differ at most in the API key, as far as the settings go: in the
key in the file of the settings, if there is one in both, and in the variables for the key, if they
are set in both. Other files, the input and the network may differ in any way. -/
structure AlikeButKey (request : Request) (a b : Surroundings) : Prop where
  environment : AlikeVariables a.environment b.environment
  file : (a.files (request.path a.environment)).withoutKey =
    (b.files (request.path b.environment)).withoutKey

theorem pathFromEnvironment_eq {a b : Environment} (h : AlikeVariables a b) :
    pathFromEnvironment a = pathFromEnvironment b :=
  h.others "PROMPTFLOW_CONFIG" (by decide) (by decide)

theorem path_eq {a b : Environment} (h : AlikeVariables a b) :
    request.path a = request.path b := by
  have hhome : lookup "HOME" a = lookup "HOME" b := h.others "HOME" (by decide) (by decide)
  rw [Request.path, Request.path, defaultPath, defaultPath, hhome]

/-- Runs of a command about the settings that differ at most in the API key end with the same code,
and print the same but for why a document is malformed, if it is. The settings that they have loaded
are the same on one line. -/
theorem run_hidesKey {a b : Surroundings}
    (hread : read words (pathFromEnvironment a.environment) = .ok request)
    (haction : request.action.IsAboutSettings) (h : AlikeButKey request a b) :
    let loaded (around : Surroundings) :=
      Settings.load (around.files (request.path around.environment)) around.environment
    (run words a).code = (run words b).code ∧
    ((run words a).printed = (run words b).printed ∨
      loaded a = .error .malformed ∧ loaded b = .error .malformed ∧
      ∃ front, (run words a).printed = front ++ a.malformedDetail ++ "\n" ∧
        (run words b).printed = front ++ b.malformedDetail ++ "\n") ∧
    (a.malformedDetail = b.malformedDetail → run words a = run words b) ∧
    (loaded a).map Settings.line = (loaded b).map Settings.line := by
  intro loaded
  have hloaded : (loaded a).map hideKey = (loaded b).map hideKey :=
    Settings.hideKey_load h.environment h.file
  have hreadOther : read words (pathFromEnvironment b.environment) = .ok request :=
    pathFromEnvironment_eq h.environment ▸ hread
  have hrun (detail : String) :
      settingsOutput (request.path a.environment) detail (loaded a) request.action =
        settingsOutput (request.path b.environment) detail (loaded b) request.action := by
    rw [path_eq h.environment, ← settingsOutput_hideKey, hloaded, settingsOutput_hideKey]
  have hmalformed (hfirst : loaded a = .error .malformed) : loaded b = .error .malformed := by
    rw [hfirst] at hloaded
    cases hsecond : loaded b with
    | ok t =>
      rw [hsecond] at hloaded
      cases hloaded
    | error e =>
      rw [hsecond] at hloaded
      exact hloaded.symm
  have hline {file : Except Settings.LoadError Settings} :
      file.map Settings.line = (file.map hideKey).map Settings.line := by
    cases file with
    | error e => rfl
    | ok s => exact congrArg Except.ok s.line_hideKey.symm
  obtain ⟨hcode, hprinted⟩ := settingsOutput_detail (request.path a.environment) (loaded a)
    request.action a.malformedDetail b.malformedDetail
  rw [run_eq_settingsOutput hread haction, run_eq_settingsOutput hreadOther haction, ← hrun]
  refine ⟨hcode, hprinted.imp_right fun ⟨hfirst, hfront⟩ => ⟨hfirst, hmalformed hfirst, hfront⟩,
    fun hdetail => by rw [hdetail], ?_⟩
  rw [hline, hloaded, ← hline]

/-- Two files with keys that are written in different ways, and two variables for the key. -/
theorem run_hidesKey_show :
    let file (text : String) := FileState.file (Text.encode text)
    let a : Surroundings :=
      { environment := [("PROMPTFLOW_API_KEY", "first")], input := [], transport := .offline ""
        files := fun _ => file "[llm]\napi_key = \"alpha\"\n" }
    let b : Surroundings :=
      { environment := [("PROMPTFLOW_API_KEY", "second")], input := [1], transport := .offline ""
        files := fun _ => file "llm.api_key = 'b\\eta'\n" }
    let request : Request := ⟨.showSettings, none⟩
    read ["config", "show"] (pathFromEnvironment a.environment) = .ok request ∧
      request.action.IsAboutSettings ∧ AlikeButKey request a b ∧
      (Settings.load (a.files "") a.environment).map (·.llm.apiKey) = .ok (some "alpha") ∧
      (Settings.load (b.files "") b.environment).map (·.llm.apiKey) = .ok (some "b\\eta") ∧
      run ["config", "show"] a = run ["config", "show"] b := by
  intro file a b request
  have hread : read ["config", "show"] (pathFromEnvironment a.environment) = .ok request := by
    decide +kernel
  have halike : AlikeButKey request a b := by
    refine ⟨⟨fun name hname _ => ?_, rfl, rfl⟩, ?_⟩
    · have hnone (value : String) : lookup name [("PROMPTFLOW_API_KEY", value)] = none :=
        if_neg hname.symm
      exact (hnone "first").trans (hnone "second").symm
    · decide +kernel
  exact ⟨hread, trivial, halike, by decide +kernel, by decide +kernel,
    (run_hidesKey hread trivial halike).2.2.1 rfl⟩

end Command

end PromptBudget
