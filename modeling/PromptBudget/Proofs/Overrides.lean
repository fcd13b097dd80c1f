import PromptBudget.Settings.Load

/-!
# PromptBudget — what the environment changes

The variables of the environment take the place of four values of a file. None of the checks that
settings have to pass looks at these four, so settings that a file gives are never refused because
of the environment, and every other value is as the file has it. For three of the four the variable
comes first. For the API key the file does: a key in a file makes both variables for it idle.

Main results:

* `load_eq_map` — what is loaded is what the file gives, changed by the environment.
* `load_overrides` — which value comes first, for each value; and when the variable for the API key
  is heeded.
-/

namespace PromptBudget

open Json

theorem FileState.text_of_decode? {bytes : List UInt8} {text : String}
    (h : Text.decode? bytes = some text) : (FileState.file bytes).text = .ok text := by
  rw [FileState.text, h]

namespace Settings

-- ---------------------------------------------------------------------------
-- Checks
-- ---------------------------------------------------------------------------

/-- Nothing that is checked comes from the environment. -/
theorem fault?_withEnvironment (environment : Environment) (s : Settings) :
    (s.withEnvironment environment).fault? = s.fault? := rfl

theorem usable_eq_ok_iff {s t : Settings} : s.usable = .ok t ↔ s.fault? = none ∧ t = s := by
  unfold usable
  cases s.fault? with
  | none => exact ⟨fun h => ⟨rfl, (Except.ok.inj h).symm⟩, fun h => h.2 ▸ rfl⟩
  | some fault => exact ⟨nofun, nofun⟩

/-- The settings of a file are the defaults if there is none, and else what its text says, if this
passes the checks. -/
theorem ofFile_eq_ok_iff {file : FileState} {s : Settings} :
    ofFile file = .ok s ↔ file = .missing ∧ s = {} ∨
      ∃ text, file.text = .ok text ∧ ofToml? text = some s ∧ s.fault? = none := by
  cases file with
  | missing =>
    show Except.ok {} = .ok s ↔ _
    rw [Except.ok.injEq, eq_comm]
    exact ⟨fun h => .inl ⟨rfl, h⟩, fun h => h.elim And.right nofun⟩
  | directory => exact ⟨nofun, fun h => h.elim nofun nofun⟩
  | file bytes =>
    simp only [ofFile]
    cases (FileState.file bytes).text with
    | error failure => exact ⟨nofun, fun h => h.elim nofun nofun⟩
    | ok text =>
      simp only [reduceCtorEq, false_and, false_or, Except.ok.injEq, exists_eq_left']
      cases hread : ofToml? text with
      | none => exact ⟨nofun, fun h => nomatch h.1⟩
      | some given =>
        rw [Option.some.injEq]
        refine usable_eq_ok_iff.trans ⟨?_, ?_⟩
        · rintro ⟨hfault, rfl⟩
          exact ⟨rfl, hfault⟩
        · rintro ⟨rfl, hfault⟩
          exact ⟨hfault, rfl⟩

/-- Settings of a file have passed the checks. -/
theorem fault?_of_ofFile {file : FileState} {s : Settings} (h : ofFile file = .ok s) :
    s.fault? = none := by
  rcases ofFile_eq_ok_iff.1 h with ⟨-, rfl⟩ | ⟨_, -, -, hfault⟩
  · exact fault?_default
  · exact hfault

/-- What is loaded is what the file gives, changed by the environment; what is wrong with the file
is all that can be wrong. -/
theorem load_eq_map (file : FileState) (environment : Environment) :
    load file environment = (ofFile file).map (withEnvironment environment) := by
  rw [load]
  cases hfile : ofFile file with
  | error e => rfl
  | ok s =>
    have hfault : (s.withEnvironment environment).fault? = none := by
      rw [fault?_withEnvironment]
      exact fault?_of_ofFile hfile
    exact usable_eq_ok_iff.2 ⟨hfault, rfl⟩

-- ---------------------------------------------------------------------------
-- Which value comes first
-- ---------------------------------------------------------------------------

/-- The settings `t` are the settings `s` with the given API key, and with the variables of the
environment that are set in the place of the other three values. -/
structure Overridden (environment : Environment) (key : Option String) (s t : Settings) : Prop where
  /-- Where summaries are asked for. -/
  llmEndpoint : t.llm.endpoint =
    (lookup "PROMPTFLOW_LLM_ENDPOINT" environment).getD s.llm.endpoint
  /-- The key for it. -/
  apiKey : t.llm.apiKey = key
  /-- The model that is asked. -/
  summaryModel : t.llm.summaryModel =
    (lookup "PROMPTFLOW_SUMMARY_MODEL" environment).getD s.llm.summaryModel
  /-- Where passages are searched. -/
  searchEndpoint : t.search.endpoint =
    (lookup "PROMPTFLOW_SEMANTIC_ENDPOINT" environment).or s.search.endpoint
  /-- With the four values of `s` put back, nothing is different. -/
  others : { t with
    llm := { t.llm with
      endpoint := s.llm.endpoint, apiKey := s.llm.apiKey, summaryModel := s.llm.summaryModel }
    search := { t.search with endpoint := s.search.endpoint } } = s

/-- The key if the variable for it comes first, then the file, then the variable that other programs
share. -/
def variableFirst (environment : Environment) (key : Option String) : Option String :=
  (lookup "PROMPTFLOW_API_KEY" environment).or (key.or (lookup "OPENAI_API_KEY" environment))

/-- The key if the file comes first, then the two variables. -/
def fileFirst (environment : Environment) (key : Option String) : Option String :=
  key.or ((lookup "PROMPTFLOW_API_KEY" environment).or (lookup "OPENAI_API_KEY" environment))

/-- The order matters only if the file and the variable give two different keys. -/
theorem fileFirst_eq_variableFirst_iff (environment : Environment) (key : Option String) :
    fileFirst environment key = variableFirst environment key ↔
      ∀ a b, key = some a → lookup "PROMPTFLOW_API_KEY" environment = some b → b = a := by
  rw [fileFirst, variableFirst]
  cases key with
  | none => simp
  | some a =>
    cases lookup "PROMPTFLOW_API_KEY" environment with
    | none => simp
    | some b => simp [eq_comm]

theorem overridden_withEnvironment (environment : Environment) (s : Settings) :
    Overridden environment (fileFirst environment s.llm.apiKey) s
      (s.withEnvironment environment) where
  llmEndpoint := rfl
  apiKey := by
    show (s.llm.apiKey <|> lookup "PROMPTFLOW_API_KEY" environment <|>
      lookup "OPENAI_API_KEY" environment) = _
    rw [fileFirst]
    cases s.llm.apiKey with
    | some key => rfl
    | none => cases lookup "PROMPTFLOW_API_KEY" environment <;> rfl
  summaryModel := rfl
  searchEndpoint := Option.orElse_eq_or
  others := rfl

/-- The settings of a file are loaded in every environment. The endpoints and the model come from
the environment where their variables are set, and from the file otherwise; the API key comes from
the file, and without one from the environment; nothing else changes. So the variable for the API
key comes first, too, exactly if the file gives no other key than the variable. -/
theorem load_overrides {file : FileState} {s : Settings} (hfile : ofFile file = .ok s)
    (environment : Environment) :
    ∃ t, load file environment = .ok t ∧
      Overridden environment (fileFirst environment s.llm.apiKey) s t ∧
      (Overridden environment (variableFirst environment s.llm.apiKey) s t ↔
        ∀ key value, s.llm.apiKey = some key →
          lookup "PROMPTFLOW_API_KEY" environment = some value → value = key) := by
  have hloaded : load file environment = .ok (s.withEnvironment environment) := by
    rw [load_eq_map, hfile]
    rfl
  have hoverridden := overridden_withEnvironment environment s
  refine ⟨_, hloaded, hoverridden, ?_⟩
  rw [← fileFirst_eq_variableFirst_iff]
  constructor
  · intro hclaimed
    rw [← hoverridden.apiKey, hclaimed.apiKey]
  · intro hsame
    exact hsame ▸ hoverridden

/-- A file with one endpoint, and variables for both endpoints and for the key. -/
theorem load_overrides_endpoints :
    let file := FileState.file "[llm]\nendpoint = \"http://a\"\n".toUTF8.toList
    let environment := [("PROMPTFLOW_LLM_ENDPOINT", "http://b"), ("OPENAI_API_KEY", "k"),
      ("PROMPTFLOW_SEMANTIC_ENDPOINT", "http://c")]
    let s : Settings := { llm := { endpoint := "http://a" } }
    let t : Settings := { llm := { endpoint := "http://b", apiKey := some "k" }
                          search := { endpoint := some "http://c" } }
    ofFile file = .ok s ∧ load file environment = .ok t ∧
      Overridden environment (fileFirst environment s.llm.apiKey) s t ∧
      Overridden environment (variableFirst environment s.llm.apiKey) s t := by
  intro file environment s t
  have hfile : ofFile file = .ok s :=
    ofFile_eq_ok_iff.2 (.inr ⟨"[llm]\nendpoint = \"http://a\"\n",
      FileState.text_of_decode? (by decide +kernel), by decide +kernel, by decide +kernel⟩)
  have hload : load file environment = .ok t := by
    rw [load_eq_map, hfile]
    rfl
  obtain ⟨t', ht', hoverridden, hclaimed⟩ := load_overrides hfile environment
  obtain rfl := Except.ok.inj (hload.symm.trans ht')
  exact ⟨hfile, hload, hoverridden, hclaimed.2 (fun _ _ => nofun)⟩

/-- A key in the file is used although the variable gives another one. -/
theorem not_load_overrides :
    let file := FileState.file "[llm]\napi_key = \"old\"\n".toUTF8.toList
    let environment := [("PROMPTFLOW_API_KEY", "new")]
    (∃ t, load file environment = .ok t ∧ t.llm.apiKey = some "old") ∧
    ¬ ∀ file s environment, ofFile file = .ok s →
      ∃ t, load file environment = .ok t ∧
        Overridden environment (variableFirst environment s.llm.apiKey) s t := by
  intro file environment
  have hfile : ofFile file = .ok { llm := { apiKey := some "old" } } :=
    ofFile_eq_ok_iff.2 (.inr ⟨"[llm]\napi_key = \"old\"\n",
      FileState.text_of_decode? (by decide +kernel), by decide +kernel, by decide +kernel⟩)
  have hload : load file environment = .ok { llm := { apiKey := some "old" } } := by
    rw [load_eq_map, hfile]
    rfl
  refine ⟨⟨_, hload, rfl⟩, fun hall => ?_⟩
  obtain ⟨t, ht, hoverridden⟩ := hall file _ environment hfile
  obtain rfl := Except.ok.inj (hload.symm.trans ht)
  have hkey : some "old" = some "new" := hoverridden.apiKey
  exact absurd hkey (by decide)

end Settings

end PromptBudget
