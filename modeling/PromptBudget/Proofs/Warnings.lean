import PromptBudget.Command.Run
import PromptBudget.Proofs.Overrides

/-!
# PromptBudget — what the check of the settings warns of

The command that checks the settings warns of two things that a request will miss: passages, if
they are to be searched and it is not said where, and credentials, if summaries are to be written
and there is no key. It looks at whether a value is given, where the services look at what it says:
a searcher needs an endpoint that is not blank, and credentials need a key that is not empty. So the
warnings tell what a request will miss except for an endpoint or a key that is given and says
nothing.

Main results:

* `sendsUnsigned_iff`, `searcher_servicesFor_eq_none_iff` — what the services need.
* `warns_validateSettings_iff` — what the command warns of.
* `run_warnsOfMissing_iff` — when this is what a request will miss.
-/

namespace PromptBudget.Command

-- ---------------------------------------------------------------------------
-- What is printed
-- ---------------------------------------------------------------------------

/-- The lines of the first paragraph of what a command prints. -/
def Output.firstLines (out : Output) : List (List Char) :=
  (out.printed.toList.splitOn '\n').takeWhile (· ≠ [])

/-- A command warns of something: its first paragraph has a line that says so. -/
def Output.Warns (out : Output) (warning : String) : Prop :=
  ("  warning: " ++ warning).toList ∈ out.firstLines

/-- A paragraph is read line by line. -/
theorem takeWhile_splitOn_paragraph {lines : List (List Char)}
    (h : ∀ line ∈ lines, line ≠ [] ∧ '\n' ∉ line) (rest : List Char) :
    ((lines.flatMap (· ++ ['\n']) ++ '\n' :: rest).splitOn '\n').takeWhile (· ≠ []) = lines := by
  induction lines with
  | nil =>
    rw [List.flatMap_nil, List.splitOn_append_cons_self_of_not_mem List.not_mem_nil]
    rfl
  | cons line lines ih =>
    obtain ⟨hne, hline⟩ := h line List.mem_cons_self
    have hrest := ih fun line hline => h line (List.mem_cons_of_mem _ hline)
    rw [List.flatMap_cons, List.append_assoc, List.append_assoc, List.singleton_append,
      List.splitOn_append_cons_self_of_not_mem hline,
      List.takeWhile_cons_of_pos (by simpa using hne), hrest]

/-- What the command warns of if passages will not be searched. -/
def withoutSearch : String :=
  "Semantic search enabled but no endpoint configured; stage will be skipped"

/-- What the command warns of if credentials will not be sent. -/
def withoutKey : String := "Compression enabled but no API key set (PROMPTFLOW_API_KEY)"

theorem mem_warnings_iff {s : Settings} {warning : String} :
    warning ∈ warnings s ↔
      (s.compression.enabled = true ∧ s.llm.apiKey = none) ∧ warning = withoutKey ∨
      (s.search.enabled = true ∧ s.search.endpoint = none) ∧ warning = withoutSearch := by
  unfold warnings withoutKey withoutSearch
  rw [List.mem_append, List.mem_ite_nil_right, List.mem_ite_nil_right]
  simp only [Bool.and_eq_true, Option.isNone_iff_eq_none, List.mem_singleton]

theorem warnings_oneLine {s : Settings} {warning : String} (h : warning ∈ warnings s) :
    '\n' ∉ warning.toList := by
  rcases mem_warnings_iff.1 h with ⟨-, rfl⟩ | ⟨-, rfl⟩
  all_goals decide

/-- The first paragraph says that the settings can be used, and then what they will keep from
working. -/
theorem firstLines_validateSettings (s : Settings) :
    (validateSettings (.ok s)).firstLines =
      "Config OK".toList :: (warnings s).map fun warning => ("  warning: " ++ warning).toList := by
  have hhead : "Config OK\n".toList = "Config OK".toList ++ ['\n'] := by decide
  have hend : "\n".toList = ['\n'] := by decide
  obtain ⟨rest, hprinted⟩ : ∃ rest, (validateSettings (.ok s)).printed.toList =
      ("Config OK".toList :: (warnings s).map fun warning =>
        ("  warning: " ++ warning).toList).flatMap (· ++ ['\n']) ++ '\n' :: rest := by
    simp only [validateSettings, String.toList_append, String.toList_join, List.flatMap_map,
      List.flatMap_cons, List.append_assoc, hhead, hend]
    exact ⟨_, rfl⟩
  rw [Output.firstLines, hprinted, takeWhile_splitOn_paragraph]
  intro line hline
  rcases List.mem_cons.1 hline with rfl | hline
  · decide
  · obtain ⟨warning, hwarning, rfl⟩ := List.mem_map.1 hline
    rw [String.toList_append]
    refine ⟨List.append_ne_nil_of_left_ne_nil (by decide) _, fun hmem => ?_⟩
    rcases List.mem_append.1 hmem with h | h
    · exact absurd h (by decide)
    · exact warnings_oneLine hwarning h

/-- What the command warns of. -/
theorem warns_validateSettings_iff {s : Settings} {warning : String} :
    (validateSettings (.ok s)).Warns warning ↔ warning ∈ warnings s := by
  have hne : ("  warning: " ++ warning).toList ≠ "Config OK".toList := by
    rw [String.toList_append]
    intro heq
    have hfirst : some ' ' = some 'C' := congrArg List.head? heq
    exact absurd hfirst (by decide)
  rw [Output.Warns, firstLines_validateSettings, List.mem_cons, or_iff_right hne, List.mem_map]
  constructor
  · rintro ⟨given, hgiven, heq⟩
    rw [String.toList_inj, String.append_right_inj] at heq
    exact heq ▸ hgiven
  · exact fun h => ⟨warning, h, rfl⟩

-- ---------------------------------------------------------------------------
-- What a request will miss
-- ---------------------------------------------------------------------------

/-- The generator of some settings calls its service without credentials, whatever it is asked. -/
def SendsUnsigned (s : Settings) : Prop :=
  ∀ (systemPrompt : String) (messages : List Message), ∃ request : Http.Request,
    request.authorization = none ∧
    ∀ (transport : Http.Transport) (context : RequestContext) (now : Moment),
      (servicesFor transport s).generator.generate context now systemPrompt messages =
        ((transport.send request).map (Http.classify Http.Completions.answerText)).guarded
          context now none

theorem authorization_eq_none_iff {apiKey : Option String} :
    Http.Completions.authorization apiKey = none ↔ apiKey = none ∨ apiKey = some "" := by
  cases apiKey with
  | none => simp [Http.Completions.authorization]
  | some key => simp [Http.Completions.authorization]

theorem authorization_of_request? {settings : LlmSettings} {systemPrompt : String}
    {messages : List Message} {request : Http.Request}
    (h : Http.Completions.request? settings systemPrompt messages = some request) :
    request.authorization = Http.Completions.authorization settings.apiKey := by
  simp only [Http.Completions.request?] at h
  split at h
  · obtain rfl := Option.some.inj h
    rfl
  · cases h

/-- Credentials are sent for a key that is given and not empty. -/
theorem sendsUnsigned_iff {s : Settings} :
    SendsUnsigned s ↔ s.llm.apiKey = none ∨ s.llm.apiKey = some "" := by
  rw [← authorization_eq_none_iff]
  constructor
  · intro h
    obtain ⟨request, hunsigned, hsends⟩ := h "" []
    -- a network that never answers, and is called only without credentials
    have hseen := hsends { send := fun request =>
      { answer := none, started := request.authorization.isNone } } {} 0
    simp only [servicesFor, Http.Completions.generator, Call.guarded_unbounded] at hseen
    cases hrequest : Http.Completions.request? s.llm "" [] with
    | none =>
      rw [hrequest] at hseen
      cases congrArg Call.answer hseen
    | some sent =>
      rw [hrequest] at hseen
      have hcalled : sent.authorization.isNone = request.authorization.isNone :=
        congrArg Call.started hseen
      rw [hunsigned, authorization_of_request? hrequest] at hcalled
      exact Option.isNone_iff_eq_none.1 hcalled
  · intro hnone systemPrompt messages
    obtain ⟨request, hrequest⟩ : ∃ request,
        Http.Completions.request? s.llm systemPrompt messages = some request := by
      rw [Http.Completions.request?, hnone]
      exact ⟨_, rfl⟩
    refine ⟨request, (authorization_of_request? hrequest).trans hnone, ?_⟩
    intro transport context now
    simp only [servicesFor, Http.Completions.generator, hrequest]

/-- Passages are searched at an endpoint that is given and not blank. -/
theorem searcher_servicesFor_eq_none_iff {transport : Http.Transport} {s : Settings} :
    (servicesFor transport s).searcher = none ↔
      s.search.endpoint = none ∨
        ∃ endpoint, s.search.endpoint = some endpoint ∧ Text.isBlankText endpoint = true := by
  show ((s.search.endpoint.filter (!Text.isBlankText ·)).map _) = none ↔ _
  rw [Option.map_eq_none_iff]
  cases s.search.endpoint with
  | none => simp
  | some endpoint => simp

-- ---------------------------------------------------------------------------
-- Warnings and what they warn of
-- ---------------------------------------------------------------------------

/-- Some words check the settings, and there are settings that can be used. -/
def Checks (words : List String) (around : Surroundings) (s : Settings) : Prop :=
  ∃ request, read words (pathFromEnvironment around.environment) = .ok request ∧
    request.action = .validateSettings ∧
    Settings.load (around.files (request.path around.environment)) around.environment = .ok s

theorem run_checks {words : List String} {around : Surroundings} {s : Settings}
    (h : Checks words around s) : run words around = validateSettings (.ok s) := by
  obtain ⟨request, hread, haction, hload⟩ := h
  rw [run, hread]
  show request.run around = _
  rw [Request.run, haction, hload]
  rfl

/-- An output warns of what requests with some settings will miss, and of nothing else: of a search
that is wanted and has no searcher, and of summaries that are wanted and asked for without
credentials. -/
structure WarnsOfMissing (s : Settings) (transport : Http.Transport) (out : Output) : Prop where
  search : out.Warns withoutSearch ↔
    s.search.enabled = true ∧ (servicesFor transport s).searcher = none
  key : out.Warns withoutKey ↔ s.compression.enabled = true ∧ SendsUnsigned s

/-- An endpoint is given for a search that is wanted, but it is blank. -/
def BlankEndpoint (s : Settings) : Prop :=
  s.search.enabled = true ∧
    ∃ endpoint, s.search.endpoint = some endpoint ∧ Text.isBlankText endpoint = true

/-- A key is given for summaries that are wanted, but it is empty. -/
def EmptyKey (s : Settings) : Prop :=
  s.compression.enabled = true ∧ s.llm.apiKey = some ""

/-- A cause that is not looked at makes a difference exactly where it is the cause. -/
theorem and_iff_and_or_iff {wanted cause other : Prop} (h : other → ¬ cause) :
    (wanted ∧ cause ↔ wanted ∧ (cause ∨ other)) ↔ ¬ (wanted ∧ other) := by
  constructor
  · rintro hiff ⟨hwanted, hother⟩
    exact h hother (hiff.2 ⟨hwanted, .inr hother⟩).2
  · intro hclear
    constructor
    · exact fun ⟨hwanted, hcause⟩ => ⟨hwanted, .inl hcause⟩
    · rintro ⟨hwanted, hcause | hother⟩
      · exact ⟨hwanted, hcause⟩
      · exact absurd ⟨hwanted, hother⟩ hclear

/-- Settings that can be used are reported as such, with a warning for a search without an endpoint
and one for summaries without a key. This is what requests will miss exactly if no endpoint is given
that is blank, and no key that is empty. -/
theorem run_warnsOfMissing_iff {words : List String} {around : Surroundings} {s : Settings}
    (h : Checks words around s) :
    let out := run words around
    out.code = 0 ∧
    (out.Warns withoutSearch ↔ s.search.enabled = true ∧ s.search.endpoint = none) ∧
    (out.Warns withoutKey ↔ s.compression.enabled = true ∧ s.llm.apiKey = none) ∧
    (WarnsOfMissing s around.transport out ↔ ¬ BlankEndpoint s ∧ ¬ EmptyKey s) := by
  intro out
  have hout : out = validateSettings (.ok s) := run_checks h
  have hne : withoutKey ≠ withoutSearch := by decide
  have hsearch : out.Warns withoutSearch ↔
      s.search.enabled = true ∧ s.search.endpoint = none := by
    rw [hout, warns_validateSettings_iff, mem_warnings_iff]
    simp only [hne.symm, and_false, false_or, and_true]
  have hkey : out.Warns withoutKey ↔
      s.compression.enabled = true ∧ s.llm.apiKey = none := by
    rw [hout, warns_validateSettings_iff, mem_warnings_iff]
    simp only [hne, and_false, or_false, and_true]
  refine ⟨hout ▸ rfl, hsearch, hkey, ?_⟩
  have hblank : (out.Warns withoutSearch ↔
      s.search.enabled = true ∧ (servicesFor around.transport s).searcher = none) ↔
        ¬ BlankEndpoint s := by
    rw [hsearch, searcher_servicesFor_eq_none_iff]
    refine and_iff_and_or_iff ?_
    rintro ⟨endpoint, hgiven, -⟩ hnone
    cases hgiven.symm.trans hnone
  have hempty : (out.Warns withoutKey ↔ s.compression.enabled = true ∧ SendsUnsigned s) ↔
      ¬ EmptyKey s := by
    rw [hkey, sendsUnsigned_iff]
    refine and_iff_and_or_iff ?_
    intro hgiven hnone
    cases hgiven.symm.trans hnone
  exact ⟨fun hwarns => ⟨hblank.1 hwarns.search, hempty.1 hwarns.key⟩,
    fun hclear => ⟨hblank.2 hclear.1, hempty.2 hclear.2⟩⟩

/-- Without a file, with a key from the environment: passages will be missed, credentials not. -/
theorem run_warnsOfMissing_iff_search :
    let around : Surroundings := {
      environment := [("OPENAI_API_KEY", "k")], files := fun _ => .missing, input := []
      transport := .offline "down" }
    let s : Settings := { llm := { apiKey := some "k" } }
    let out := run ["config", "validate"] around
    Checks ["config", "validate"] around s ∧ WarnsOfMissing s around.transport out ∧
      out.Warns withoutSearch ∧ ¬ out.Warns withoutKey := by
  intro around s out
  have hchecks : Checks ["config", "validate"] around s := by
    refine ⟨{ action := .validateSettings, settingsPath := none }, rfl, rfl, ?_⟩
    rw [Settings.load_eq_map]
    rfl
  obtain ⟨-, hsearch, hkey, hexact⟩ := run_warnsOfMissing_iff hchecks
  have hwarns : WarnsOfMissing s around.transport out := by
    refine hexact.2 ⟨?_, ?_⟩
    · rintro ⟨-, endpoint, hgiven, -⟩
      cases hgiven
    · rintro ⟨-, hgiven⟩
      exact absurd hgiven (by decide)
  exact ⟨hchecks, hwarns, hsearch.2 ⟨rfl, rfl⟩, fun h => nomatch (hkey.1 h).2⟩

/-- With a blank endpoint and an empty key nothing is warned of, although requests miss both. -/
theorem not_run_warnsOfMissing :
    let around : Surroundings := {
      environment := [("PROMPTFLOW_API_KEY", ""), ("PROMPTFLOW_SEMANTIC_ENDPOINT", " ")]
      files := fun _ => .missing, input := [], transport := .offline "down" }
    let s : Settings := { llm := { apiKey := some "" }, search := { endpoint := some " " } }
    let out := run ["config", "validate"] around
    Checks ["config", "validate"] around s ∧
    ¬ out.Warns withoutSearch ∧ (servicesFor around.transport s).searcher = none ∧
    ¬ out.Warns withoutKey ∧ SendsUnsigned s ∧
    ¬ ∀ words around s, Checks words around s →
      WarnsOfMissing s around.transport (run words around) := by
  intro around s out
  have hchecks : Checks ["config", "validate"] around s := by
    refine ⟨{ action := .validateSettings, settingsPath := none }, rfl, rfl, ?_⟩
    rw [Settings.load_eq_map]
    rfl
  have hnowarnings : warnings s = [] := rfl
  have hsilent (warning : String) : ¬ out.Warns warning := by
    show ¬ (run ["config", "validate"] around).Warns warning
    rw [run_checks hchecks, warns_validateSettings_iff, hnowarnings]
    exact List.not_mem_nil
  have hsearcher : (servicesFor around.transport s).searcher = none :=
    searcher_servicesFor_eq_none_iff.2 (.inr ⟨" ", rfl, by decide⟩)
  have hunsigned : SendsUnsigned s := sendsUnsigned_iff.2 (.inr rfl)
  refine ⟨hchecks, hsilent _, hsearcher, hsilent _, hunsigned, fun hall => ?_⟩
  exact hsilent _ ((hall _ _ _ hchecks).search.2 ⟨rfl, hsearcher⟩)

end PromptBudget.Command
