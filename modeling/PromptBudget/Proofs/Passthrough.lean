import PromptBudget.Command.Run
import PromptBudget.Proofs.Degradation
import PromptBudget.Proofs.Requests

/-!
# PromptBudget — requests that are left as they are

A plan that asks for no stage leaves a request as it came, whatever its window, its services and its
bounds: the parts into which the messages are cut are put together again, and nothing comes in
front. If a language is said, one text is added to the first system message, or a system message to
the front.

On the command line this is a filter. What it prints is read as the messages that it has read, so
that what has gone through it once goes through it again unchanged. This needs nothing of the text
but that the printed document is read back as the document that it is.

Main results:

* `arrange_unchanged` — a plan without stages sends a request without a language as it came.
* `Outline.Sound.tagged_editSystem` — where a text for the system message goes.
* `Message.decodeList?_encodeList` — messages that were read are read again as they are written.
* `Command.run_passes` — what a command prints that leaves its request as it is.
* `passthrough_unchanged` — all of this together.
-/

namespace PromptBudget

-- ---------------------------------------------------------------------------
-- Plans without stages
-- ---------------------------------------------------------------------------

/-- A plan that asks for no stage. -/
structure Plan.Idle (plan : Plan) : Prop where
  compress : plan.compress = false
  search : plan.search = false
  moveToolDocs : plan.moveToolDocs = false
  detectLoops : plan.detectLoops = false

theorem Plan.Idle.stages_eq_nil {plan : Plan} (h : plan.Idle) (identity : Identity)
    (services : Collaborators) : plan.stages identity services = [] := by
  rw [stages, passages?, h.compress, h.search, h.moveToolDocs, h.detectLoops]
  rfl

section Idle

variable {plan : Plan} (hidle : plan.Idle) (identity : Identity) (services : Collaborators)
  (context : RequestContext) (now : Moment) {messages : List Message} {c : Conversation}
include hidle

theorem arrange_idle (hparse : Conversation.ofMessages? messages plan.recentWindow = .ok c) :
    arrange plan identity services context now messages =
      .ok (Pipeline.Progress.arranged { conversation := c, context, now } services.counter
        identity.language? messages) := by
  rw [arrange_eq identity services context now hparse, hidle.stages_eq_nil]
  rfl

theorem arrange_unchanged (hsilent : identity.language? = none) (hne : messages ≠ []) :
    arrange plan identity services context now messages =
      .ok (.unchanged services.counter context now messages) := by
  obtain ⟨o, -, -, hfresh, hparse, -⟩ :=
    exists_arranged plan identity services context now hne
  have hsent : (o.conversation.inLanguage none).assembled = messages :=
    Conversation.assembled_ofMessages? hparse
  have hdiagnostics : (o.conversation.inLanguage none).diagnostics = {} := hfresh
  rw [arrange_idle hidle identity services context now hparse, hsilent,
    Pipeline.Progress.arranged, hsent, hdiagnostics]
  rfl

/-- Without messages nothing is arranged, and nothing is changed either. -/
theorem arrangeOrPass_unchanged (hsilent : identity.language? = none) :
    arrangeOrPass plan identity services context now messages =
      .unchanged services.counter context now messages := by
  by_cases hne : messages = []
  · subst hne
    rfl
  · rw [arrangeOrPass, arrange_unchanged hidle identity services context now hsilent hne]

end Idle

-- ---------------------------------------------------------------------------
-- Where a text for the system message goes
-- ---------------------------------------------------------------------------

/-- Messages before and after a block is added for the system: at the end of the first system
message, whose content becomes a list of blocks, or in a new system message in front of all. -/
inductive Tagged (b : Block) : List Message → List Message → Prop where
  | first {front back : List Message} {m : Message} (hm : m.role = .system)
      (hfront : ∀ x ∈ front, x.role ≠ .system) :
      Tagged b (front ++ m :: back)
        (front ++ { m with content := .blocks (m.content.toBlocks ++ [b]) } :: back)
  | new {messages : List Message} (hnone : ∀ x ∈ messages, x.role ≠ .system) :
      Tagged b messages ({ role := .system, content := .blocks [b] } :: messages)

theorem role_ne_of_not_mem_roles {messages : List Message} {role : Role}
    (h : role ∉ roles messages) : ∀ m ∈ messages, m.role ≠ role := by
  intro m hm hrole
  exact h (List.mem_map.2 ⟨m, hm, hrole⟩)

theorem Outline.Sound.tagged_editSystem {o : Outline} (ho : o.Sound)
    (hstandIn : o.conversation.standIn = .system (.plain "")) (b : Block) :
    Tagged b o.conversation.messages (o.conversation.editSystem (·.push b)).assembled := by
  rw [editSystem_conversation, assembled_conversation, messages_conversation]
  cases hopening : o.opening with
  | standIn m =>
    -- there is no system message, and the stand-in is sent because it holds the block now
    have halone := ho.alone (by rw [hopening]; rfl)
    rw [standIn_conversation, hopening] at hstandIn
    have hsent : (o.editSystem (·.push b)).assembled =
        { role := .system, content := .blocks [b] } :: (o.older ++ o.recent.messages) := by
      rw [assembled, Outline.editSystem, hopening, show m = .system (.plain "") from hstandIn]
      rfl
    rw [hsent]
    exact .new (role_ne_of_not_mem_roles halone)
  | real lead m =>
    obtain ⟨hm, hlead, -⟩ := hopening ▸ ho.opening
    have hmessages : (Opening.real lead m).messages ++ o.older ++ o.recent.messages =
        lead.messages ++ m :: (o.older ++ o.recent.messages) := by
      rw [Opening.messages, List.append_assoc, List.append_assoc, List.singleton_append]
    have hsent : (o.editSystem (·.push b)).assembled =
        lead.messages ++ m.push b :: (o.older ++ o.recent.messages) := by
      rw [assembled, Outline.editSystem, hopening]
      show [] ++ (lead.messages ++ [m.push b]) ++ o.older ++ o.recent.messages = _
      rw [List.nil_append, List.append_assoc, List.append_assoc, List.singleton_append]
    rw [hmessages, hsent]
    exact .first hm (role_ne_of_not_mem_roles hlead)

-- ---------------------------------------------------------------------------
-- Lists of messages in JSON
-- ---------------------------------------------------------------------------

namespace Message

theorem decodeList?_encodeList {messages : List Message}
    (h : ∀ m ∈ messages, decode? m.encode = some m) :
    decodeList? (encodeList messages) = some messages :=
  mapM_map_eq_some h

/-- The messages of a request are read again as they are written. -/
theorem decode?_encode_of_requestMessages? {value : Json} {messages : List Message}
    (h : requestMessages? value = some messages) :
    ∀ m ∈ messages, decode? m.encode = some m := by
  obtain ⟨items, -, hitems⟩ := requestMessages?_eq_some_iff.1 h
  intro m hm
  obtain ⟨item, -, hitem⟩ := exists_mem_of_mapM (mapM_eq_some_iff.2 hitems) hm
  obtain ⟨-, -, -, -, -, -, horigin⟩ := decode?_eq_some.1 hitem
  rw [decode?_encode (unambiguous_of_decode? hitem), ← horigin]

end Message

-- ---------------------------------------------------------------------------
-- The command line
-- ---------------------------------------------------------------------------

namespace Command

/-- A command line that asks to leave a request as it is, without a language, where settings can be
loaded. -/
structure Passes (words : List String) (around : Surroundings) (request : Request)
    (options : ArrangeOptions) : Prop where
  read : read words (pathFromEnvironment around.environment) = .ok request
  action : request.action = .arrange options
  passthrough : options.passthrough = true
  language : (identityFor options).language? = none
  settings : ∃ settings, Settings.load (around.files (request.path around.environment))
    around.environment = .ok settings

/-- What is printed of a request that is left as it is. -/
def passedDocument (options : ArrangeOptions) (messages : List Message) : Json :=
  if options.messagesOnly then Message.encodeList messages
  else .object [("messages", Message.encodeList messages),
    ("diagnostics", .object [("stages", .array [])]),
    ("original_tokens", Json.nat (Tokens.countMessages messages)),
    ("final_tokens", Json.nat (Tokens.countMessages messages))]

theorem idle_planFor (settings : Settings) {options : ArrangeOptions}
    (h : options.passthrough = true) : (planFor settings options).Idle := by
  rw [planFor, if_pos h]
  exact ⟨rfl, rfl, rfl, rfl⟩

theorem requestMessages?_passedDocument (options : ArrangeOptions) {messages : List Message}
    (h : ∀ m ∈ messages, Message.decode? m.encode = some m) :
    requestMessages? (passedDocument options messages) = some messages := by
  have hlist := Message.decodeList?_encodeList h
  unfold passedDocument
  split
  · exact hlist
  · rw [requestMessages?_object _ (by rfl)]
    exact hlist

variable {words : List String} {around : Surroundings} {request : Request}
  {options : ArrangeOptions} {raw : String} {messages : List Message}

theorem requestText_stdin {text : String} (h : Text.decode? around.input = some text) :
    requestText around none = .ok text := by
  rw [requestText, h]

/-- Whether a request is left as it is does not depend on the request. -/
theorem Passes.again {again : Surroundings} (h : Passes words around request options)
    (henvironment : again.environment = around.environment)
    (hfiles : again.files (request.path around.environment) =
      around.files (request.path around.environment)) :
    Passes words again request options := by
  refine { h with read := ?_, settings := ?_ }
  · rw [henvironment]
    exact h.read
  · rw [henvironment, hfiles]
    exact h.settings

/-- A command that leaves its request as it is prints the messages that it has read. -/
theorem run_passes (h : Passes words around request options)
    (hraw : requestText around options.input = .ok raw)
    (hmessages : readMessages raw = .ok messages) :
    run words around = { printed := Json.pretty 0 (passedDocument options messages) ++ "\n" } := by
  obtain ⟨settings, hsettings⟩ := h.settings
  have hrequest : requestMessages around options.input = .ok messages := by
    simp only [requestMessages, hraw, bind, Except.bind, hmessages]
    rfl
  have harranged : arrangeOrPass (planFor settings options) (identityFor options)
      (servicesFor around.transport settings) (boundsFor options) 0 messages =
        .unchanged .heuristic (boundsFor options) 0 messages :=
    arrangeOrPass_unchanged (idle_planFor settings h.passthrough) (identityFor options)
      (servicesFor around.transport settings) (boundsFor options) 0 h.language
  have hrun : run words around = arrangeRequest around settings options := by
    rw [run, h.read]
    show request.run around = _
    rw [Request.run, hsettings, h.action]
    rfl
  rw [hrun, arrangeRequest, hrequest, passedDocument]
  show ({ printed := Json.pretty 0 (if options.messagesOnly then _ else _) ++ "\n" } : Output) = _
  rw [harranged]
  rfl

end Command

/-- A command that leaves its request as it is prints the messages that it has read, with their
tokens and without a record, and printed again they are the same, if the text of what is printed is
read as what it is. An arranged request without stages is the request itself, whatever its window,
its services and its bounds are, but for the language of the answers. -/
theorem passthrough_unchanged :
    (∀ (words : List String) (around : Command.Surroundings) (request : Command.Request)
        (options : Command.ArrangeOptions) (raw : String) (messages : List Message),
      Command.Passes words around request options →
      Command.requestText around options.input = .ok raw → readMessages raw = .ok messages →
        Command.run words around =
            { printed := Json.pretty 0 (Command.passedDocument options messages) ++ "\n" } ∧
          requestMessages? (Command.passedDocument options messages) = some messages ∧
          (Json.ofText? (Command.run words around).printed =
              some (Command.passedDocument options messages) →
            readMessages (Command.run words around).printed = .ok messages ∧
            ∀ again : Command.Surroundings, again.environment = around.environment →
              again.files (request.path around.environment) =
                around.files (request.path around.environment) →
              Command.requestText again options.input = .ok (Command.run words around).printed →
                Command.run words again = Command.run words around)) ∧
    ∀ (plan : Plan) (identity : Identity) (services : Collaborators) (context : RequestContext)
        (now : Moment) (messages : List Message), plan.Idle → messages ≠ [] →
      ∃ out, arrange plan identity services context now messages = .ok out ∧
        out.diagnostics = {} ∧ out.consultations = [] ∧
        (identity.language? = none → out.messages = messages) ∧
        ∀ language, identity.language? = some language →
          Tagged (languageBlock language) messages out.messages := by
  constructor
  · intro words around request options raw messages hpasses hraw hmessages
    have hrun := Command.run_passes hpasses hraw hmessages
    obtain ⟨value, -, hvalue⟩ := readMessages_eq_ok.1 hmessages
    have hdocument := Command.requestMessages?_passedDocument options
      (Message.decode?_encode_of_requestMessages? hvalue)
    refine ⟨hrun, hdocument, ?_⟩
    intro hfaithful
    have hread : readMessages (Command.run words around).printed = .ok messages :=
      readMessages_eq_ok.2 ⟨_, hfaithful, hdocument⟩
    refine ⟨hread, ?_⟩
    intro again henvironment hfiles htext
    rw [Command.run_passes (hpasses.again henvironment hfiles) htext hread, hrun]
  · intro plan identity services context now messages hidle hne
    obtain ⟨o, ho, hmessages, hfresh, hparse, -⟩ :=
      exists_arranged plan identity services context now hne
    refine ⟨_, arrange_idle hidle identity services context now hparse, ?_, rfl, ?_, ?_⟩
    · rw [Pipeline.Progress.diagnostics_arranged]
      exact hfresh
    · intro hsilent
      rw [hsilent]
      exact Conversation.assembled_ofMessages? hparse
    · intro language hlanguage
      rw [hlanguage]
      have htagged := ho.tagged_editSystem (Conversation.standIn_ofMessages? hparse)
        (languageBlock language)
      rw [hmessages] at htagged
      exact htagged

/-- A request that comes from standard input goes through twice, and a language that is said comes
in front of it. -/
theorem passthrough_unchanged_twice :
    (∃ (around : Command.Surroundings) (request : Command.Request)
        (options : Command.ArrangeOptions) (raw printed : String),
      raw = "[\x7b\"role\":\"user\",\"content\":\"hi\"\x7d]" ∧
      printed = "[\n  \x7b\n    \"role\": \"user\",\n    \"content\": \"hi\"\n  \x7d\n]\n" ∧
      Command.Passes ["arrange", "--passthrough", "--messages-only"] around request options ∧
      Command.requestText around options.input = .ok raw ∧
      readMessages raw = .ok [.user (.plain "hi")] ∧
      (Command.run ["arrange", "--passthrough", "--messages-only"] around).printed = printed ∧
      Command.run ["arrange", "--passthrough", "--messages-only"]
          { around with input := printed.toUTF8.toList } =
        Command.run ["arrange", "--passthrough", "--messages-only"] around) ∧
    Plan.passthrough.Idle ∧ ([.user (.plain "hi")] : List Message) ≠ [] ∧
    ∃ out, arrange Plan.passthrough { language := "French" }
        { generator := ⟨fun _ _ _ _ => .refused .rateLimited⟩ } { deadline := some 0 } 1
        [.user (.plain "hi")] = .ok out ∧
      Tagged (languageBlock "French") [.user (.plain "hi")] out.messages := by
  obtain ⟨raw, hrawText⟩ : ∃ raw : String,
      raw = "[\x7b\"role\":\"user\",\"content\":\"hi\"\x7d]" := ⟨_, rfl⟩
  obtain ⟨printed, hprintedText⟩ : ∃ printed : String, printed =
      "[\n  \x7b\n    \"role\": \"user\",\n    \"content\": \"hi\"\n  \x7d\n]\n" := ⟨_, rfl⟩
  obtain ⟨around, hinput, hpasses⟩ : ∃ around : Command.Surroundings,
      around.input = raw.toUTF8.toList ∧
      Command.Passes ["arrange", "--passthrough", "--messages-only"] around
        { action := .arrange { passthrough := true, messagesOnly := true }, settingsPath := none }
        { passthrough := true, messagesOnly := true } := by
    refine ⟨{ environment := [], files := fun _ => .missing, transport := .offline "down",
              input := raw.toUTF8.toList }, rfl, rfl, rfl, rfl, rfl, {}, ?_⟩
    show Settings.usable (({} : Settings).withEnvironment []) = .ok {}
    rw [Settings.usable, show ({} : Settings).withEnvironment [] = {} from rfl,
      Settings.fault?_default]
  have hraw : Text.decode? around.input = some raw := by
    rw [hinput, hrawText]
    decide +kernel
  have hvalue : Json.ofText? raw = some (Message.encodeList [.user (.plain "hi")]) := by
    rw [hrawText]
    decide +kernel
  have hpretty : Json.pretty 0 (Command.passedDocument
      { passthrough := true, messagesOnly := true } [.user (.plain "hi")]) ++ "\n" = printed := by
    rw [hprintedText]
    decide +kernel
  have hprinted : Text.decode? printed.toUTF8.toList = some printed := by
    rw [hprintedText]
    decide +kernel
  have hfaithful : Json.ofText? printed = some (Command.passedDocument
      { passthrough := true, messagesOnly := true } [.user (.plain "hi")]) := by
    rw [hprintedText]
    decide +kernel
  have hmessages : readMessages raw = .ok [.user (.plain "hi")] :=
    readMessages_eq_ok.2 ⟨_, hvalue, rfl⟩
  have htext := Command.requestText_stdin hraw
  obtain ⟨hrun, -, hagain⟩ := passthrough_unchanged.1 _ around _ _ _ _ hpasses htext hmessages
  have hout : (Command.run ["arrange", "--passthrough", "--messages-only"] around).printed =
      printed := by
    rw [hrun]
    exact hpretty
  rw [hout] at hagain
  obtain ⟨-, hsecond⟩ := hagain hfaithful
  refine ⟨⟨around, _, _, raw, printed, hrawText, hprintedText, hpasses, htext, hmessages, hout,
    hsecond _ rfl rfl (Command.requestText_stdin hprinted)⟩, ⟨rfl, rfl, rfl, rfl⟩,
    List.cons_ne_nil _ _, ?_⟩
  obtain ⟨out, harranged, -, -, -, htagged⟩ := passthrough_unchanged.2 Plan.passthrough
    { language := "French" } { generator := ⟨fun _ _ _ _ => .refused .rateLimited⟩ }
    { deadline := some 0 } 1 [.user (.plain "hi")] ⟨rfl, rfl, rfl, rfl⟩ (List.cons_ne_nil _ _)
  exact ⟨out, harranged, htagged "French" rfl⟩

end PromptBudget
