import PromptBudget.Proofs.Alike
import PromptBudget.Proofs.Plans

/-!
# PromptBudget — the form of content does not matter

Two requests whose messages say the same are arranged in the same way, in whatever form they say it.
Services may not look at the form either: a generator that answers what it hears gives both runs the
same answers at the same moments, and a counter that counts what is said gives both the same
numbers. The heuristic counter is one.

The two runs are followed side by side. A stage on conversations that are alike ends alike
(`Stage.Kind.run_alike`), so a pipeline does (`Pipeline.run_alike`).

Main results:

* `TokenCounter.hearsText_heuristic` — the heuristic counter counts what is said.
* `Stage.Kind.run_alike` — one stage of two runs.
* `arrange_same_text` — two whole requests.
-/

namespace PromptBudget

-- ---------------------------------------------------------------------------
-- What services hear
-- ---------------------------------------------------------------------------

/-- A generator that answers what the messages say, in whatever form they say it. -/
def Generator.HearsText (g : Generator) : Prop :=
  ∀ context now systemPrompt a b, spoken a = spoken b →
    g.generate context now systemPrompt a = g.generate context now systemPrompt b

/-- A counter that counts what the messages say, in whatever form they say it. -/
def TokenCounter.HearsText (counter : TokenCounter) : Prop :=
  ∀ a b, spoken a = spoken b → counter.countMessages a = counter.countMessages b

theorem TokenCounter.hearsText_heuristic : heuristic.HearsText :=
  fun _ _ h => Tokens.countMessages_congr h

/-- What a service hears of a request: the query, or the prompt and what the messages say. -/
def Consultation.Request.heard : Request → SearchQuery ⊕ String × List (Role × String)
  | search query => .inl query
  | generation systemPrompt messages => .inr (systemPrompt, spoken messages)

/-- When a service was called and what it heard. -/
def Consultation.heard (c : Consultation) :
    Moment × (SearchQuery ⊕ String × List (Role × String)) :=
  (c.started, c.request.heard)

/-- A stage whose services do not look at the form of content. -/
def Stage.Kind.HearsText : Kind → Prop
  | summary generator _ _ counter => generator.HearsText ∧ counter.HearsText
  | _ => True

/-- Two edits that fail in the same way, or that both succeed with conversations that are alike. -/
inductive Conversation.EditedAlike :
    Except StageError Conversation → Except StageError Conversation → Prop where
  | failed (e : StageError) : EditedAlike (.error e) (.error e)
  | edited {c d : Conversation} (h : c.Alike d) : EditedAlike (.ok c) (.ok d)

/-- Two ends of work that are alike: both went well or both went wrong in the same way, and the
conversations that they left are alike. -/
inductive Stage.Work.EndsAlike :
    EStateM.Result StageError Conversation α → EStateM.Result StageError Conversation α → Prop where
  | ok (a : α) {c d : Conversation} (h : c.Alike d) : EndsAlike (.ok a c) (.ok a d)
  | error (e : StageError) {c d : Conversation} (h : c.Alike d) :
      EndsAlike (.error e c) (.error e d)

/-- Two ends of a stage that are alike. -/
structure Stage.Outcome.Alike (out out' : Stage.Outcome) : Prop where
  result : out.result = out'.result
  conversation : out.conversation.Alike out'.conversation
  context : out.context = out'.context
  finished : out.finished = out'.finished
  consultations : out.consultations.map (·.heard) = out'.consultations.map (·.heard)

namespace Stage

variable {c d : Conversation} {context : RequestContext} {now : Moment}

namespace Work

theorem make_alike {edit edit' : Conversation → Except StageError Conversation} (h : c.Alike d)
    (hedited : Conversation.EditedAlike (edit c) (edit' d)) :
    EndsAlike (make edit c) (make edit' d) := by
  unfold make
  generalize edit c = left at hedited ⊢
  generalize edit' d = right at hedited ⊢
  cases hedited with
  | failed e => exact .error e h
  | edited halike => exact .ok () halike

/-- Work that goes on alike after it was done alike. -/
theorem EndsAlike.bind {work work' : Work α} {next : α → Work β}
    (h : EndsAlike (work c) (work' d))
    (hnext : ∀ a c d, c.Alike d → EndsAlike (next a c) (next a d)) :
    EndsAlike ((work >>= next) c) ((work' >>= next) d) := by
  generalize hleft : work c = left at h
  generalize hright : work' d = right at h
  cases h with
  | ok a halike =>
    rw [bind_of_ok hleft, bind_of_ok hright]
    exact hnext a _ _ halike
  | error e halike =>
    rw [bind_of_error hleft, bind_of_error hright]
    exact .error e halike

end Work

open Work (EndsAlike)

namespace Outcome.Alike

theorem worked {work work' : Work Bool} (h : EndsAlike (work c) (work' d)) :
    Alike (.worked work c context now) (.worked work' d context now) := by
  unfold Outcome.worked
  generalize work c = left at h ⊢
  generalize work' d = right at h ⊢
  cases h with
  | ok handled halike => exact ⟨rfl, halike, rfl, rfl, rfl⟩
  | error e halike => exact ⟨rfl, halike, rfl, rfl, rfl⟩

theorem untouched (h : c.Alike d) : Alike (.untouched c context now) (.untouched d context now) :=
  worked (.ok false h)

theorem changed {edited edited' : Except StageError Conversation} (h : c.Alike d)
    (hedited : Conversation.EditedAlike edited edited') :
    Alike (.changed edited c context now) (.changed edited' d context now) :=
  worked ((Work.make_alike h hedited).bind fun _ _ _ halike => .ok true halike)

/-- A service that is asked two questions that it hears alike. -/
theorem ofCall {service : Service ρ α} {question question' : ρ} {limit : Duration}
    {decide : α → Work Bool} (h : c.Alike d)
    (hcall : service.call question limit context now = service.call question' limit context now)
    (hheard : (service.note question).heard = (service.note question').heard)
    (hdecide : ∀ value, EndsAlike (decide value c) (decide value d)) :
    Alike (.ofCall service question limit c context now decide)
      (.ofCall service question' limit d context now decide) := by
  have hwork (result : Except ServiceError α) :
      EndsAlike (Work.onAnswer result decide c) (Work.onAnswer result decide d) := by
    cases result with
    | error e => exact .error (.service e) h
    | ok value => exact hdecide value
  have hasked (started : Bool) :
      (if started then [(⟨now, service.note question⟩ : Consultation)] else []).map (·.heard) =
        (if started then [(⟨now, service.note question'⟩ : Consultation)] else []).map (·.heard) := by
    cases started with
    | false => rfl
    | true => exact congrArg (fun heard => [(now, heard)]) hheard
  have hworked (context : RequestContext) (now : Moment) (result : Except ServiceError α) :
      Alike (.worked (Work.onAnswer result decide) c context now)
        (.worked (Work.onAnswer result decide) d context now) := worked (hwork result)
  simp only [Outcome.ofCall, hcall]
  exact ⟨(hworked _ _ _).result, (hworked _ _ _).conversation, (hworked _ _ _).context,
    (hworked _ _ _).finished, hasked _⟩

end Outcome.Alike

end Stage

-- ---------------------------------------------------------------------------
-- Stages side by side
-- ---------------------------------------------------------------------------

theorem Conversation.Alike.appendToLastUser {c d : Conversation} (h : c.Alike d) (b : Block) :
    EditedAlike (c.appendToLastUser b) (d.appendToLastUser b) := by
  unfold Conversation.appendToLastUser
  rcases h.editLastUser? (fun _ _ hsaid => Message.said_push hsaid b) with
    ⟨hc, hd⟩ | ⟨c', d', hc, hd, halike⟩
  · rw [hc, hd]
    exact .failed _
  · rw [hc, hd]
    exact .edited halike

theorem Conversation.Alike.pushLastUser {o o' : Outline} (h : o.conversation.Alike o'.conversation)
    (b : Block) :
    (o.editLastUser (·.push b)).conversation.Alike (o'.editLastUser (·.push b)).conversation := by
  rcases h.editLastUser? (fun _ _ hsaid => Message.said_push hsaid b) with
    ⟨hc, hd⟩ | ⟨c', d', hc, hd, halike⟩
  · -- without a user message nothing is edited
    rw [Outline.editLastUser?_conversation, Option.map_eq_none_iff] at hc hd
    rwa [o.editLastUser_of_none hc, o'.editLastUser_of_none hd]
  · rw [Outline.editLastUser?_conversation] at hc hd
    obtain ⟨-, -, rfl⟩ := Option.map_eq_some_iff.1 hc
    obtain ⟨-, -, rfl⟩ := Option.map_eq_some_iff.1 hd
    exact halike

theorem Conversation.Alike.withDiagnostics {c d : Conversation} (h : c.Alike d) {e e' : Diagnostics}
    (he : e = e') :
    Conversation.Alike { c with diagnostics := e } { d with diagnostics := e' } :=
  { h with diagnostics := he }

namespace LoopBreak

/-- Whether the first two answers are the same but for blanks, by what they say. -/
def sameTwice : List (Role × String) → Bool
  | latest :: previous :: _ => Text.trimmed latest.2 == Text.trimmed previous.2
  | _ => false

/-- Whether answers repeat depends on what is said. -/
theorem repeats_eq (messages : List Message) :
    repeats messages = (decide (fewestMessages ≤ (spoken messages).length) &&
      sameTwice ((spoken messages).reverse.filter (·.1 == .assistant))) := by
  have hanswers : (spoken messages).reverse.filter (·.1 == .assistant) =
      spoken (messages.reverse.filter (·.isAssistant)) := by
    rw [spoken, spoken, ← List.map_reverse, List.filter_map]
    rfl
  rw [repeats, length_spoken, hanswers]
  generalize messages.reverse.filter (·.isAssistant) = answers
  rcases answers with _ | ⟨latest, _ | ⟨previous, rest⟩⟩ <;> rfl

theorem run_alike {c d : Conversation} (h : c.Alike d) (context : RequestContext) (now : Moment) :
    Stage.Outcome.Alike (stage.run c context now) (stage.run d context now) := by
  have hrepeats : repeats c.older = repeats d.older := by rw [repeats_eq, repeats_eq, h.older]
  simp only [stage, hrepeats]
  split
  · exact .changed h (h.appendToLastUser _)
  · exact .untouched h

end LoopBreak

namespace ToolDocs

/-- What is given to the last user message depends on what is said. -/
theorem payload_congr (settings : ToolDocsSettings) {a b : List Message} (h : spoken a = spoken b)
    (docs : List Char) :
    payload settings a docs = payload settings b docs := by
  have hsaid (messages : List Message) : sawFailure settings messages =
      (spoken messages).any fun said =>
        !(said.1 == .system) && Text.contains settings.failureMarker.toList said.2.toList := by
    rw [spoken, List.any_map]
    rfl
  rw [payload, payload, hsaid, hsaid, h]

/-- Documentation is cut out of what is said. Where the text is spread over blocks in two ways, the
cuts take different bytes out of different blocks, but the same text is left. -/
theorem move_alike (settings : ToolDocsSettings) {o o' : Outline}
    (h : o.conversation.Alike o'.conversation)
    {found : Found} (hfound : find? settings o.opening.systemMessage.text.toList = some found)
    (hfound' : find? settings o'.opening.systemMessage.text.toList = some found) :
    Stage.Work.EndsAlike (move settings found o.conversation)
      (move settings found o'.conversation) := by
  obtain ⟨content, hleft, hcut, hmove⟩ := move_conversation settings o hfound
  obtain ⟨content', hleft', hcut', hmove'⟩ := move_conversation settings o' hfound'
  have hlast : o'.lastUser?.isSome = o.lastUser?.isSome := by
    rw [← Outline.isSome_lastUserIndex, ← Outline.isSome_lastUserIndex, h.lastUserIndex]
  rw [payload_congr settings h.messages] at hmove
  rw [hmove, hmove', hlast]
  generalize Block.ephemeral
    (String.ofList (payload settings o'.conversation.messages found.part)) = b
  have hgiven := h.pushLastUser b
  split
  · rw [← Outline.editSystem_conversation, ← Outline.editSystem_conversation]
    refine .ok () (hgiven.editSystem (fun m m' hsaid => ?_) fun hnone => ?_)
    · have hrole : m.role = m'.role := congrArg Prod.fst hsaid
      have htext : content.text = content'.text := String.toList_inj.1 (hleft.trans hleft'.symm)
      exact Prod.ext hrole htext
    · -- a stand-in has the same form on both sides, and is cut in the same way
      have hsame : o.opening.systemMessage = o'.opening.systemMessage := calc
        o.opening.systemMessage = (o.editLastUser (·.push b)).opening.systemMessage :=
          (o.systemMessage_editLastUser _).symm
        _ = (o.editLastUser (·.push b)).conversation.standIn := Opening.systemMessage_of_none hnone
        _ = (o'.editLastUser (·.push b)).conversation.standIn := hgiven.standIn
        _ = (o'.editLastUser (·.push b)).opening.systemMessage :=
          (Opening.systemMessage_of_none (hgiven.systemIndex.symm.trans hnone)).symm
        _ = o'.opening.systemMessage := o'.systemMessage_editLastUser _
      rw [hsame] at hcut
      have hcontent : content = content' := Option.some.inj (hcut.symm.trans hcut')
      rw [hcontent, hgiven.standIn]
  · exact .error _ h

theorem run_alike (settings : ToolDocsSettings) {o o' : Outline}
    (h : o.conversation.Alike o'.conversation)
    (context : RequestContext) (now : Moment) :
    Stage.Outcome.Alike ((stage settings).run o.conversation context now)
      ((stage settings).run o'.conversation context now) := by
  have htext : o.opening.systemMessage.text = o'.opening.systemMessage.text := by
    have hsystem := congrArg Prod.snd h.systemMessage
    rwa [Outline.systemMessage_conversation, Outline.systemMessage_conversation] at hsystem
  simp only [stage, Outline.systemMessage_conversation, htext]
  cases hfound : find? settings o'.opening.systemMessage.text.toList with
  | none => exact .untouched h
  | some found =>
    have hmoved := move_alike settings h (by rwa [htext]) hfound
    exact .worked (hmoved.bind fun _ _ _ halike => .ok true halike)

end ToolDocs

namespace Passages

variable {searcher : Searcher} {options : Options} {c d : Conversation}

theorem inject_alike (target : InjectionTarget) (b : Block) (h : c.Alike d) :
    Conversation.EditedAlike (inject target b c) (inject target b d) := by
  cases target with
  | lastUser => exact h.appendToLastUser b
  | system =>
    refine .edited (h.editSystem (fun _ _ hsaid => Message.said_push hsaid b) fun _ => ?_)
    rw [h.standIn]

theorem noted_alike (passages : String) (h : c.Alike d) :
    (noted passages c).Alike (noted passages d) :=
  h.withDiagnostics (by rw [h.diagnostics])

theorem useHits_alike (h : c.Alike d) (hits : List SearchHit) :
    Stage.Work.EndsAlike (useHits options hits c) (useHits options hits d) := by
  simp only [useHits]
  split
  · exact .ok false h
  · refine (Stage.Work.make_alike h (inject_alike options.target _ h)).bind fun _ _ _ halike => ?_
    exact .ok true (noted_alike _ halike)

theorem run_alike (h : c.Alike d) (context : RequestContext) (now : Moment) :
    Stage.Outcome.Alike ((stage searcher options).run c context now)
      ((stage searcher options).run d context now) := by
  simp only [stage, h.query]
  split
  · exact .untouched h
  · exact .ofCall h rfl rfl fun hits => useHits_alike h hits

end Passages

namespace Summary

variable {generator : Generator} {tokenThreshold : Nat} {timeout : Duration}
  {counter : TokenCounter} {c d : Conversation}

theorem compressed_alike (hcounter : counter.HearsText) (h : c.Alike d) (tokensBefore : Nat)
    (summary : String) :
    (compressed counter tokensBefore summary c).Alike
      (compressed counter tokensBefore summary d) := by
  have hreplaced := h.replaceOlder (summaryMessage summary)
  rw [compressed, compressed]
  generalize c.replaceOlder (summaryMessage summary) = r at hreplaced ⊢
  generalize d.replaceOlder (summaryMessage summary) = r' at hreplaced ⊢
  obtain ⟨hreplaced, hshorter⟩ := hreplaced
  refine hshorter.withDiagnostics ?_
  rw [hshorter.diagnostics, hreplaced, hcounter _ _ hshorter.assembled]

theorem useSummary_alike (hcounter : counter.HearsText) (h : c.Alike d) (tokensBefore : Nat)
    (summary : String) :
    Stage.Work.EndsAlike (useSummary counter tokensBefore summary c)
      (useSummary counter tokensBefore summary d) := by
  unfold useSummary
  split
  · exact .error _ h
  · exact .ok true (compressed_alike hcounter h tokensBefore summary)

theorem run_alike (hgenerator : generator.HearsText) (hcounter : counter.HearsText)
    (h : c.Alike d) (context : RequestContext) (now : Moment) :
    Stage.Outcome.Alike ((stage generator tokenThreshold timeout counter).run c context now)
      ((stage generator tokenThreshold timeout counter).run d context now) := by
  have hrequest : spoken (request c.older) = spoken (request d.older) := by
    rw [request, request, spoken_append, spoken_append, h.older]
  have hempty : c.older.isEmpty = d.older.isEmpty := by
    rw [← isEmpty_spoken, h.older, isEmpty_spoken]
  have hcall : generator.service.call (systemPrompt, request c.older) timeout context now =
      generator.service.call (systemPrompt, request d.older) timeout context now := by
    simp only [Service.call, Generator.service,
      hgenerator context now systemPrompt _ _ hrequest]
  have hheard : (Consultation.Request.generation systemPrompt (request c.older)).heard =
      (Consultation.Request.generation systemPrompt (request d.older)).heard := by
    rw [Consultation.Request.heard, Consultation.Request.heard, hrequest]
  simp only [stage, hcounter _ _ h.assembled, hempty]
  split
  · exact .untouched h
  · exact .ofCall h hcall hheard fun summary => useSummary_alike hcounter h _ summary

end Summary

/-- A stage ends alike on conversations that are alike. -/
theorem Stage.Kind.run_alike {k : Kind} (hk : k.HearsText) {o o' : Outline}
    (h : o.conversation.Alike o'.conversation) (context : RequestContext) (now : Moment) :
    Outcome.Alike (k.stage.run o.conversation context now)
      (k.stage.run o'.conversation context now) := by
  cases k with
  | toolDocs settings => exact ToolDocs.run_alike settings h context now
  | loopBreak => exact LoopBreak.run_alike h context now
  | passages searcher options => exact Passages.run_alike h context now
  | summary generator tokenThreshold timeout counter =>
    exact Summary.run_alike hk.1 hk.2 h context now

-- ---------------------------------------------------------------------------
-- Requests side by side
-- ---------------------------------------------------------------------------

namespace Pipeline

/-- Two states of a request that are alike, each joined from parts. -/
structure Progress.Alike (p q : Progress) : Prop where
  left : ∃ o : Outline, p.conversation = o.conversation
  right : ∃ o : Outline, q.conversation = o.conversation
  conversation : p.conversation.Alike q.conversation
  context : p.context = q.context
  now : p.now = q.now
  consultations : p.consultations.map (·.heard) = q.consultations.map (·.heard)

/-- A stage keeps two runs alike. -/
theorem step_alike {k : Stage.Kind} (hk : k.HearsText) {p q : Progress} (h : p.Alike q) :
    (p.step k.stage).Alike (q.step k.stage) := by
  obtain ⟨o, ho⟩ := h.left
  obtain ⟨o', ho'⟩ := h.right
  have halike := h.conversation
  rw [ho, ho'] at halike
  have hout := k.run_alike hk halike p.context p.now
  obtain ⟨o₁, hleft⟩ := (k.effect o p.context p.now).exists_outline
  obtain ⟨o₂, hright⟩ := (k.effect o' p.context p.now).exists_outline
  -- both runs start the stage at the same moment and under the same bounds
  simp only [Progress.step, ← h.context, ← h.now, ho, ho']
  generalize k.stage.run o.conversation p.context p.now = out at hout hleft ⊢
  generalize k.stage.run o'.conversation p.context p.now = out' at hout hright ⊢
  have hrecord : record k.stage.name p.now out = record k.stage.name p.now out' := by
    rw [record, record, hout.result, hout.finished]
  exact {
    left := ⟨_, by rw [hleft]; exact o₁.addRecord_conversation _⟩
    right := ⟨_, by rw [hright]; exact o₂.addRecord_conversation _⟩
    conversation := hout.conversation.withDiagnostics (by
      rw [hout.conversation.diagnostics, hrecord])
    context := hout.context
    now := hout.finished
    consultations := by
      rw [List.map_append, List.map_append, h.consultations, hout.consultations] }

/-- A run of stages keeps two runs alike. -/
theorem run_alike {kinds : List Stage.Kind} (hkinds : ∀ k ∈ kinds, k.HearsText) {p q : Progress}
    (h : p.Alike q) :
    (run (kinds.map (·.stage)) p).Alike (run (kinds.map (·.stage)) q) := by
  induction kinds generalizing p q with
  | nil => exact h
  | cons k rest ih =>
    have hfirst := step_alike (hkinds k List.mem_cons_self) h
    exact ih (fun k hk => hkinds k (List.mem_cons_of_mem _ hk)) hfirst

end Pipeline

theorem Plan.hearsText_kinds (plan : Plan) (identity : Identity) {services : Collaborators}
    (hgenerator : services.generator.HearsText) (hcounter : services.counter.HearsText) :
    ∀ k ∈ plan.kinds identity services, k.HearsText := by
  intro k hk
  obtain ⟨searcher, hkinds⟩ := plan.kinds_sublist identity services
  have hk := hkinds.subset hk
  simp only [List.mem_cons, List.not_mem_nil, or_false] at hk
  rcases hk with rfl | rfl | rfl | rfl
  · trivial
  · trivial
  · trivial
  · exact ⟨hgenerator, hcounter⟩

theorem Conversation.Alike.inLanguage {c d : Conversation} (h : c.Alike d)
    (language : Option String) :
    (c.inLanguage language).Alike (d.inLanguage language) := by
  cases language with
  | none => exact h
  | some language =>
    exact h.editSystem (fun _ _ hsaid => Message.said_push hsaid _) fun _ => by rw [h.standIn]

/-- Two arranged requests that say the same, with the same diagnostics and numbers, after calls in
which the services heard the same. -/
structure Arranged.Alike (out out' : Arranged) : Prop where
  messages : spoken out.messages = spoken out'.messages
  diagnostics : out.diagnostics = out'.diagnostics
  tokensBefore : out.tokensBefore = out'.tokensBefore
  tokensAfter : out.tokensAfter = out'.tokensAfter
  language : out.language = out'.language
  context : out.context = out'.context
  finished : out.finished = out'.finished
  consultations : out.consultations.map (·.heard) = out'.consultations.map (·.heard)

theorem Pipeline.Progress.Alike.arranged {p q : Progress} (h : p.Alike q)
    {counter : TokenCounter} (hcounter : counter.HearsText) (language : Option String)
    {a b : List Message} (hab : spoken a = spoken b) :
    (p.arranged counter language a).Alike (q.arranged counter language b) :=
  have hfinal := h.conversation.inLanguage language
  { messages := hfinal.assembled
    diagnostics := hfinal.diagnostics
    tokensBefore := hcounter _ _ hab
    tokensAfter := hcounter _ _ hfinal.assembled
    language := rfl
    context := h.context
    finished := h.now
    consultations := h.consultations }

/-- Requests that say the same are arranged alike, whatever the plan and whatever the services do,
as long as the generator and the counter do not look at the form of what they are given. -/
theorem arrange_same_text (plan : Plan) (identity : Identity) {services : Collaborators}
    (hgenerator : services.generator.HearsText) (hcounter : services.counter.HearsText)
    (context : RequestContext) (now : Moment) {a b : List Message} (hne : a ≠ [])
    (h : spoken a = spoken b) :
    ∃ out out', arrange plan identity services context now a = .ok out ∧
      arrange plan identity services context now b = .ok out' ∧ out.Alike out' := by
  have hne' : b ≠ [] := by
    rintro rfl
    exact hne (List.map_eq_nil_iff.1 h)
  obtain ⟨c, d, hc, hd, halike⟩ := Conversation.ofMessages?_alike h hne plan.recentWindow
  -- both conversations are fresh, hence joined from parts
  have hleft := Except.ok.inj (hc.symm.trans (Outline.ofMessages?_eq hne plan.recentWindow))
  have hright := Except.ok.inj (hd.symm.trans (Outline.ofMessages?_eq hne' plan.recentWindow))
  have hstart : Pipeline.Progress.Alike { conversation := c, context, now }
      { conversation := d, context, now } :=
    ⟨⟨_, hleft⟩, ⟨_, hright⟩, halike, rfl, rfl, rfl⟩
  have hrun := Pipeline.run_alike (plan.hearsText_kinds identity hgenerator hcounter) hstart
  rw [← plan.stages_eq_kinds] at hrun
  exact ⟨_, _, arrange_eq identity services context now hc,
    arrange_eq identity services context now hd, hrun.arranged hcounter _ h⟩

/-- A system text in two blocks with an image in between, for a generator that repeats what it
hears. -/
theorem arrange_same_text_blocks :
    let echo : Generator := ⟨fun _ _ _ messages =>
      { answer := some { after := 1, result := .ok (String.join ((spoken messages).map (·.2))) } }⟩
    let plain : List Message := [.system (.plain "Rules"), .user (.plain "Why?")]
    let spread : List Message :=
      [.system (.blocks [.ofText "Ru", { kind := .image, text := "" }, .ofText "les"]),
        .user (.plain "Why?")]
    echo.HearsText ∧ TokenCounter.heuristic.HearsText ∧ plain ≠ [] ∧ spoken plain = spoken spread ∧
      ∃ out out', arrange (Settings.plan {}) {} { generator := echo } {} 0 plain = .ok out ∧
        arrange (Settings.plan {}) {} { generator := echo } {} 0 spread = .ok out' ∧
          out.Alike out' := by
  intro echo plain spread
  have hears : echo.HearsText := by
    intro context now systemPrompt a b h
    simp only [echo, h]
  have hne : plain ≠ [] := List.cons_ne_nil _ _
  have hspoken : spoken plain = spoken spread := by rfl
  exact ⟨hears, TokenCounter.hearsText_heuristic, hne, hspoken,
    arrange_same_text (Settings.plan {}) {} hears TokenCounter.hearsText_heuristic {} 0 hne hspoken⟩

end PromptBudget
