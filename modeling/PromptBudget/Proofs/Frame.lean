import PromptBudget.Proofs.Edits
import PromptBudget.Proofs.Plans

/-!
# PromptBudget — what arranging leaves alone

Whatever a plan asks for and whatever goes wrong, an arranged request is the request as it came
except for four places: a system message that may come in front if there was none, the content of
the system message, blocks added to the last user message, and the older part, which is there as it
was or is one summary.

What a run of stages may do is the relation `Outline.Evolves`. The edits of each kind of stage are
such an evolution (`Stage.Kind.Changes.evolves`), evolutions compose, and so a pipeline makes one
(`Pipeline.run_evolves`).

Main results:

* `Pipeline.run_evolves` — a run of stages is an evolution that adds to the last user message, in
  the order of the stages, what each of them may add.
* `arrange_keeps` — a request that is not empty is always arranged, and this is what it looks like
  then.
-/

namespace PromptBudget

-- ---------------------------------------------------------------------------
-- Blocks at the end of a message
-- ---------------------------------------------------------------------------

/-- A message with some blocks added at the end of its content. Without blocks its content keeps its
form. -/
def Message.extended (added : List Block) (m : Message) : Message :=
  if added = [] then m else { m with content := .blocks (m.content.toBlocks ++ added) }

/-- What is left of a message when its content is taken away. -/
def Message.envelope (m : Message) : Role × Json.Extras × Origin := (m.role, m.extras, m.origin)

theorem Message.extended_nil : Message.extended [] = id := rfl

theorem Message.extended_extended (a b : List Block) (m : Message) :
    (m.extended a).extended b = m.extended (a ++ b) := by
  by_cases ha : a = []
  · rw [ha, extended_nil]
    rfl
  · by_cases hb : b = []
    · rw [hb, extended_nil, List.append_nil]
      rfl
    · simp [extended, ha, hb, Content.toBlocks]

-- ---------------------------------------------------------------------------
-- Evolutions
-- ---------------------------------------------------------------------------

namespace Outline

/-- The messages before the system message, if there is one. -/
def lead? (o : Outline) : Option Segment :=
  match o.opening with
  | .standIn _ => none
  | .real lead _ => some lead

theorem recent_editLastUser (f : Message → Message) (o : Outline) :
    (o.editLastUser f).recent = o.recent.edit f := by
  unfold editLastUser
  split
  · rfl
  · next hnone => rw [Segment.edit_of_none hnone]

theorem lead?_editLastUser (f : Message → Message) (o : Outline) :
    (o.editLastUser f).lead? =
      if o.recent.marked.isSome then o.lead? else o.lead?.map (·.edit f) := by
  unfold editLastUser
  split
  · next hsome => rw [hsome]; rfl
  · next hnone =>
    rw [hnone]
    cases hopening : o.opening <;> simp [lead?, hopening, Opening.editMarked]

theorem lead?_editSystem (f : Message → Message) (o : Outline) :
    (o.editSystem f).lead? = o.lead? := by
  cases hopening : o.opening <;> simp [lead?, editSystem, hopening, Opening.editSystem]

theorem systemMessage_editSystem (f : Message → Message) (o : Outline) :
    (o.editSystem f).opening.systemMessage = f o.opening.systemMessage := by
  cases hopening : o.opening <;>
    simp [editSystem, hopening, Opening.editSystem, Opening.systemMessage]

/-- Editing the last user message depends on nothing but the two places where it may be. -/
theorem editLastUser_congr {o₁ o₂ : Outline} (f : Message → Message) (hlead : o₁.lead? = o₂.lead?)
    (hrecent : o₁.recent = o₂.recent) :
    (o₁.editLastUser f).lead? = (o₂.editLastUser f).lead? ∧
      (o₁.editLastUser f).recent = (o₂.editLastUser f).recent := by
  rw [lead?_editLastUser, lead?_editLastUser, recent_editLastUser, recent_editLastUser,
    hlead, hrecent]
  exact ⟨rfl, rfl⟩

theorem editLastUser_editLastUser (f g : Message → Message) (o : Outline) :
    (o.editLastUser f).editLastUser g = o.editLastUser fun m => g (f m) := by
  cases hrecent : o.recent.marked with
  | some m => simp [editLastUser, hrecent, Segment.edit]
  | none =>
    cases hopening : o.opening <;>
      simp [editLastUser, hrecent, hopening, Opening.editMarked, Segment.edit, Function.comp_def]

theorem editLastUser_id (o : Outline) : o.editLastUser id = o := by
  unfold editLastUser
  split
  · rw [Segment.edit_id]
  · cases hopening : o.opening with
    | standIn m => rw [Opening.editMarked, ← hopening]
    | real lead m => rw [Opening.editMarked, Segment.edit_id, ← hopening]

/-- An outline after a run of stages that added some blocks to the last user message. -/
structure Evolves (o : Outline) (added : List Block) (o' : Outline) : Prop where
  lead : o'.lead? = (o.editLastUser (·.extended added)).lead?
  recent : o'.recent = (o.editLastUser (·.extended added)).recent
  system : o'.opening.systemMessage.envelope = o.opening.systemMessage.envelope
  /-- The older part is as it was, or a summary that is noted. -/
  older : o'.older = o.older ∧ o'.diagnostics.compression = o.diagnostics.compression ∨
    (∃ m, o'.older = [m] ∧ m.role = .user ∧ m.isSummary = true) ∧
      o'.diagnostics.compression.isSome = true
  /-- No cut has failed on the way. -/
  cut : (∀ r ∈ o.diagnostics.stages, r.error ≠ some ToolDocs.cutFailed.message) →
    ∀ r ∈ o'.diagnostics.stages, r.error ≠ some ToolDocs.cutFailed.message

namespace Evolves

/-- A stage that only touches the diagnostics is an evolution that adds nothing. -/
theorem diagnosed (o : Outline) {d : Diagnostics}
    (hcompression : d.compression = o.diagnostics.compression)
    (hcut : (∀ r ∈ o.diagnostics.stages, r.error ≠ some ToolDocs.cutFailed.message) →
      ∀ r ∈ d.stages, r.error ≠ some ToolDocs.cutFailed.message) :
    o.Evolves [] (o.withDiagnostics d) where
  lead := by rw [Message.extended_nil, editLastUser_id]; rfl
  recent := by rw [Message.extended_nil, editLastUser_id]; rfl
  system := rfl
  older := Or.inl ⟨rfl, hcompression⟩
  cut := hcut

theorem refl (o : Outline) : o.Evolves [] o := diagnosed o rfl id

/-- Editing the content of the system message. -/
theorem editSystem (o : Outline) (f : Message → Message) (hf : ∀ m, (f m).envelope = m.envelope) :
    o.Evolves [] (o.editSystem f) where
  lead := by rw [Message.extended_nil, editLastUser_id, lead?_editSystem]
  recent := by rw [Message.extended_nil, editLastUser_id]; rfl
  system := by rw [systemMessage_editSystem, hf]
  older := Or.inl ⟨rfl, rfl⟩
  cut := id

/-- Adding a block to the last user message. -/
theorem pushLastUser (o : Outline) (b : Block) : o.Evolves [b] (o.editLastUser (·.push b)) where
  lead := rfl
  recent := rfl
  system := by rw [systemMessage_editLastUser]
  older := Or.inl ⟨older_editLastUser o _, by rw [diagnostics_editLastUser]⟩
  cut := by rw [diagnostics_editLastUser]; exact id

/-- Putting a noted summary in the place of the older part. -/
theorem summarise (o : Outline) (summary : String) (stats : CompressionStats) :
    o.Evolves [] ((o.replaceOlder (Summary.summaryMessage summary)).withDiagnostics
      { o.diagnostics with compression := some stats }) where
  lead := by rw [Message.extended_nil, editLastUser_id]; rfl
  recent := by rw [Message.extended_nil, editLastUser_id]; rfl
  system := rfl
  older := Or.inr ⟨⟨_, rfl, rfl, rfl⟩, rfl⟩
  cut := id

/-- One run of stages after another. -/
theorem trans {o₁ o₂ o₃ : Outline} {a b : List Block} (h : o₁.Evolves a o₂) (h' : o₂.Evolves b o₃) :
    o₁.Evolves (a ++ b) o₃ := by
  have hboth := editLastUser_congr (·.extended b) h.lead h.recent
  have hadded : (fun m : Message => (m.extended a).extended b) = (·.extended (a ++ b)) := by
    funext m
    exact Message.extended_extended a b m
  rw [editLastUser_editLastUser, hadded] at hboth
  -- a summary of a summary is a summary, and before the first one the older part is as it was
  refine ⟨h'.lead.trans hboth.1, h'.recent.trans hboth.2, h'.system.trans h.system, ?_,
    fun hcut => h'.cut (h.cut hcut)⟩
  rcases h'.older with ⟨holder, hcompression⟩ | hreplaced
  · rw [holder, hcompression]
    exact h.older
  · exact Or.inr hreplaced

end Evolves

end Outline

-- ---------------------------------------------------------------------------
-- Stages
-- ---------------------------------------------------------------------------

namespace Stage.Kind

/-- The blocks that a stage may add to the last user message. -/
inductive Adds : Kind → List Block → Prop where
  | nothing (k : Kind) : Adds k []
  | toolDocs (settings : ToolDocsSettings) (docs : String) :
      Adds (.toolDocs settings) [.ephemeral docs]
  | loopBreak : Adds .loopBreak [.ofText LoopBreak.intervention]
  | passages (searcher : Searcher) (options : Passages.Options) (passages : String) :
      Adds (.passages searcher options) [Passages.block passages]

/-- The edits of a stage are an evolution. -/
theorem Changes.evolves {k : Kind} {o o' : Outline} (h : k.Changes o o') :
    ∃ added, k.Adds added ∧ o.Evolves added o' := by
  cases h with
  | @toolDocs settings found content =>
    have hcut := Outline.Evolves.editSystem (o.editLastUser (·.push (.ephemeral
      (String.ofList (ToolDocs.payload settings o.conversation.messages found.part)))))
      (fun m => { m with content }) fun _ => rfl
    exact ⟨_, .toolDocs settings _, (Outline.Evolves.pushLastUser o _).trans hcut⟩
  | loopBreak => exact ⟨_, .loopBreak, .pushLastUser o _⟩
  | @passagesToUser searcher options passages =>
    have hnoted := Outline.Evolves.diagnosed (o.editLastUser (·.push (Passages.block passages)))
      (d := { o.diagnostics with passages := some passages })
        (by rw [Outline.diagnostics_editLastUser])
      (by rw [Outline.diagnostics_editLastUser]; exact id)
    exact ⟨_, .passages searcher options passages, (Outline.Evolves.pushLastUser o _).trans hnoted⟩
  | passagesToSystem passages =>
    have hnoted := Outline.Evolves.diagnosed (o.editSystem (·.push (Passages.block passages)))
      (d := { o.diagnostics with passages := some passages }) rfl id
    exact ⟨[], .nothing _,
      (Outline.Evolves.editSystem o (·.push (Passages.block passages)) fun _ => rfl).trans hnoted⟩
  | summary summary stats => exact ⟨[], .nothing _, .summarise o summary stats⟩

end Stage.Kind

namespace Pipeline

/-- The blocks that some stages may add to the last user message, one after another. -/
inductive Adds : List Stage.Kind → List Block → Prop where
  | nil : Adds [] []
  | cons {k : Stage.Kind} {rest : List Stage.Kind} {a b : List Block} (first : k.Adds a)
      (others : Adds rest b) :
      Adds (k :: rest) (a ++ b)

/-- A record that tells of no failed cut. -/
theorem recorded_evolves (o : Outline) {r : StageRecord}
    (hr : r.error ≠ some ToolDocs.cutFailed.message) :
    o.Evolves [] (o.withDiagnostics (o.diagnostics.add r)) := by
  refine .diagnosed o rfl fun hcut x hx => ?_
  rcases List.mem_append.1 hx with hx | hx
  · exact hcut x hx
  · rw [List.mem_singleton.1 hx]
    exact hr

/-- A stage of a pipeline and its record are an evolution. -/
theorem step_evolves {p : Progress} {o : Outline} (hp : p.conversation = o.conversation)
    (k : Stage.Kind) :
    ∃ o' added, (p.step k.stage).conversation = o'.conversation ∧ k.Adds added ∧
      o.Evolves added o' := by
  obtain ⟨o', hleaves, hstep⟩ := step_leaves hp k
  have hrecorded := recorded_evolves o' hleaves.error
  rcases hleaves.edits with ⟨-, rfl⟩ | ⟨-, hchanges⟩
  · -- only the record is new
    exact ⟨_, [], hstep, .nothing k, hrecorded⟩
  · obtain ⟨added, hadds, hevolves⟩ := hchanges.evolves
    have hnext := hevolves.trans hrecorded
    rw [List.append_nil] at hnext
    exact ⟨_, added, hstep, hadds, hnext⟩

/-- A run of stages is an evolution that adds what the stages may add. -/
theorem run_evolves {p : Progress} {o : Outline} (hp : p.conversation = o.conversation)
    (kinds : List Stage.Kind) :
    ∃ o' added, (run (kinds.map (·.stage)) p).conversation = o'.conversation ∧ Adds kinds added ∧
      o.Evolves added o' := by
  induction kinds generalizing p o with
  | nil => exact ⟨o, [], hp, .nil, .refl o⟩
  | cons k rest ih =>
    obtain ⟨o₁, a, hstep, hfirst, hevolves⟩ := step_evolves hp k
    obtain ⟨o₂, b, hrun, hothers, hrest⟩ := ih hstep
    exact ⟨o₂, a ++ b, hrun, .cons hfirst hothers, hevolves.trans hrest⟩

/-- A stage may add nothing, so it may be left out. -/
theorem adds_sublist {kinds more : List Stage.Kind} {added : List Block} (h : Adds kinds added)
    (hkinds : kinds.Sublist more) : Adds more added := by
  induction hkinds generalizing added with
  | slnil => exact h
  | cons k _ ih => exact .cons (.nothing k) (ih h)
  | cons_cons k _ ih =>
    obtain _ | ⟨hfirst, hothers⟩ := h
    exact .cons hfirst (ih hothers)

end Pipeline

/-- The stages of a plan add at most documentation, a word against loops, and passages, in this
order. -/
theorem Plan.adds_kinds (plan : Plan) (identity : Identity) (services : Collaborators)
    {added : List Block} (h : Pipeline.Adds (plan.kinds identity services) added) :
    ∃ docs passages,
      added.Sublist [.ephemeral docs, .ofText LoopBreak.intervention, Passages.block passages] := by
  obtain ⟨searcher, hkinds⟩ := plan.kinds_sublist identity services
  have hall := Pipeline.adds_sublist h hkinds
  obtain _ | @⟨_, _, a, _, hdocs, hothers⟩ := hall
  obtain _ | @⟨_, _, b, _, hloop, hothers⟩ := hothers
  obtain _ | @⟨_, _, c, _, hpassages, hothers⟩ := hothers
  obtain _ | ⟨hsummary, hothers⟩ := hothers
  have ha : ∃ docs, a.Sublist [.ephemeral docs] := by
    cases hdocs with
    | nothing => exact ⟨"", List.nil_sublist _⟩
    | toolDocs settings docs => exact ⟨docs, List.Sublist.refl _⟩
  have hb : b.Sublist [.ofText LoopBreak.intervention] := by
    cases hloop with
    | nothing => exact List.nil_sublist _
    | loopBreak => exact List.Sublist.refl _
  have hc : ∃ passages, c.Sublist [Passages.block passages] := by
    cases hpassages with
    | nothing => exact ⟨"", List.nil_sublist _⟩
    | passages searcher options passages => exact ⟨passages, List.Sublist.refl _⟩
  obtain ⟨docs, ha⟩ := ha
  obtain ⟨passages, hc⟩ := hc
  cases hsummary
  cases hothers
  exact ⟨docs, passages, ha.append (hb.append (hc.append (List.Sublist.refl [])))⟩

-- ---------------------------------------------------------------------------
-- Arranged requests
-- ---------------------------------------------------------------------------

namespace Conversation

/-- The messages before the system message. -/
def lead (c : Conversation) : List Message := c.messages.take (c.systemIndex.getD 0)

/-- The system message, if it is not a stand-in. -/
def real? (c : Conversation) : Option Message := c.messages.find? (·.isSystem)

/-- The conversation with some blocks added to its last user message, if there is one. -/
def extendLastUser (added : List Block) (c : Conversation) : Conversation :=
  (c.editLastUser? (·.extended added)).getD c

end Conversation

/-- The messages of an arranged request in parts. -/
structure Arranged.Parts where
  /-- What has come in front of everything. -/
  front : List Message
  /-- What is before the system message. -/
  lead : List Message
  /-- The system message. -/
  system : Option Message
  /-- The older part. -/
  older : List Message
  /-- The recent part. -/
  recent : List Message

/-- The messages of the parts in order. -/
def Arranged.Parts.messages (p : Parts) : List Message :=
  p.front ++ p.lead ++ p.system.toList ++ p.older ++ p.recent

/-- The parts of an arranged request are those of the conversation that it was, with some blocks
added to the last user message. -/
structure Arranged.Parts.Keep (p : Parts) (c : Conversation) (added : List Block)
    (d : Diagnostics) : Prop where
  /-- A system message comes in front only if there was none. -/
  front : p.front = [] ∨ ∃ m, p.front = [m] ∧ m.role = .system ∧ c.real? = none
  lead : p.lead = (c.extendLastUser added).lead
  /-- The content of the system message may be another. -/
  system : p.system.map (·.envelope) = c.real?.map (·.envelope)
  /-- The older part is as it was if no compression is noted, else one summary. -/
  older : d.compression = none → p.older = c.older
  summary : d.compression.isSome = true → ∃ m, p.older = [m] ∧ m.role = .user ∧ m.isSummary = true
  recent : p.recent = (c.extendLastUser added).recent

namespace Outline

theorem lead_eq (o : Outline) : o.opening.lead = o.lead?.elim [] (·.messages) := by
  cases hopening : o.opening <;> simp [lead?, hopening, Opening.lead]

theorem lead_conversation (o : Outline) : o.conversation.lead = o.opening.lead := by
  cases hopening : o.opening with
  | standIn m => simp [Conversation.lead, hopening, Opening.systemIndex, Opening.lead]
  | real lead m =>
    simp only [Conversation.lead, systemIndex_conversation, messages_conversation, hopening,
      Opening.systemIndex, Opening.messages, Option.getD_some, List.append_assoc, List.take_left']
    rfl

theorem extendLastUser_conversation (o : Outline) (added : List Block) :
    o.conversation.extendLastUser added = (o.editLastUser (·.extended added)).conversation := by
  rw [Conversation.extendLastUser, editLastUser?_conversation]
  cases h : o.lastUser? with
  | none => rw [o.editLastUser_of_none h]; rfl
  | some m => rfl

theorem Sound.real?_conversation {o : Outline} (ho : o.Sound) :
    o.conversation.real? = o.opening.real? := by
  rw [Conversation.real?, List.find?_eq_bind_findIdx?_getElem?, ← ho.systemIndex_eq]
  cases hopening : o.opening <;>
    simp [hopening, Opening.systemIndex, Opening.messages, Opening.real?]

theorem messages_parts {o : Outline} (ho : o.Sound) :
    o.conversation.messages =
      o.conversation.lead ++ o.conversation.real?.toList ++ o.conversation.older ++
        o.conversation.recent := by
  rw [lead_conversation, ho.real?_conversation, older_conversation, recent_conversation,
    ← Opening.messages_eq]
  rfl

/-- The parts of an outline as they are sent. -/
def parts (o : Outline) : Arranged.Parts where
  front := o.opening.sent
  lead := o.opening.lead
  system := o.opening.real?
  older := o.older
  recent := o.recent.messages

theorem messages_parts_assembled (o : Outline) : o.parts.messages = o.assembled := by
  rw [assembled, Opening.messages_eq, ← List.append_assoc]
  rfl

theorem real?_eq (o : Outline) :
    o.opening.real? = o.lead?.map fun _ => o.opening.systemMessage := by
  cases hopening : o.opening <;> simp [lead?, hopening, Opening.real?, Opening.systemMessage]

/-- After an evolution the system message is still there, with another content perhaps. -/
theorem Evolves.real? {o o' : Outline} {added : List Block} (h : o.Evolves added o') :
    o'.opening.real?.map (·.envelope) = o.opening.real?.map (·.envelope) := by
  rw [real?_eq, real?_eq, Option.map_map, Option.map_map, h.lead, lead?_editLastUser]
  simp only [Function.comp_def, h.system]
  split
  · rfl
  · rw [Option.map_map]
    rfl

/-- What comes in front after an evolution is a system message, and only if there is no other. -/
theorem Evolves.sent {o o' : Outline} {added : List Block} (ho : o.Sound) (h : o.Evolves added o') :
    o'.opening.sent = [] ∨ ∃ m, o'.opening.sent = [m] ∧ m.role = .system ∧
      o.opening.real? = none := by
  have hrole : o'.opening.systemMessage.role = .system :=
    (congrArg Prod.fst h.system).trans ho.opening.role_systemMessage
  have hreal := h.real?
  cases hopening : o'.opening with
  | real lead m => exact Or.inl rfl
  | standIn m =>
    -- there was no system message at the start either: an evolution takes none away
    rw [hopening] at hrole hreal
    by_cases hempty : m.content.isEmpty = true
    · exact Or.inl (by rw [Opening.sent, if_pos hempty])
    · exact Or.inr ⟨m, by rw [Opening.sent, if_neg hempty], hrole,
        Option.map_eq_none_iff.1 hreal.symm⟩

/-- After an evolution the parts to be sent are those of the conversation at its start. -/
theorem Evolves.keep {o o' : Outline} {added : List Block} (ho : o.Sound)
    (hfresh : o.diagnostics.compression = none)
    (h : o.Evolves added o') : o'.parts.Keep o.conversation added o'.diagnostics where
  front := by
    rw [ho.real?_conversation]
    exact h.sent ho
  lead := by
    rw [extendLastUser_conversation, lead_conversation, lead_eq, ← h.lead, ← lead_eq]
    rfl
  system := by
    rw [ho.real?_conversation]
    exact h.real?
  older hnone := by
    rcases h.older with ⟨holder, -⟩ | ⟨-, hsome⟩
    · rw [older_conversation, ← holder]
      rfl
    · rw [hnone] at hsome
      cases hsome
  summary hsome := by
    rcases h.older with ⟨-, hsame⟩ | ⟨hsummary, -⟩
    · rw [hsame, hfresh] at hsome
      cases hsome
    · exact hsummary
  recent := by
    rw [extendLastUser_conversation, recent_conversation, ← h.recent]
    rfl

/-- Saying the language is an evolution that adds nothing to the last user message. -/
theorem inLanguage_evolves (o : Outline) (language : Option String) :
    ∃ o', o.conversation.inLanguage language = o'.conversation ∧ o.Evolves [] o' := by
  cases language with
  | none => exact ⟨o, rfl, .refl o⟩
  | some language =>
    exact ⟨_, editSystem_conversation o (·.push (languageBlock language)),
      .editSystem o _ fun _ => rfl⟩

end Outline

/-- An arranged request is the conversation that it was, part by part: at the end of its last user
message stand at most documentation, a word against loops, and passages, in this order. No cut has
ended inside a character. -/
structure Arranged.Keeps (out : Arranged) (c : Conversation) : Prop where
  parts : ∃ (parts : Parts) (docs passages : String) (added : List Block),
    out.messages = parts.messages ∧ parts.Keep c added out.diagnostics ∧
      added.Sublist [.ephemeral docs, .ofText LoopBreak.intervention, Passages.block passages]
  cut : ∀ r ∈ out.diagnostics.stages, r.error ≠ some ToolDocs.cutFailed.message

/-- A request that is not empty is always arranged, whatever the plan, and whatever its services do.
What is sent are the parts that it has with the window of the plan, in their order: the messages
before and after the system message but for the blocks added to the last user message, the system
message with its fields, and the older part or a summary of it. -/
theorem arrange_keeps (plan : Plan) (identity : Identity) (services : Collaborators)
    (context : RequestContext) (now : Moment) {messages : List Message} (hne : messages ≠ []) :
    ∃ c out, Conversation.ofMessages? messages plan.recentWindow = .ok c ∧
      messages = c.lead ++ c.real?.toList ++ c.older ++ c.recent ∧ c.KeepsPositions c ∧
      arrange plan identity services context now messages = .ok out ∧ out.Keeps c := by
  -- the outline of the messages, and what is known about it
  have hparse := Outline.ofMessages?_eq hne plan.recentWindow
  have ho := Outline.sound_ofMessages messages plan.recentWindow
  have hmessages := Outline.messages_parts ho
  have hfresh := Outline.diagnostics_ofMessages messages plan.recentWindow
  rw [Outline.messages_ofMessages] at hmessages
  generalize Outline.ofMessages messages plan.recentWindow = o at hparse ho hmessages hfresh
  -- the stages and the language are one evolution of it
  obtain ⟨o₁, added, hrun, hadds, hstages⟩ := Pipeline.run_evolves
    (p := { conversation := o.conversation, context, now }) rfl (plan.kinds identity services)
  obtain ⟨o₂, hlanguage, hfinal⟩ := o₁.inLanguage_evolves identity.language?
  have hevolves := hstages.trans hfinal
  rw [List.append_nil] at hevolves
  have hout := arrange_eq identity services context now hparse
  rw [plan.stages_eq_kinds] at hout
  generalize (Pipeline.run ((plan.kinds identity services).map (·.stage))
    { conversation := o.conversation, context, now }) = p at hrun hout
  generalize identity.language? = language at hlanguage hout
  -- what is sent is read off the outline at the end
  have hsent : (p.arranged services.counter language messages).messages = o₂.parts.messages := by
    rw [Outline.messages_parts_assembled, ← Outline.assembled_conversation, ← hlanguage, ← hrun]
    rfl
  have hdiagnostics :
      (p.arranged services.counter language messages).diagnostics = o₂.diagnostics := by
    rw [← Outline.diagnostics_conversation, ← hlanguage, ← hrun]
    rfl
  obtain ⟨docs, passages, hsublist⟩ := plan.adds_kinds identity services hadds
  refine ⟨o.conversation, _, hparse, hmessages, (Outline.Follows.refl ho).keepsPositions ho, hout,
    ?_, ?_⟩
  · refine ⟨o₂.parts, docs, passages, added, hsent, ?_, hsublist⟩
    rw [hdiagnostics]
    exact hevolves.keep ho (by rw [hfresh])
  · rw [hdiagnostics]
    exact hevolves.cut (by simp [hfresh])

/-- The last user message may stand before the system message, and services may fail. -/
theorem arrange_keeps_user_first :
    ([.user (.plain "Why?"), .system (.plain "Rules"), .assistant (.plain "So.")] :
        List Message) ≠ [] ∧
      ∃ c out, Conversation.ofMessages?
          [.user (.plain "Why?"), .system (.plain "Rules"), .assistant (.plain "So.")] 1 = .ok c ∧
        [.user (.plain "Why?"), .system (.plain "Rules"), .assistant (.plain "So.")] =
          c.lead ++ c.real?.toList ++ c.older ++ c.recent ∧ c.KeepsPositions c ∧
        arrange (Settings.plan {}) {} { generator := ⟨fun _ _ _ _ => .refused .rateLimited⟩ } {} 0
          [.user (.plain "Why?"), .system (.plain "Rules"), .assistant (.plain "So.")] = .ok out ∧
            out.Keeps c :=
  ⟨List.cons_ne_nil _ _, arrange_keeps (Settings.plan {}) {}
    { generator := ⟨fun _ _ _ _ => .refused .rateLimited⟩ } {} 0
    (List.cons_ne_nil _ _)⟩

end PromptBudget
