import PromptBudget.Arrange
import PromptBudget.Proofs.Cutting
import PromptBudget.Proofs.Outline

/-!
# PromptBudget — what a stage can do

A stage has several ways to end: before it does anything, after its service has failed, or after its
edits. Whichever it takes, either it keeps the conversation and does not say that it changed it, or
it says so and has made the edits of its kind, all of them.

Nothing takes an edit back, so this is a matter of the order of the edits: the only one that can
fail comes first. A stage that moves tool documentation gives it to the last user message before it
cuts it out of the system message, and the cut never fails.

`Stage.Kind.Changes` lists these edits, one case for each kind of stage. What is to be shown of the
stages is shown by cases on it, without looking at how they run.

Main results:

* `Stage.Kind.effect` — each stage has this effect, on joined parts, under any bounds, with any
  service.
* `ToolDocs.move_conversation` — documentation that was found is moved as a whole, or nothing
  happens.
-/

namespace PromptBudget

-- ---------------------------------------------------------------------------
-- Kinds of stages
-- ---------------------------------------------------------------------------

/-- A stage that a plan can ask for. -/
inductive Stage.Kind where
  | toolDocs (settings : ToolDocsSettings)
  | loopBreak
  | passages (searcher : Searcher) (options : Passages.Options)
  | summary (generator : Generator) (tokenThreshold : Nat) (timeout : Duration)
      (counter : TokenCounter)

namespace Stage.Kind

/-- The stage of a kind. -/
def stage : Kind → Stage
  | toolDocs settings => ToolDocs.stage settings
  | loopBreak => LoopBreak.stage
  | passages searcher options => Passages.stage searcher options
  | summary generator tokenThreshold timeout counter =>
    Summary.stage generator tokenThreshold timeout counter

/-- The parts of a conversation after a stage has changed it. -/
inductive Changes (o : Outline) : Kind → Outline → Prop where
  | toolDocs {settings : ToolDocsSettings} (found : ToolDocs.Found) (content : Content)
      (hlast : o.lastUser?.isSome = true)
      (htext : content.text.toList = found.before ++ found.after) :
      Changes o (.toolDocs settings)
        ((o.editLastUser (·.push (.ephemeral
            (String.ofList (ToolDocs.payload settings o.conversation.messages
              found.part))))).editSystem
          fun m => { m with content })
  | loopBreak (hlast : o.lastUser?.isSome = true) :
      Changes o .loopBreak (o.editLastUser (·.push (.ofText LoopBreak.intervention)))
  | passagesToUser {searcher : Searcher} {options : Passages.Options} (passages : String)
      (hlast : o.lastUser?.isSome = true) :
      Changes o (.passages searcher options)
        ((o.editLastUser (·.push (Passages.block passages))).withDiagnostics
          { o.diagnostics with passages := some passages })
  | passagesToSystem {searcher : Searcher} {options : Passages.Options} (passages : String) :
      Changes o (.passages searcher options)
        ((o.editSystem (·.push (Passages.block passages))).withDiagnostics
          { o.diagnostics with passages := some passages })
  | summary {generator : Generator} {tokenThreshold : Nat} {timeout : Duration}
      {counter : TokenCounter} (summary : String) (stats : CompressionStats)
      (holder : o.older ≠ []) :
      Changes o (.summary generator tokenThreshold timeout counter)
        ((o.replaceOlder (Summary.summaryMessage summary)).withDiagnostics
          { o.diagnostics with compression := some stats })

end Stage.Kind

/-- What the work of a stage does to the parts of a conversation. -/
inductive Stage.Work.Effect (k : Stage.Kind) (o : Outline) (work : Stage.Work Bool) : Prop where
  /-- It does nothing. -/
  | kept (hwork : work o.conversation = .ok false o.conversation)
  /-- Something goes wrong, and nothing has been done before. -/
  | failed (e : StageError) (he : e ≠ ToolDocs.cutFailed)
      (hwork : work o.conversation = .error e o.conversation)
  /-- It makes the edits of its kind, all of them, and says so. -/
  | changed (o' : Outline) (hchanges : k.Changes o o')
      (hwork : work o.conversation = .ok true o'.conversation)

/-- How a stage ends on the parts of a conversation. -/
inductive Stage.Outcome.Effect (k : Stage.Kind) (o : Outline) (out : Stage.Outcome) : Prop where
  /-- It keeps the conversation and does not say that it changed it. -/
  | kept (hresult : out.result = .ok false ∨ ∃ e, out.result = .error e ∧ e ≠ ToolDocs.cutFailed)
      (hconversation : out.conversation = o.conversation)
  /-- It says that it changed the conversation, and has made the edits of its kind. -/
  | changed (o' : Outline) (hresult : out.result = .ok true) (hchanges : k.Changes o o')
      (hconversation : out.conversation = o'.conversation)

-- ---------------------------------------------------------------------------
-- Ways to end
-- ---------------------------------------------------------------------------

namespace Stage

variable {k : Kind} {o : Outline} {context : RequestContext} {now : Moment}

namespace Work

/-- An addition to the last user message is made, or fails before anything is changed. -/
theorem make_addition {edit : Conversation → Except StageError Conversation} {b : Block}
    (h : edit o.conversation = o.conversation.appendToLastUser b) :
    make edit o.conversation =
      if o.lastUser?.isSome then .ok () (o.editLastUser (·.push b)).conversation
      else .error (.degraded "no user message to append to") o.conversation := by
  rw [o.appendToLastUser_conversation b] at h
  split at h
  · next hlast => rw [if_pos hlast, make_of_ok h]
  · next hnone => rw [if_neg hnone, make_of_error h]

/-- Work that begins with an addition to the last user message goes on only if there is such a
message. -/
theorem Effect.ofAddition {first : Work Unit} {rest : Work Bool} {given o' : Outline}
    (hfirst : first o.conversation =
      if o.lastUser?.isSome then .ok () given.conversation
      else .error (.degraded "no user message to append to") o.conversation)
    (hrest : rest given.conversation = .ok true o'.conversation)
    (hchanges : o.lastUser?.isSome = true → k.Changes o o') :
    Effect k o (do first; rest) := by
  by_cases hlast : o.lastUser?.isSome = true
  · rw [if_pos hlast] at hfirst
    exact .changed o' (hchanges hlast) ((bind_of_ok hfirst).trans hrest)
  · rw [if_neg hlast] at hfirst
    exact .failed _ (by decide) (bind_of_error hfirst)

end Work

namespace Outcome.Effect

theorem untouched : Effect k o (.untouched o.conversation context now) := .kept (.inl rfl) rfl

/-- A stage ends as its work does. -/
theorem worked {work : Work Bool} (h : work.Effect k o) :
    Effect k o (.worked work o.conversation context now) := by
  unfold Outcome.worked
  cases h with
  | kept hwork =>
    rw [hwork]
    exact .kept (.inl rfl) rfl
  | failed e he hwork =>
    rw [hwork]
    exact .kept (.inr ⟨e, rfl, he⟩) rfl
  | changed o' hchanges hwork =>
    rw [hwork]
    exact .changed o' rfl hchanges rfl

/-- However a stage ends, its conversation is joined from parts. -/
theorem exists_outline {out : Outcome} (h : Effect k o out) :
    ∃ o' : Outline, out.conversation = o'.conversation := by
  cases h with
  | kept _ hconversation => exact ⟨o, hconversation⟩
  | changed o' _ _ hconversation => exact ⟨o', hconversation⟩

/-- A stage that waits for a service ends as it does with the answer, or with the failure of the
service. -/
theorem ofCall {service : Service ρ α} {question : ρ} {limit : Duration} {decide : α → Work Bool}
    (h : ∀ value, (decide value).Effect k o) :
    Effect k o (.ofCall service question limit o.conversation context now decide) := by
  have hwork (result : Except ServiceError α) : (Work.onAnswer result decide).Effect k o := by
    cases result with
    | error e => exact .failed (.service e) StageError.noConfusion rfl
    | ok value => exact h value
  simp only [Outcome.ofCall]
  generalize ((service.call question limit context now).answerWithin limit) = answer
  cases worked (hwork answer.result) with
  | kept hresult hconversation => exact .kept hresult hconversation
  | changed o' hresult hchanges hconversation => exact .changed o' hresult hchanges hconversation

end Outcome.Effect

end Stage

-- ---------------------------------------------------------------------------
-- Moving tool documentation
-- ---------------------------------------------------------------------------

namespace ToolDocs

variable (settings : ToolDocsSettings) (o : Outline)

/-- Documentation that was found is given to the last user message and cut out of the system
message. Without a last user message, nothing is done. -/
theorem move_conversation {found : Found}
    (hfound : find? settings o.opening.systemMessage.text.toList = some found) :
    ∃ content, content.text.toList = found.before ++ found.after ∧
      o.opening.systemMessage.content.removeText? (Text.byteLength found.before)
        (Text.byteLength found.before + Text.byteLength found.part) = some content ∧
      move settings found o.conversation =
        if o.lastUser?.isSome then
          .ok () ((o.editLastUser (·.push (.ephemeral
            (String.ofList (payload settings o.conversation.messages found.part))))).editSystem
              fun m => { m with content }).conversation
        else .error (.degraded "no user message to append to") o.conversation := by
  obtain ⟨content, hcut, htext⟩ := Content.removeText?_append (append_of_find? hfound)
  refine ⟨content, htext, hcut, ?_⟩
  -- the gift is the only edit that can fail, and nothing has been cut before it
  have hgive : Stage.Work.make (give settings found) o.conversation = _ :=
    Stage.Work.make_addition rfl
  rw [move]
  generalize Block.ephemeral (String.ofList (payload settings o.conversation.messages found.part)) =
    b at hgive ⊢
  split at hgive
  · next hlast =>
    -- adding to the user message leaves the system message, so the cut finds the text
    -- that was searched
    have hshorter : (o.editLastUser (·.push b)).conversation.removeSystemText?
        (Text.byteLength found.before)
        (Text.byteLength found.before + Text.byteLength found.part) =
        some ((o.editLastUser (·.push b)).editSystem fun m => { m with content }).conversation := by
      rw [Conversation.removeSystemText?, Outline.systemMessage_conversation,
        Outline.systemMessage_editLastUser, hcut, Option.map_some, Outline.editSystem_conversation]
    have hcutting : cut found (o.editLastUser (·.push b)).conversation = .ok
        ((o.editLastUser (·.push b)).editSystem fun m => { m with content }).conversation := by
      simp only [cut, hshorter]
    rw [Stage.Work.bind_of_ok hgive, Stage.Work.make_of_ok hcutting, if_pos hlast]
  · next hnone => rw [Stage.Work.bind_of_error hgive, if_neg hnone]

theorem effect (context : RequestContext) (now : Moment) :
    Stage.Outcome.Effect (.toolDocs settings) o
      ((stage settings).run o.conversation context now) := by
  simp only [stage, Outline.systemMessage_conversation]
  cases hfound : find? settings o.opening.systemMessage.text.toList with
  | none => exact .untouched
  | some found =>
    obtain ⟨content, htext, -, hmove⟩ := move_conversation settings o hfound
    exact .worked (.ofAddition hmove rfl fun hlast => .toolDocs found content hlast htext)

end ToolDocs

-- ---------------------------------------------------------------------------
-- Breaking loops
-- ---------------------------------------------------------------------------

theorem LoopBreak.effect (o : Outline) (context : RequestContext) (now : Moment) :
    Stage.Outcome.Effect .loopBreak o (stage.run o.conversation context now) := by
  simp only [stage]
  split
  · exact .worked (.ofAddition (Stage.Work.make_addition rfl) rfl .loopBreak)
  · exact .untouched

-- ---------------------------------------------------------------------------
-- Putting passages into the conversation
-- ---------------------------------------------------------------------------

namespace Passages

variable (searcher : Searcher) (options : Options) (o : Outline)

theorem useHits_effect (hits : List SearchHit) :
    (useHits options hits).Effect (.passages searcher options) o := by
  simp only [useHits]
  split
  · exact .kept rfl
  · generalize joined (relevant options hits) = passages
    cases options.target with
    | lastUser =>
      have hnote : (do modify (noted passages); return true : Stage.Work Bool)
          (o.editLastUser (·.push (block passages))).conversation =
          .ok true ((o.editLastUser (·.push (block passages))).withDiagnostics
            { o.diagnostics with passages := some passages }).conversation := by
        rw [← o.diagnostics_editLastUser (·.push (block passages))]
        rfl
      exact .ofAddition (Stage.Work.make_addition rfl) hnote
        (.passagesToUser passages)
    | system =>
      have hadded : Stage.Work.make (inject .system (block passages)) o.conversation =
          .ok () (o.editSystem (·.push (block passages))).conversation := by
        refine Stage.Work.make_of_ok ?_
        rw [inject, Conversation.appendToSystem, Outline.editSystem_conversation]
      exact .changed _ (.passagesToSystem passages) (Stage.Work.bind_of_ok hadded)

theorem effect (context : RequestContext) (now : Moment) :
    Stage.Outcome.Effect (.passages searcher options) o
      ((stage searcher options).run o.conversation context now) := by
  simp only [stage]
  split
  · exact .untouched
  · exact .ofCall fun hits => useHits_effect searcher options o hits

end Passages

-- ---------------------------------------------------------------------------
-- Replacing history by a summary
-- ---------------------------------------------------------------------------

namespace Summary

variable (generator : Generator) (tokenThreshold : Nat) (timeout : Duration)
  (counter : TokenCounter) (o : Outline)

theorem useSummary_effect (holder : o.older ≠ []) (tokensBefore : Nat) (summary : String) :
    (useSummary counter tokensBefore summary).Effect
      (.summary generator tokenThreshold timeout counter) o := by
  unfold useSummary
  split
  · exact .failed _ (by decide) rfl
  · have hwork : (do modify (compressed counter tokensBefore summary); return true :
        Stage.Work Bool) o.conversation =
        .ok true (compressed counter tokensBefore summary o.conversation) := rfl
    rw [compressed, Outline.replaceOlder_conversation, if_neg holder] at hwork
    exact .changed _ (.summary summary _ holder) hwork

theorem effect (context : RequestContext) (now : Moment) :
    Stage.Outcome.Effect (.summary generator tokenThreshold timeout counter) o
      ((stage generator tokenThreshold timeout counter).run o.conversation context now) := by
  simp only [stage, Outline.older_conversation]
  split
  · exact .untouched
  · next h =>
    have holder : o.older ≠ [] := by
      intro hnone
      simp [hnone] at h
    exact .ofCall fun summary =>
      useSummary_effect generator tokenThreshold timeout counter o holder _ summary

end Summary

/-- Each stage keeps the conversation or makes the edits of its kind, whatever its service does. -/
theorem Stage.Kind.effect (k : Kind) (o : Outline) (context : RequestContext) (now : Moment) :
    Outcome.Effect k o (k.stage.run o.conversation context now) := by
  cases k with
  | toolDocs settings => exact ToolDocs.effect settings o context now
  | loopBreak => exact LoopBreak.effect o context now
  | passages searcher options => exact Passages.effect searcher options o context now
  | summary generator tokenThreshold timeout counter =>
    exact Summary.effect generator tokenThreshold timeout counter o context now

-- ---------------------------------------------------------------------------
-- What the edits of all stages have in common
-- ---------------------------------------------------------------------------

namespace Stage.Kind

/-- Whether a stage replaces the older part. -/
def replacesOlder : Kind → Bool
  | summary .. => true
  | _ => false

variable {k : Kind} {o o' : Outline}

theorem Changes.query (h : k.Changes o o') : o'.query = o.query := by
  cases h with
  | toolDocs => exact o.query_editLastUser _
  | loopBreak => exact o.query_editLastUser _
  | passagesToUser => exact o.query_editLastUser _
  | passagesToSystem => rfl
  | summary => rfl

theorem Changes.older (h : k.Changes o o') (hk : k.replacesOlder = false) : o'.older = o.older := by
  cases h with
  | toolDocs => exact o.older_editLastUser _
  | loopBreak => exact o.older_editLastUser _
  | passagesToUser => exact o.older_editLastUser _
  | passagesToSystem => rfl
  | summary => cases hk

/-- The records of the stages are written by the pipeline alone. -/
theorem Changes.stages (h : k.Changes o o') : o'.diagnostics.stages = o.diagnostics.stages := by
  cases h with
  | toolDocs => exact congrArg Diagnostics.stages (o.diagnostics_editLastUser _)
  | loopBreak => exact congrArg Diagnostics.stages (o.diagnostics_editLastUser _)
  | passagesToUser => rfl
  | passagesToSystem => rfl
  | summary => rfl

theorem Changes.sound (ho : o.Sound) (h : k.Changes o o') : o'.Sound := by
  -- no edit changes who speaks in a message
  have hlast (b : Block) : (o.editLastUser (·.push b)).Sound := ho.editLastUser fun _ => rfl
  have hsystem (b : Block) : (o.editSystem (·.push b)).Sound := ho.editSystem fun _ => rfl
  cases h with
  | toolDocs => exact Outline.Sound.editSystem (hlast _) fun _ => rfl
  | loopBreak => exact hlast _
  | passagesToUser => exact Outline.Sound.withDiagnostics (hlast _) _
  | passagesToSystem => exact Outline.Sound.withDiagnostics (hsystem _) _
  | summary summary stats holder =>
    -- a summary is a user message, so a stand-in is still the only system message
    have hrole : (Summary.summaryMessage summary).role ≠ .system := nofun
    exact (ho.replaceOlder holder hrole).withDiagnostics _

end Stage.Kind

-- ---------------------------------------------------------------------------
-- Stages of a pipeline
-- ---------------------------------------------------------------------------

/-- The messages of failed services and those of stages that could not do their work differ in the
first letter. -/
theorem StageError.message_service_ne (error : ServiceError) (reason : String) :
    (service error).message ≠ (degraded reason).message := by
  have hchars :
      ("Collaborator failed: " ++ error.message).toList ≠ ("Stage degraded: " ++ reason).toList := by
    intro h
    rw [String.toList_append, String.toList_append,
      show "Collaborator failed: ".toList = 'C' :: "ollaborator failed: ".toList from rfl,
      show "Stage degraded: ".toList = 'S' :: "tage degraded: ".toList from rfl] at h
    exact absurd (List.cons.inj h).1 (by decide)
  exact fun h => hchars (congrArg String.toList h)

/-- The message of a stage tells a failed cut from everything else. -/
theorem StageError.message_ne_cutFailed {e : StageError} (he : e ≠ ToolDocs.cutFailed) :
    e.message ≠ ToolDocs.cutFailed.message := by
  cases e with
  | degraded reason =>
    exact fun h => he (congrArg degraded ((String.append_right_inj "Stage degraded: ").1 h))
  | service error => exact message_service_ne error _

namespace Pipeline

/-- The record of a stage that runs next. -/
def Progress.recordOf (p : Progress) (stage : Stage) : StageRecord :=
  record stage.name p.now (stage.run p.conversation p.context p.now)

/-- What a stage leaves of the parts of a conversation, and the record in which it says so. -/
structure Leaves (k : Stage.Kind) (o o' : Outline) (r : StageRecord) : Prop where
  name : r.stage = k.stage.name
  /-- No cut has failed. -/
  error : r.error ≠ some ToolDocs.cutFailed.message
  /-- It is recorded that the stage changed the conversation exactly if it made its edits. -/
  edits : r.handled = false ∧ o' = o ∨ r.handled = true ∧ k.Changes o o'

variable {k : Stage.Kind} {o o' : Outline} {r : StageRecord}

theorem Leaves.query (h : Leaves k o o' r) : o'.query = o.query := by
  rcases h.edits with ⟨-, rfl⟩ | ⟨-, hchanges⟩
  · rfl
  · exact hchanges.query

theorem Leaves.older (h : Leaves k o o' r) (hk : k.replacesOlder = false) :
    o'.older = o.older := by
  rcases h.edits with ⟨-, rfl⟩ | ⟨-, hchanges⟩
  · rfl
  · exact hchanges.older hk

theorem Leaves.stages (h : Leaves k o o' r) : o'.diagnostics.stages = o.diagnostics.stages := by
  rcases h.edits with ⟨-, rfl⟩ | ⟨-, hchanges⟩
  · rfl
  · exact hchanges.stages

/-- A stage of a pipeline leaves the conversation as it was, or with its edits, and adds its
record. -/
theorem step_leaves {p : Progress} {o : Outline} (hp : p.conversation = o.conversation)
    (k : Stage.Kind) :
    ∃ o', Leaves k o o' (p.recordOf k.stage) ∧ (p.step k.stage).conversation =
      (o'.withDiagnostics (o'.diagnostics.add (p.recordOf k.stage))).conversation := by
  have heffect := k.effect o p.context p.now
  rw [← hp] at heffect
  rw [Progress.step, Progress.recordOf]
  generalize k.stage.run p.conversation p.context p.now = out at heffect
  have hrecorded {o' : Outline} (hconversation : out.conversation = o'.conversation) :
      out.conversation.addRecord (record k.stage.name p.now out) =
        (o'.withDiagnostics (o'.diagnostics.add (record k.stage.name p.now out))).conversation := by
    rw [hconversation, Outline.addRecord_conversation]
  cases heffect with
  | kept hresult hconversation =>
    refine ⟨o, ⟨rfl, ?_, Or.inl ⟨?_, rfl⟩⟩, hrecorded hconversation⟩
    · rcases hresult with hresult | ⟨e, hresult, he⟩
      · simp [record, hresult, errorMessage?]
      · simp [record, hresult, errorMessage?, StageError.message_ne_cutFailed he]
    · rcases hresult with hresult | ⟨e, hresult, -⟩ <;> simp [record, hresult, Except.toOption]
  | changed o' hresult hchanges hconversation =>
    refine ⟨o', ⟨rfl, ?_, Or.inr ⟨?_, hchanges⟩⟩, hrecorded hconversation⟩
    · simp [record, hresult, errorMessage?]
    · simp [record, hresult, Except.toOption]

end Pipeline

end PromptBudget
