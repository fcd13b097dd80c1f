import PromptBudget.Proofs.Degradation

/-!
# PromptBudget — the records of a run

Every stage that runs leaves a record. A stage does not look at the records of those before it: with
other records in the diagnostics it does the same, and it leaves them as it found them. So a pipeline
of such stages writes one record for each of them, behind those that are there. Stages of any other
origin can be among them, as long as they leave the records alone.

Main results:

* `Stage.Kind.run_withRecords` — what a stage does does not depend on the records.
* `Pipeline.run_recorded` — all stages of a pipeline run, in their order, and each is recorded once.
-/

namespace PromptBudget

-- ---------------------------------------------------------------------------
-- Conversations with other records
-- ---------------------------------------------------------------------------

namespace Conversation

/-- The conversation with other records in its diagnostics. -/
def withRecords (records : List StageRecord) (c : Conversation) : Conversation :=
  { c with diagnostics := { c.diagnostics with stages := records } }

variable (records : List StageRecord) (c : Conversation)

theorem withRecords_stages : c.withRecords c.diagnostics.stages = c := rfl

theorem editSystem_withRecords (f : Message → Message) :
    (c.withRecords records).editSystem f = (c.editSystem f).withRecords records := by
  obtain ⟨messages, systemIndex, standIn, recentStart, lastUserIndex, query, diagnostics⟩ := c
  cases systemIndex <;> rfl

theorem editLastUser?_withRecords (f : Message → Message) :
    (c.withRecords records).editLastUser? f =
      (c.editLastUser? f).map (·.withRecords records) := by
  unfold editLastUser?
  rw [Option.map_map]
  rfl

theorem appendToLastUser_withRecords (b : Block) :
    (c.withRecords records).appendToLastUser b =
      (c.appendToLastUser b).map (·.withRecords records) := by
  unfold appendToLastUser
  rw [editLastUser?_withRecords]
  cases c.editLastUser? (·.push b) <;> rfl

theorem removeSystemText?_withRecords (start stop : Nat) :
    (c.withRecords records).removeSystemText? start stop =
      (c.removeSystemText? start stop).map (·.withRecords records) := by
  unfold removeSystemText?
  rw [Option.map_map]
  show (c.systemMessage.content.removeText? start stop).map _ = _
  congr 1
  funext content
  exact editSystem_withRecords records c _

theorem replaceOlder_withRecords (m : Message) :
    (c.withRecords records).replaceOlder m =
      ((c.replaceOlder m).1, (c.replaceOlder m).2.withRecords records) := by
  by_cases hnone : c.recentStart - c.olderStart = 0
  · simp only [replaceOlder, if_pos hnone]
    exact if_pos hnone
  · simp only [replaceOlder, if_neg hnone]
    exact if_neg hnone

end Conversation

namespace Stage

/-- The outcome with other records in the diagnostics of its conversation. -/
def Outcome.withRecords (records : List StageRecord) (out : Outcome) : Outcome :=
  { out with conversation := out.conversation.withRecords records }

/-- A stage that leaves the records in the diagnostics alone. -/
def KeepsRecords (stage : Stage) : Prop :=
  ∀ c context now,
    (stage.run c context now).conversation.diagnostics.stages = c.diagnostics.stages

namespace Work

/-- An end of work with other records in the diagnostics of the conversation that was left. -/
def endWithRecords (records : List StageRecord) :
    EStateM.Result StageError Conversation α → EStateM.Result StageError Conversation α
  | .ok a c => .ok a (c.withRecords records)
  | .error e c => .error e (c.withRecords records)

/-- Work that does not look at the records: with others in the diagnostics it does the same. -/
def IgnoresRecords (work : Work α) : Prop :=
  ∀ records c, work (c.withRecords records) = endWithRecords records (work c)

theorem ignoresRecords_make {edit : Conversation → Except StageError Conversation}
    (h : ∀ records c, edit (c.withRecords records) = (edit c).map (·.withRecords records)) :
    IgnoresRecords (make edit) := by
  intro records c
  unfold make
  rw [h]
  cases edit c <;> rfl

theorem IgnoresRecords.bind {work : Work α} {next : α → Work β} (h : work.IgnoresRecords)
    (hnext : ∀ a, (next a).IgnoresRecords) : IgnoresRecords (work >>= next) := by
  intro records c
  have hfirst := h records c
  cases hwork : work c with
  | ok a d =>
    rw [hwork] at hfirst
    rw [bind_of_ok hfirst, bind_of_ok hwork]
    exact hnext a records d
  | error e d =>
    rw [hwork] at hfirst
    rw [bind_of_error hfirst, bind_of_error hwork]
    rfl

theorem ignoresRecords_pure (a : α) : IgnoresRecords (pure a : Work α) := fun _ _ => rfl

theorem ignoresRecords_throw (e : StageError) : IgnoresRecords (throw e : Work α) := fun _ _ => rfl

end Work

namespace Outcome

variable (records : List StageRecord) (c : Conversation) (context : RequestContext) (now : Moment)

theorem worked_withRecords {work : Work Bool} (h : work.IgnoresRecords) :
    worked work (c.withRecords records) context now =
      (worked work c context now).withRecords records := by
  unfold worked
  rw [h]
  cases work c <;> rfl

theorem changed_withRecords (edited : Except StageError Conversation) :
    changed (edited.map (·.withRecords records)) (c.withRecords records) context now =
      (changed edited c context now).withRecords records := by
  cases edited <;> rfl

theorem ofCall_withRecords {service : Service ρ α} {question : ρ} {limit : Duration}
    {decide : α → Work Bool} (h : ∀ value, (decide value).IgnoresRecords) :
    ofCall service question limit (c.withRecords records) context now decide =
      (ofCall service question limit c context now decide).withRecords records := by
  have hwork (result : Except ServiceError α) : (Work.onAnswer result decide).IgnoresRecords := by
    cases result with
    | error e => exact Work.ignoresRecords_throw _
    | ok value => exact h value
  simp only [ofCall, worked_withRecords records c _ _ (hwork _)]
  rfl

end Outcome

end Stage

-- ---------------------------------------------------------------------------
-- Stages
-- ---------------------------------------------------------------------------

section Stages

variable (records : List StageRecord) (c : Conversation) (context : RequestContext) (now : Moment)

theorem ToolDocs.ignoresRecords_move (settings : ToolDocsSettings) (found : Found) :
    (move settings found).IgnoresRecords := by
  refine .bind (Stage.Work.ignoresRecords_make fun records c => ?_) fun _ =>
    Stage.Work.ignoresRecords_make fun records c => ?_
  · exact c.appendToLastUser_withRecords records _
  · simp only [cut, Conversation.removeSystemText?_withRecords]
    cases c.removeSystemText? (Text.byteLength found.before)
      (Text.byteLength found.before + Text.byteLength found.part) <;> rfl

theorem Passages.ignoresRecords_useHits (options : Options) (hits : List SearchHit) :
    (useHits options hits).IgnoresRecords := by
  have hinject (b : Block) (records : List StageRecord) (c : Conversation) :
      inject options.target b (c.withRecords records) =
        (inject options.target b c).map (·.withRecords records) := by
    cases options.target with
    | lastUser => exact c.appendToLastUser_withRecords records b
    | system => exact congrArg Except.ok (c.editSystem_withRecords records (·.push b))
  simp only [useHits]
  split
  · exact Stage.Work.ignoresRecords_pure false
  · exact .bind (Stage.Work.ignoresRecords_make (hinject _)) fun _ _ _ => rfl

theorem Summary.compressed_withRecords (counter : TokenCounter) (tokensBefore : Nat)
    (summary : String) :
    compressed counter tokensBefore summary (c.withRecords records) =
      (compressed counter tokensBefore summary c).withRecords records := by
  unfold compressed
  rw [Conversation.replaceOlder_withRecords]
  rfl

theorem Summary.ignoresRecords_useSummary (counter : TokenCounter) (tokensBefore : Nat)
    (summary : String) : (useSummary counter tokensBefore summary).IgnoresRecords := by
  unfold useSummary
  split
  · exact Stage.Work.ignoresRecords_throw _
  · intro records c
    exact congrArg (EStateM.Result.ok true)
      (compressed_withRecords records c counter tokensBefore summary)

/-- No stage reads the records: with others in the diagnostics it does the same. -/
theorem Stage.Kind.run_withRecords (k : Kind) :
    k.stage.run (c.withRecords records) context now =
      (k.stage.run c context now).withRecords records := by
  cases k with
  | toolDocs settings =>
    have htext : (c.withRecords records).systemMessage = c.systemMessage := rfl
    simp only [stage, ToolDocs.stage, htext]
    cases ToolDocs.find? settings c.systemMessage.text.toList with
    | none => rfl
    | some found =>
      exact Outcome.worked_withRecords records c context now
        ((ToolDocs.ignoresRecords_move settings found).bind fun _ =>
          Work.ignoresRecords_pure true)
  | loopBreak =>
    simp only [stage, LoopBreak.stage, Conversation.appendToLastUser_withRecords,
      Outcome.changed_withRecords]
    show (if LoopBreak.repeats c.older = true then _ else _) = _
    split <;> rfl
  | passages searcher options =>
    simp only [stage, Passages.stage]
    show (if (Text.trimmed c.query).isEmpty = true then _ else _) = _
    split
    · rfl
    · exact Outcome.ofCall_withRecords records c context now
        (Passages.ignoresRecords_useHits options)
  | summary generator tokenThreshold timeout counter =>
    simp only [stage, Summary.stage]
    show (if (decide (counter.countMessages c.assembled ≤ tokenThreshold) || c.older.isEmpty) = true
      then _ else _) = _
    split
    · rfl
    · exact Outcome.ofCall_withRecords records c context now
        (Summary.ignoresRecords_useSummary counter _)

/-- No stage writes records either: this is left to the pipeline. -/
theorem Stage.Kind.keepsRecords (k : Kind) : k.stage.KeepsRecords := by
  intro c context now
  have hrun := k.run_withRecords c.diagnostics.stages c context now
  rw [c.withRecords_stages] at hrun
  rw [hrun]
  rfl

end Stages

-- ---------------------------------------------------------------------------
-- Pipelines
-- ---------------------------------------------------------------------------

namespace Pipeline

/-- A record does not say that its stage changed the conversation and that something went wrong. -/
theorem not_handled_and_error (name : String) (started : Moment) (out : Stage.Outcome) :
    ¬ ((record name started out).handled = true ∧
        (record name started out).error.isSome = true) := by
  unfold record
  cases out.result with
  | error e => exact fun h => Bool.false_ne_true h.1
  | ok changed => exact fun h => Bool.false_ne_true h.2

/-- What a pipeline leaves in the diagnostics when it runs from `p` on: behind the records that are
there, one for each stage, in their order, of what this stage did to what those before it left. -/
def Recorded (pipeline : Pipeline) (p : Progress) : Prop :=
  ∃ records, (run pipeline p).conversation.diagnostics.stages =
      p.conversation.diagnostics.stages ++ records ∧
    records.map (·.stage) = pipeline.names ∧
    (∀ (i : Nat) (stage : Stage), pipeline[i]? = some stage →
      records[i]? = some ((run (pipeline.take i) p).recordOf stage)) ∧
    ∀ r ∈ records, ¬ (r.handled = true ∧ r.error.isSome = true)

theorem run_recorded {pipeline : Pipeline} (h : ∀ stage ∈ pipeline, stage.KeepsRecords)
    (p : Progress) : pipeline.Recorded p := by
  induction pipeline generalizing p with
  | nil => exact ⟨[], (List.append_nil _).symm, rfl, nofun, nofun⟩
  | cons stage rest ih =>
    obtain ⟨records, hstages, hnames, hof, hsound⟩ :=
      ih (fun s hs => h s (List.mem_cons_of_mem _ hs)) (p.step stage)
    have hstep : (p.step stage).conversation.diagnostics.stages =
        p.conversation.diagnostics.stages ++ [p.recordOf stage] := by
      show (stage.run _ _ _).conversation.diagnostics.stages ++ _ = _
      rw [h stage List.mem_cons_self]
      rfl
    refine ⟨p.recordOf stage :: records, ?_, ?_, ?_, ?_⟩
    · rw [run_cons, hstages, hstep, List.append_assoc, List.singleton_append]
    · rw [List.map_cons, hnames]
      rfl
    · intro i s hs
      cases i with
      | zero =>
        obtain rfl := Option.some.inj hs
        rfl
      | succ i => exact hof i s hs
    · intro r hr
      rcases List.mem_cons.1 hr with rfl | hr
      · exact not_handled_and_error _ _ _
      · exact hsound r hr

/-- From a start without records on, what is recorded is which stages ran. -/
theorem names_run {p : Progress} (hfresh : p.conversation.diagnostics.stages = [])
    (kinds : List Stage.Kind) :
    (run (kinds.map (·.stage)) p).conversation.diagnostics.stages.map (·.stage) =
      kinds.map (·.stage.name) := by
  have hkeeps : ∀ stage ∈ kinds.map (·.stage), stage.KeepsRecords := by
    intro stage hstage
    obtain ⟨k, -, rfl⟩ := List.mem_map.1 hstage
    exact k.keepsRecords
  obtain ⟨records, hstages, hnames, -⟩ := run_recorded hkeeps p
  rw [hstages, hfresh, List.nil_append, hnames, names, List.map_map]
  rfl

end Pipeline

/-- A plan leaves at most one record of a name. -/
theorem Plan.nodup_run (plan : Plan) (identity : Identity) (services : Collaborators)
    {p : Pipeline.Progress} (hfresh : p.conversation.diagnostics.stages = []) :
    ((Pipeline.run ((plan.kinds identity services).map (·.stage))
      p).conversation.diagnostics.stages.map (·.stage)).Nodup := by
  rw [Pipeline.names_run hfresh]
  exact plan.nodup_names identity services

theorem Diagnostics.error?_of_mem {d : Diagnostics} (hnodup : (d.stages.map (·.stage)).Nodup)
    {r : StageRecord} (hr : r ∈ d.stages) : d.error? r.stage = r.error := by
  rw [error?, record?, find?_stage_of_nodup hnodup hr]
  rfl

end PromptBudget
