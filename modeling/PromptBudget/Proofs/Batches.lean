import PromptBudget.Proofs.Waits

/-!
# PromptBudget — requests that are arranged at once

Many requests can be arranged at once, with the same services and on one clock. Each goes from stage
to stage by itself. When a stage asks a service, the others go on; the answer is delivered at its
moment, unless the time is over before or the request is cancelled. Work takes no time, here as for
a request alone: the clock moves only while every request waits for something that has not come yet.

Which request goes on next is open at every moment. `Action` names the choices, and a run is any
list of them that is possible from the start. Nothing depends on the choices: each request comes to
what it comes to alone, and all of them do after a number of actions that is known beforehand.

The proof follows each request on its own. `Job.OnCourse` says of a state of a request that what is
left to do leads to the result of the request alone, and that it has not slept through anything. A
request keeps on its course when it goes on (`Job.OnCourse.step?`), when the clock moves
(`Job.OnCourse.tick`), and when another request goes on, which does not even look at it.

Main results:

* `Job.OnCourse.step?`, `Job.OnCourse.tick` — a request stays on its course, and less is left to do.
* `Batch.OnCourse.act?`, `Batch.OnCourse.run?` — so do all requests, whatever happens.
* `Batch.run?_alone` — every run comes to the results of the requests alone.
-/

namespace PromptBudget

-- ---------------------------------------------------------------------------
-- One request
-- ---------------------------------------------------------------------------

/-- A request that is to be arranged. -/
structure Job where
  plan : Plan
  identity : Identity
  context : RequestContext
  messages : List Message

/-- What a job comes to alone. -/
def Job.alone (job : Job) (services : Collaborators) (now : Moment) :
    Except ArrangeError Arranged :=
  arrange job.plan job.identity services job.context now job.messages

/-- The kinds of the stages that a job asks for. -/
def Job.kinds (job : Job) (services : Collaborators) : List Stage.Kind :=
  job.plan.kinds job.identity services

/-- The state after a stage that ended with an outcome. -/
def Pipeline.Progress.after (p : Progress) (name : String) (out : Stage.Outcome) : Progress where
  conversation := out.conversation.addRecord (record name p.now out)
  context := out.context
  now := out.finished
  consultations := p.consultations ++ out.consultations

theorem Pipeline.Progress.step_eq (p : Progress) (stage : Stage) :
    p.step stage = p.after stage.name (stage.run p.conversation p.context p.now) := rfl

/-- A stage that waits for the answer to its question. -/
structure Wait where
  /-- The state of the request when it asked. -/
  asked : Pipeline.Progress
  kind : Stage.Kind
  question : Stage.Question
  /-- How long it may wait. -/
  limit : Duration

namespace Wait

/-- What has come at a moment. -/
def due? (w : Wait) (clock : Moment) : Option (Answer (Stage.Work Bool)) :=
  w.question.call.due? w.limit (w.asked.context.cancelledFrom.map (· - w.asked.now))
    (clock - w.asked.now)

/-- The state of the request after the wait. -/
def resumed (w : Wait) (clock : Moment)
    (answer : Answer (Stage.Work Bool)) : Pipeline.Progress :=
  w.asked.after w.kind.stage.name
    (w.question.outcome w.asked.conversation w.asked.context w.asked.now clock answer)

theorem now_resumed (w : Wait) (clock : Moment) (answer : Answer (Stage.Work Bool)) :
    (w.resumed clock answer).now = clock :=
  w.question.finished_outcome w.asked.conversation w.asked.context w.asked.now clock answer

end Wait

/-- How far a job is. -/
inductive Job.State where
  | fresh
  | ready (p : Pipeline.Progress) (rest : List Stage.Kind)
  | waiting (w : Wait) (rest : List Stage.Kind)
  | done (result : Except ArrangeError Arranged)

namespace Job

/-- The result of a job, once it has one. -/
def State.result? : State → Option (Except ArrangeError Arranged)
  | done result => some result
  | _ => none

/-- A stage starts. It ends at once, or it asks its service, if it may. -/
def State.enter (k : Stage.Kind) (p : Pipeline.Progress) (rest : List Stage.Kind) : State :=
  match k.start p.conversation p.context p.now with
  | .ended out => ready (p.after k.stage.name out) rest
  | .asked question =>
    match p.context.grant p.now k.limit with
    | .error e =>
      ready (p.after k.stage.name (.failed (.service e) p.conversation p.context p.now)) rest
    | .ok limit => waiting { asked := p, kind := k, question, limit } rest

/-- What a job does next at a moment of the clock, if it can do anything. -/
def step? (job : Job) (services : Collaborators) (clock : Moment) : State → Option State
  | .fresh =>
    match Conversation.ofMessages? job.messages job.plan.recentWindow with
    | .error e => some (.done (.error e))
    | .ok conversation =>
      some (.ready { conversation, context := job.context, now := clock } (job.kinds services))
  | .ready p (k :: rest) => some (.enter k { p with now := clock } rest)
  | .ready p [] =>
    some (.done (.ok (Pipeline.Progress.arranged { p with now := clock } services.counter
      job.identity.language? job.messages)))
  | .waiting w rest => (w.due? clock).map fun answer => .ready (w.resumed clock answer) rest
  | .done _ => none

/-- How much some stages can take: two steps each, and moments of waiting. -/
def backlog (rest : List Stage.Kind) : Nat := 2 * rest.length + Pipeline.limit rest

theorem backlog_cons (k : Stage.Kind) (rest : List Stage.Kind) :
    backlog (k :: rest) = 2 + k.limit + backlog rest := by
  show 2 * (rest.length + 1) + (k.limit + Pipeline.limit rest) =
    2 + k.limit + (2 * rest.length + Pipeline.limit rest)
  omega

/-- How much is left to do at most. -/
def State.work (job : Job) (services : Collaborators) (clock : Moment) : State → Nat
  | fresh => 2 + backlog (job.kinds services)
  | ready _ rest => 1 + backlog rest
  | waiting w rest => 2 + (w.asked.now + w.limit - clock) + backlog rest
  | done _ => 0

variable {job : Job} {services : Collaborators} {start clock : Moment}

/-- The stages that are left lead to what the job comes to alone. -/
def Leads (job : Job) (services : Collaborators) (start : Moment) (p : Pipeline.Progress)
    (rest : List Stage.Kind) : Prop :=
  job.alone services start =
    .ok ((Pipeline.run (rest.map (·.stage)) p).arranged services.counter job.identity.language?
      job.messages)

theorem alone_of_error {e : ArrangeError}
    (h : Conversation.ofMessages? job.messages job.plan.recentWindow = .error e) :
    job.alone services start = .error e := by
  unfold alone arrange
  rw [h]
  rfl

theorem leads_of_ok {conversation : Conversation}
    (h : Conversation.ofMessages? job.messages job.plan.recentWindow = .ok conversation) :
    job.Leads services start { conversation, context := job.context, now := start }
      (job.kinds services) := by
  unfold Leads alone kinds
  rw [arrange_eq job.identity services job.context start h, Plan.stages_eq_kinds]

theorem Leads.after {p : Pipeline.Progress} {k : Stage.Kind} {rest : List Stage.Kind}
    (h : job.Leads services start p (k :: rest)) {out : Stage.Outcome}
    (hrun : k.stage.run p.conversation p.context p.now = out) :
    job.Leads services start (p.after k.stage.name out) rest := by
  unfold Leads at h ⊢
  rw [h, List.map_cons, Pipeline.run_cons, Pipeline.Progress.step_eq, hrun]

/-- A job is on its course if it comes to what it comes to alone, and has missed nothing: between
two stages no time has passed, and a wait is not longer than it is to be. -/
inductive OnCourse (job : Job) (services : Collaborators) (start clock : Moment) : State → Prop
  | fresh (hclock : clock = start) : OnCourse job services start clock .fresh
  | ready {p : Pipeline.Progress} {rest : List Stage.Kind} (hnow : p.now = clock)
      (hleads : job.Leads services start p rest) : OnCourse job services start clock (.ready p rest)
  | waiting {w : Wait} {rest : List Stage.Kind}
      {ending : Answer (Stage.Work Bool)}
      (hends : Call.Ends w.question.call w.limit
        (w.asked.context.cancelledFrom.map (· - w.asked.now)) ending)
      (hlimit : ending.after ≤ w.limit) (hsince : w.asked.now ≤ clock)
      (huntil : clock ≤ w.asked.now + ending.after)
      (hleads : job.Leads services start (w.resumed (w.asked.now + ending.after) ending) rest) :
      OnCourse job services start clock (.waiting w rest)
  | done {result : Except ArrangeError Arranged} (hresult : result = job.alone services start) :
      OnCourse job services start clock (.done result)

-- ---------------------------------------------------------------------------
-- A job goes on
-- ---------------------------------------------------------------------------

theorem onCourse_enter {k : Stage.Kind} {p : Pipeline.Progress} {rest : List Stage.Kind}
    (hnow : p.now = clock) (h : job.Leads services start p (k :: rest)) :
    job.OnCourse services start clock (.enter k p rest) := by
  unfold State.enter
  split
  · next out hended =>
    obtain ⟨hrun, hout⟩ := Stage.Kind.run_of_ended hended
    exact .ready (hout.finished.trans hnow) (h.after hrun)
  · next question hasked =>
    split
    · next e hgrant =>
      exact .ready hnow (h.after (Stage.Kind.run_of_refused hasked hgrant))
    · next limit hgrant =>
      -- a call that has a limit ends, and this end is what the wait is for
      obtain ⟨ending, hending, hlimit, -⟩ := question.call.exists_answer_bounded limit
        (p.context.cancelledFrom.map (· - p.now))
      have hends := Call.ends_of_bounded hending
      refine .waiting hends hlimit (Nat.le_of_eq hnow) ?_ ?_
      · rw [← hnow]
        exact Nat.le_add_right p.now ending.after
      · exact h.after (Stage.Kind.run_of_asked hasked hgrant hending)

/-- Starting a stage is a step, and what comes of it is no more than was to be expected. -/
theorem work_enter_lt (k : Stage.Kind) {p : Pipeline.Progress} (rest : List Stage.Kind)
    (hnow : p.now = clock) :
    (State.enter k p rest).work job services clock <
      (State.ready p (k :: rest)).work job services clock := by
  show _ < 1 + backlog (k :: rest)
  rw [backlog_cons]
  have hready (q : Pipeline.Progress) :
      (State.ready q rest).work job services clock < 1 + (2 + k.limit + backlog rest) := by
    show 1 + backlog rest < _
    omega
  unfold State.enter
  split
  · exact hready _
  · next question hasked =>
    split
    · exact hready _
    · next limit hgrant =>
      show 2 + (p.now + limit - clock) + backlog rest < _
      rw [hnow, Nat.add_sub_cancel_left]
      have hle := Nat.add_le_add_left (RequestContext.le_of_grant hgrant) 2
      calc 2 + limit + backlog rest
          ≤ 2 + k.limit + backlog rest := Nat.add_le_add_right hle _
        _ < 1 + (2 + k.limit + backlog rest) := Nat.lt_add_of_pos_left Nat.one_pos

/-- A job that goes on stays on its course, and less is left to do. -/
theorem OnCourse.step? {state state' : State} (h : job.OnCourse services start clock state)
    (hstep : job.step? services clock state = some state') :
    job.OnCourse services start clock state' ∧
      state'.work job services clock < state.work job services clock := by
  cases h with
  | fresh hclock =>
    simp only [Job.step?] at hstep
    split at hstep
    · next e hparse =>
      obtain rfl := Option.some.inj hstep
      refine ⟨.done (alone_of_error hparse).symm, ?_⟩
      show 0 < 2 + backlog _
      omega
    · next conversation hparse =>
      obtain rfl := Option.some.inj hstep
      refine ⟨.ready rfl (hclock ▸ leads_of_ok hparse), ?_⟩
      show 1 + backlog _ < 2 + backlog _
      omega
  | @ready p rest hnow hleads =>
    subst hnow
    cases rest with
    | nil =>
      obtain rfl := Option.some.inj hstep
      refine ⟨.done hleads.symm, ?_⟩
      show 0 < 1 + backlog []
      omega
    | cons k rest =>
      obtain rfl := Option.some.inj hstep
      exact ⟨onCourse_enter rfl hleads, work_enter_lt k rest rfl⟩
  | @waiting w rest ending hends hlimit hsince huntil hleads =>
    obtain ⟨answer, hdue, rfl⟩ := Option.map_eq_some_iff.1 hstep
    -- before its end nothing has come, so the wait is over just now
    have hclock : clock = w.asked.now + ending.after := by
      rcases Nat.lt_or_eq_of_le huntil with hlt | heq
      · have hearly : clock - w.asked.now < ending.after := Nat.sub_lt_left_of_lt_add hsince hlt
        rw [Wait.due?, Call.due?_of_lt hends hearly] at hdue
        cases hdue
      · exact heq
    subst hclock
    have hanswer : answer = ending := by
      rw [Wait.due?, Nat.add_sub_cancel_left, Call.due?_of_eq hends] at hdue
      exact (Option.some.inj hdue).symm
    subst hanswer
    refine ⟨.ready (w.now_resumed _ _) hleads, ?_⟩
    show 1 + backlog rest < 2 + _ + backlog rest
    omega
  | done hresult => cases hstep

-- ---------------------------------------------------------------------------
-- Time passes
-- ---------------------------------------------------------------------------

/-- A job that cannot go on has its result or waits. -/
theorem cases_of_step?_eq_none {state : State}
    (h : job.step? services clock state = none) :
    (∃ result, state = .done result) ∨ ∃ w rest, state = .waiting w rest ∧ w.due? clock = none := by
  cases state with
  | fresh =>
    simp only [Job.step?] at h
    split at h
    · cases h
    · cases h
  | ready p rest => cases rest <;> cases h
  | waiting w rest => exact Or.inr ⟨w, rest, rfl, Option.map_eq_none_iff.1 h⟩
  | done result => exact Or.inl ⟨result, rfl⟩

theorem work_tick_le (state : State) :
    state.work job services (clock + 1) ≤ state.work job services clock := by
  cases state with
  | waiting w rest =>
    have hle : w.asked.now + w.limit - (clock + 1) ≤ w.asked.now + w.limit - clock :=
      Nat.sub_le_sub_left (Nat.le_add_right clock 1) _
    exact Nat.add_le_add_right (Nat.add_le_add_left hle 2) _
  | _ => exact Nat.le_refl _

/-- When the clock moves, a job that waits stays on its course, and less time is left to it. -/
theorem OnCourse.tick {state : State} (h : job.OnCourse services start clock state)
    (hstep : job.step? services clock state = none) :
    job.OnCourse services start (clock + 1) state ∧
      (state.result? = none →
        state.work job services (clock + 1) < state.work job services clock) := by
  rcases cases_of_step?_eq_none hstep with ⟨result, rfl⟩ | ⟨w, rest, rfl, hdue⟩
  · cases h with
    | done hresult => exact ⟨.done hresult, nofun⟩
  · cases h with
    | @waiting _ _ ending hends hlimit hsince huntil hleads =>
      have hlt : clock < w.asked.now + ending.after := by
        refine Nat.lt_of_le_of_ne huntil ?_
        rintro rfl
        rw [Wait.due?, Nat.add_sub_cancel_left, Call.due?_of_eq hends] at hdue
        cases hdue
      refine ⟨.waiting hends hlimit (Nat.le_succ_of_le hsince) hlt hleads, fun _ => ?_⟩
      have hbefore : clock < w.asked.now + w.limit :=
        Nat.lt_of_lt_of_le hlt (Nat.add_le_add_left hlimit _)
      have hless : w.asked.now + w.limit - (clock + 1) < w.asked.now + w.limit - clock :=
        Nat.sub_lt_sub_left hbefore (Nat.lt_succ_self clock)
      exact Nat.add_lt_add_right (Nat.add_lt_add_left hless 2) _

theorem OnCourse.result {state : State} (h : job.OnCourse services start clock state)
    {result : Except ArrangeError Arranged} (hresult : state.result? = some result) :
    result = job.alone services start := by
  cases h with
  | done heq => exact Option.some.inj hresult ▸ heq
  | _ => cases hresult

end Job

-- ---------------------------------------------------------------------------
-- Many requests
-- ---------------------------------------------------------------------------

/-- A job and how far it is. -/
structure Task where
  job : Job
  state : Job.State

/-- Jobs that share a clock. -/
structure Batch where
  clock : Moment
  tasks : List Task

namespace Batch

/-- What can happen next: a job goes on, or the clock moves. -/
inductive Action where
  | goOn (i : Nat)
  | tick

def start (jobs : List Job) (now : Moment) : Batch where
  clock := now
  tasks := jobs.map fun job => { job, state := .fresh }

def jobs (b : Batch) : List Job := b.tasks.map (·.job)

/-- The results of the jobs that have one. -/
def results (b : Batch) : List (Option (Except ArrangeError Arranged)) :=
  b.tasks.map (·.state.result?)

/-- No job can go on, and not all of them have their results. -/
def idle (services : Collaborators) (b : Batch) : Bool :=
  b.tasks.all (fun task => (task.job.step? services b.clock task.state).isNone) &&
    b.tasks.any (·.state.result?.isNone)

/-- Something happens, if it can. -/
def act? (services : Collaborators) (b : Batch) : Action → Option Batch
  | .goOn i => do
    let task ← b.tasks[i]?
    let state ← task.job.step? services b.clock task.state
    return { b with tasks := b.tasks.set i { task with state } }
  | .tick => if b.idle services then some { b with clock := b.clock + 1 } else none

/-- One thing happens after another. -/
def run? (services : Collaborators) : Batch → List Action → Option Batch
  | b, [] => some b
  | b, action :: rest => (b.act? services action).bind fun next => next.run? services rest

/-- How much is left to do at most. -/
def workOf (services : Collaborators) (clock : Moment) : List Task → Nat
  | [] => 0
  | task :: rest => task.state.work task.job services clock + workOf services clock rest

def work (services : Collaborators) (b : Batch) : Nat := workOf services b.clock b.tasks

/-- Each job is on its course. -/
def OnCourse (services : Collaborators) (start : Moment) (b : Batch) : Prop :=
  ∀ task ∈ b.tasks, task.job.OnCourse services start b.clock task.state

variable {services : Collaborators} {now clock : Moment}

theorem onCourse_start (jobs : List Job) : (start jobs now).OnCourse services now := by
  intro task htask
  obtain ⟨job, -, rfl⟩ := List.mem_map.1 htask
  exact .fresh rfl

theorem jobs_start (jobs : List Job) : (start jobs now).jobs = jobs := by
  show (jobs.map _).map _ = jobs
  rw [List.map_map]
  exact List.map_id jobs

-- ---------------------------------------------------------------------------
-- What is left to do
-- ---------------------------------------------------------------------------

theorem workOf_set_lt {tasks : List Task} {i : Nat} {task task' : Task}
    (htask : tasks[i]? = some task)
    (hlt : task'.state.work task'.job services clock < task.state.work task.job services clock) :
    workOf services clock (tasks.set i task') < workOf services clock tasks := by
  induction tasks generalizing i with
  | nil => cases htask
  | cons first rest ih =>
    cases i with
    | zero =>
      obtain rfl := Option.some.inj htask
      exact Nat.add_lt_add_right hlt _
    | succ j => exact Nat.add_lt_add_left (ih htask) _

theorem workOf_tick_le (tasks : List Task) :
    workOf services (clock + 1) tasks ≤ workOf services clock tasks := by
  induction tasks with
  | nil => exact Nat.le_refl 0
  | cons task rest ih => exact Nat.add_le_add (Job.work_tick_le task.state) ih

theorem workOf_tick_lt {tasks : List Task} {task : Task} (htask : task ∈ tasks)
    (hlt : task.state.work task.job services (clock + 1) <
      task.state.work task.job services clock) :
    workOf services (clock + 1) tasks < workOf services clock tasks := by
  induction tasks with
  | nil => cases htask
  | cons first rest ih =>
    rcases List.mem_cons.1 htask with rfl | hrest
    · exact Nat.add_lt_add_of_lt_of_le hlt (workOf_tick_le rest)
    · exact Nat.add_lt_add_of_le_of_lt (Job.work_tick_le first.state) (ih hrest)

-- ---------------------------------------------------------------------------
-- Runs
-- ---------------------------------------------------------------------------

/-- Whatever happens, the jobs stay on their courses, and less is left to do. -/
theorem OnCourse.act? {b b' : Batch} {action : Action} (h : b.OnCourse services now)
    (hact : b.act? services action = some b') :
    b'.OnCourse services now ∧ b'.work services < b.work services ∧ b'.jobs = b.jobs := by
  cases action with
  | goOn i =>
    simp only [Batch.act?, Option.bind_eq_bind, Option.bind_eq_some_iff, Option.pure_def,
      Option.some.injEq] at hact
    obtain ⟨task, htask, state, hstep, rfl⟩ := hact
    have hmem : task ∈ b.tasks := List.mem_of_getElem? htask
    obtain ⟨hcourse, hwork⟩ := (h task hmem).step? hstep
    refine ⟨?_, workOf_set_lt htask hwork, ?_⟩
    · intro other hother
      rcases List.mem_or_eq_of_mem_set hother with hold | rfl
      · exact h other hold
      · exact hcourse
    · -- a job that goes on is still the same job
      obtain ⟨hi, rfl⟩ := List.getElem?_eq_some_iff.1 htask
      have hlt : i < (b.tasks.map (·.job)).length := by rwa [List.length_map]
      have hjob : b.tasks[i].job = (b.tasks.map (·.job))[i] := (List.getElem_map _).symm
      show (b.tasks.set i _).map (·.job) = b.tasks.map (·.job)
      rw [List.map_set, hjob, List.set_getElem_self]
  | tick =>
    simp only [Batch.act?] at hact
    split at hact
    · next hidle =>
      obtain rfl := Option.some.inj hact
      rw [idle, Bool.and_eq_true, List.all_eq_true, List.any_eq_true] at hidle
      obtain ⟨hall, task, htask, hopen⟩ := hidle
      have htick (other : Task) (hother : other ∈ b.tasks) :=
        (h other hother).tick (Option.isNone_iff_eq_none.1 (hall other hother))
      refine ⟨fun other hother => (htick other hother).1, ?_, rfl⟩
      exact workOf_tick_lt htask ((htick task htask).2 (Option.isNone_iff_eq_none.1 hopen))
    · cases hact

theorem OnCourse.run? {b b' : Batch} {actions : List Action} (h : b.OnCourse services now)
    (hrun : b.run? services actions = some b') :
    b'.OnCourse services now ∧ actions.length + b'.work services ≤ b.work services ∧
      b'.jobs = b.jobs := by
  induction actions generalizing b with
  | nil =>
    obtain rfl := Option.some.inj hrun
    exact ⟨h, Nat.le_of_eq (Nat.zero_add _), rfl⟩
  | cons action rest ih =>
    obtain ⟨next, hact, hrest⟩ := Option.bind_eq_some_iff.1 hrun
    obtain ⟨hnext, hless, hjobs⟩ := h.act? hact
    obtain ⟨hlast, hbound, hsame⟩ := ih hnext hrest
    refine ⟨hlast, ?_, hsame.trans hjobs⟩
    rw [List.length_cons]
    omega

/-- As long as a result is missing, something can happen. -/
theorem exists_act? (services : Collaborators) {b : Batch} {task : Task} (htask : task ∈ b.tasks)
    (hopen : task.state.result? = none) : ∃ action b', b.act? services action = some b' := by
  by_cases hidle : b.idle services = true
  · exact ⟨.tick, _, if_pos hidle⟩
  · -- some job can go on
    have hany : b.tasks.any (·.state.result?.isNone) = true :=
      List.any_eq_true.2 ⟨task, htask, Option.isNone_iff_eq_none.2 hopen⟩
    rw [idle, hany, Bool.and_true, Bool.not_eq_true, List.all_eq_false] at hidle
    obtain ⟨other, hother, hgo⟩ := hidle
    obtain ⟨i, hi⟩ := List.mem_iff_getElem?.1 hother
    rw [Option.isNone_iff_eq_none] at hgo
    obtain ⟨state, hstate⟩ := Option.ne_none_iff_exists'.1 hgo
    refine ⟨.goOn i, { b with tasks := b.tasks.set i { other with state } }, ?_⟩
    simp only [act?, hi, Option.bind_eq_bind, Option.bind_some, hstate]
    rfl

theorem OnCourse.results_eq {b : Batch} (h : b.OnCourse services now)
    (hall : ∀ task ∈ b.tasks, task.state.result? ≠ none) :
    b.results = b.jobs.map fun job => some (job.alone services now) := by
  unfold results jobs
  rw [List.map_map]
  refine List.map_congr_left fun task htask => ?_
  obtain ⟨result, hresult⟩ := Option.ne_none_iff_exists'.1 (hall task htask)
  rw [hresult, (h task htask).result hresult]
  rfl

/-- From anywhere on its course a batch can be brought to its end. -/
theorem OnCourse.exists_run? {b : Batch} (h : b.OnCourse services now) :
    ∃ actions final, b.run? services actions = some final ∧
      final.results = b.jobs.map fun job => some (job.alone services now) := by
  by_cases hall : ∃ task ∈ b.tasks, task.state.result? = none
  · obtain ⟨task, htask, hopen⟩ := hall
    obtain ⟨action, next, hact⟩ := exists_act? services htask hopen
    obtain ⟨hnext, hless, hjobs⟩ := h.act? hact
    obtain ⟨actions, final, hrun, hresults⟩ := hnext.exists_run?
    refine ⟨action :: actions, final, ?_, hjobs ▸ hresults⟩
    rw [Batch.run?, hact]
    exact hrun
  · refine ⟨[], b, rfl, h.results_eq ?_⟩
    intro task htask hopen
    exact hall ⟨task, htask, hopen⟩
termination_by b.work services

/-- Jobs that are started together do not notice each other. Whichever order things happen in, the
number of them is bounded, each result is that of the job alone, and so are all results when nothing
more can happen. From wherever a run has come to, this can be reached. -/
theorem run?_alone (services : Collaborators) (jobs : List Job) (now : Moment)
    {actions : List Action} {b : Batch} (h : (start jobs now).run? services actions = some b) :
    actions.length ≤ (start jobs now).work services ∧
      (∀ (i : Nat) (job : Job) result, jobs[i]? = some job →
        b.results[i]? = some (some result) → result = job.alone services now) ∧
      ((∀ action, b.act? services action = none) →
        b.results = jobs.map fun job : Job => some (job.alone services now)) ∧
      ∃ more final, b.run? services more = some final ∧
        final.results = jobs.map fun job : Job => some (job.alone services now) := by
  obtain ⟨hcourse, hwork, hjobs⟩ := (onCourse_start jobs).run? h
  rw [jobs_start] at hjobs
  obtain ⟨more, final, hrun, hresults⟩ := hcourse.exists_run?
  rw [hjobs] at hresults
  refine ⟨Nat.le_trans (Nat.le_add_right _ _) hwork, ?_, ?_, more, final, hrun, hresults⟩
  · intro i job result hjob hresult
    rw [← hjobs, Batch.jobs, List.getElem?_map] at hjob
    rw [results, List.getElem?_map] at hresult
    obtain ⟨task, htask, rfl⟩ := Option.map_eq_some_iff.1 hjob
    rw [htask] at hresult
    exact (hcourse task (List.mem_of_getElem? htask)).result (Option.some.inj hresult)
  · intro hstuck
    -- then the rest of the run is empty
    cases more with
    | nil =>
      obtain rfl := Option.some.inj hrun
      exact hresults
    | cons action rest =>
      rw [Batch.run?, hstuck action] at hrun
      cases hrun

/-- Three searches at once. One is answered, one is given up at the deadline of its request, and one
because its request is cancelled. -/
theorem run?_alone_searches :
    let services : Collaborators := {
      generator := ⟨fun _ _ _ _ => { answer := none }⟩
      searcher := some ⟨fun _ _ query => { answer := some {
        after := 2
        result := .ok [⟨"About " ++ query.text, query.scoreThreshold, none⟩] } }⟩ }
    let plan := { Plan.passthrough with search := true }
    let jobs : List Job := [⟨plan, {}, {}, [.user (.plain "Why?")]⟩,
      ⟨plan, {}, { deadline := some 8 }, [.user (.plain "How?")]⟩,
      ⟨plan, {}, { cancelledFrom := some 8 }, [.user (.plain "When?")]⟩]
    let actions : List Action := [.goOn 0, .goOn 1, .goOn 1, .goOn 2, .goOn 0, .goOn 2, .tick,
      .goOn 2, .goOn 1, .goOn 1, .goOn 2, .tick, .goOn 0, .goOn 0]
    ∃ b, (start jobs 7).run? services actions = some b ∧
      b.results.map (·.isSome) = [true, true, true] ∧
      ∀ (i : Nat) (job : Job) result, jobs[i]? = some job →
        b.results[i]? = some (some result) → result = job.alone services 7 := by
  intro services plan jobs actions
  have hrun : ((start jobs 7).run? services actions).map (fun b => b.results.map (·.isSome)) =
      some [true, true, true] := by
    decide +kernel
  obtain ⟨b, hb, hresults⟩ := Option.map_eq_some_iff.1 hrun
  exact ⟨b, hb, hresults, (run?_alone services jobs 7 hb).2.1⟩

end Batch

end PromptBudget
