import PromptBudget.Http.Completions
import PromptBudget.Proofs.CanonicalForms
import PromptBudget.Proofs.Requests
import PromptBudget.Proofs.StageEffects
import PromptBudget.Proofs.Edits

/-!
# PromptBudget — what the generator is sent

The generator over HTTP sends messages in the form in which the client gave them. The service reads
them as they are, with the fields that were kept without being interpreted, if none of these fields
has the name of a known one: such a field is sent in the place of the known one.

No message that was read has such a field, and nothing that happens to a conversation brings one
in. Edits keep the fields of messages and blocks or take whole blocks away
(`Conversation.Unambiguous.perform?`), and what a stage does is done by edits
(`Stage.Kind.comesBy_run`). So a summary is asked for with all that the older part says, if it can
be asked for: nothing is sent if the credentials do not fit into a header.

Main results:

* `Message.decode?_canonical_encode_iff` — which messages are read as they were sent.
* `Conversation.Arises.unambiguous` — the messages of a conversation are such messages.
* `Conversation.Arises.run` — what a pipeline leaves of such a conversation is one again.
* `Http.Completions.posts_iff` — which request the generator makes.
* `Http.Completions.generate_keepsMessages` — when the service reads what it is asked about.
* `Http.Completions.not_generate_keepsMessages` — not all messages are read, nor all requests sent.
-/

namespace PromptBudget

open Json

-- ---------------------------------------------------------------------------
-- Messages that are read as they are written
-- ---------------------------------------------------------------------------

/-- The message for the one who is sent it: all but where it came from. -/
def Message.received (m : Message) : Message := { m with origin := .client }

namespace Message

theorem unambiguous_received {m : Message} : m.received.Unambiguous ↔ m.Unambiguous :=
  ⟨fun h => ⟨h.extras, h.blocks⟩, fun h => ⟨h.extras, h.blocks⟩⟩

/-- What was built for a message is read as this message exactly if its kept fields have names of
their own. -/
theorem decode?_canonical_encode_iff {m : Message} :
    decode? (canonical m.encode) = some m.received ↔ m.Unambiguous :=
  ⟨fun h => unambiguous_received.1 (unambiguous_of_decode? h),
    fun h => decode?_canonical (decode?_encode h)⟩

/-- These are the messages that can be read at all. -/
theorem unambiguous_iff_exists {m : Message} :
    m.Unambiguous ↔ ∃ value, decode? value = some m.received :=
  ⟨fun h => ⟨m.encode, decode?_encode h⟩,
    fun ⟨_, h⟩ => unambiguous_received.1 (unambiguous_of_decode? h)⟩

/-- A message that is only a text has no kept fields. -/
theorem unambiguous_plain (role : Role) (s : String) (origin : Origin) :
    Unambiguous { role, content := .plain s, origin } := by
  refine ⟨fun _ _ => rfl, fun b hb => ?_⟩
  rw [Content.toBlocks] at hb
  split at hb
  · cases hb
  · rw [List.mem_singleton.1 hb]
    exact fun _ _ => rfl

theorem Unambiguous.push {m : Message} {b : Block} (h : m.Unambiguous)
    (hb : b.extras.Avoids Block.fieldNames) : (m.push b).Unambiguous := by
  refine ⟨h.extras, fun block hblock => ?_⟩
  rcases List.mem_append.1 hblock with hold | hnew
  · exact h.blocks block hold
  · rwa [List.mem_singleton.1 hnew]

theorem decode?_list_iff {messages : List Message} :
    ((messages.map encode).map canonical).mapM decode? = some (messages.map received) ↔
      ∀ m ∈ messages, m.Unambiguous := by
  rw [List.map_map, mapM_eq_some_iff, List.forall₂_map_left_iff, List.forall₂_map_right_iff,
    List.forall₂_same]
  exact forall₂_congr fun m _ => decode?_canonical_encode_iff

end Message

-- ---------------------------------------------------------------------------
-- Edits
-- ---------------------------------------------------------------------------

/-- Blocks of which a part has been cut out keep their fields. -/
theorem Content.exists_extras_of_cutBlocks? {start stop : Nat} {bs kept : List Block}
    (h : cutBlocks? start stop bs = some kept) :
    ∀ b ∈ kept, ∃ given ∈ bs, b.extras = given.extras := by
  induction bs generalizing start stop kept with
  | nil =>
    obtain rfl := Option.some.inj h
    exact fun b hb => ⟨b, hb, rfl⟩
  | cons given bs ih =>
    -- what is left of the other blocks is left of them wherever the cut goes on
    have hrest {start stop : Nat} {more : List Block} (hmore : cutBlocks? start stop bs = some more)
        (b : Block) (hb : b ∈ more) : ∃ other ∈ given :: bs, b.extras = other.extras := by
      obtain ⟨other, hother, hextras⟩ := ih hmore b hb
      exact ⟨other, List.mem_cons_of_mem _ hother, hextras⟩
    have hcons {start stop : Nat} {text : String}
        (h : (cutBlocks? start stop bs).map ({ given with text } :: ·) = some kept)
        (b : Block) (hb : b ∈ kept) : ∃ other ∈ given :: bs, b.extras = other.extras := by
      obtain ⟨more, hmore, rfl⟩ := Option.map_eq_some_iff.1 h
      rcases List.mem_cons.1 hb with rfl | hb
      · exact ⟨given, List.mem_cons_self, rfl⟩
      · exact hrest hmore b hb
    simp only [cutBlocks?] at h
    split at h
    · split at h
      · exact hcons h
      · split at h
        · cases h
        · exact hrest h
        · exact hcons h
    · exact hcons h

theorem Message.Unambiguous.removeText? {m : Message} {start stop : Nat} {content : Content}
    (hm : m.Unambiguous) (h : m.content.removeText? start stop = some content) :
    ∀ b ∈ content.toBlocks, b.extras.Avoids Block.fieldNames := by
  cases hcontent : m.content with
  | plain s =>
    rw [hcontent] at h
    obtain ⟨kept, -, rfl⟩ := Option.map_eq_some_iff.1 h
    exact (unambiguous_plain m.role _ m.origin).blocks
  | blocks bs =>
    rw [hcontent] at h
    obtain ⟨kept, hkept, rfl⟩ := Option.map_eq_some_iff.1 h
    intro b hb
    obtain ⟨given, hgiven, hextras⟩ := Content.exists_extras_of_cutBlocks? hkept b hb
    rw [hextras]
    exact hm.blocks given (by rwa [hcontent])

/-- An edit brings in no kept field with the name of a known one. -/
def Edit.Unambiguous : Edit → Prop
  | appendToSystem b => b.extras.Avoids Block.fieldNames
  | appendToLastUser b => b.extras.Avoids Block.fieldNames
  | editLastUser f => ∀ m, m.Unambiguous → (f m).Unambiguous
  | replaceOlder m => m.Unambiguous
  | _ => True

namespace Conversation

/-- In no message of a conversation a kept field has the name of a known one. -/
structure Unambiguous (c : Conversation) : Prop where
  messages : ∀ m ∈ c.messages, m.Unambiguous
  standIn : c.standIn.Unambiguous

variable {c d : Conversation}

theorem Unambiguous.of_mem_older (hc : c.Unambiguous) {m : Message} (hm : m ∈ c.older) :
    m.Unambiguous :=
  hc.messages m (List.mem_of_mem_drop (List.mem_of_mem_take hm))

theorem Unambiguous.systemMessage (hc : c.Unambiguous) : c.systemMessage.Unambiguous := by
  rw [Conversation.systemMessage]
  cases h : c.systemIndex.bind (c.messages[·]?) with
  | none => exact hc.standIn
  | some m =>
    obtain ⟨i, -, hi⟩ := Option.bind_eq_some_iff.1 h
    exact hc.messages m (List.mem_of_getElem? hi)

theorem unambiguous_modify {messages : List Message} (h : ∀ m ∈ messages, m.Unambiguous) (i : Nat)
    {f : Message → Message} (hf : ∀ m, messages[i]? = some m → (f m).Unambiguous) :
    ∀ m ∈ messages.modify i f, m.Unambiguous := by
  intro m hm
  obtain ⟨k, hk⟩ := List.mem_iff_getElem?.1 hm
  rw [List.getElem?_modify] at hk
  obtain ⟨given, hgiven, rfl⟩ := Option.map_eq_some_iff.1 hk
  split
  · next hik => exact hf given (hik ▸ hgiven)
  · exact h given (List.mem_of_getElem? hgiven)

/-- Editing the system message needs to look only at that message. -/
theorem Unambiguous.editSystem (hc : c.Unambiguous) {f : Message → Message}
    (hf : (f c.systemMessage).Unambiguous) : (c.editSystem f).Unambiguous := by
  rw [Conversation.editSystem]
  cases h : c.systemIndex with
  | none =>
    rw [Conversation.systemMessage, h, Option.bind_none, Option.getD_none] at hf
    exact ⟨hc.messages, hf⟩
  | some i =>
    refine ⟨unambiguous_modify hc.messages i fun m hm => ?_, hc.standIn⟩
    rwa [Conversation.systemMessage, h, Option.bind_some, hm, Option.getD_some] at hf

theorem Unambiguous.editLastUser? (hc : c.Unambiguous) {f : Message → Message}
    (hf : ∀ m, m.Unambiguous → (f m).Unambiguous) (h : c.editLastUser? f = some d) :
    d.Unambiguous := by
  obtain ⟨i, -, rfl⟩ := Option.map_eq_some_iff.1 h
  exact ⟨unambiguous_modify hc.messages i fun m hm =>
    hf m (hc.messages m (List.mem_of_getElem? hm)), hc.standIn⟩

theorem Unambiguous.replaceOlder (hc : c.Unambiguous) {m : Message} (hm : m.Unambiguous) :
    (c.replaceOlder m).2.Unambiguous := by
  rw [Conversation.replaceOlder]
  split
  · exact hc
  · refine ⟨fun other hother => ?_, hc.standIn⟩
    rcases List.mem_append.1 hother with hfront | hback
    · exact hc.messages other (List.mem_of_mem_take hfront)
    · rcases List.mem_cons.1 hback with rfl | hback
      · exact hm
      · exact hc.messages other (List.mem_of_mem_drop hback)

/-- One edit. -/
theorem Unambiguous.perform? (hc : c.Unambiguous) {e : Edit} (he : e.Unambiguous)
    (h : e.perform? c = some d) : d.Unambiguous := by
  cases e with
  | setSystemText text =>
    obtain rfl := Option.some.inj h
    exact hc.editSystem ⟨hc.systemMessage.extras,
      (Message.unambiguous_plain .system text .client).blocks⟩
  | removeSystemText start stop =>
    obtain ⟨content, hcontent, rfl⟩ := Option.map_eq_some_iff.1 h
    exact hc.editSystem ⟨hc.systemMessage.extras, hc.systemMessage.removeText? hcontent⟩
  | appendToSystem b =>
    obtain rfl := Option.some.inj h
    exact hc.editSystem (hc.systemMessage.push he)
  | appendToLastUser b =>
    obtain rfl := Option.some.inj h
    rw [appendToLastUser]
    cases hedited : c.editLastUser? (·.push b) with
    | none => exact hc
    | some edited => exact hc.editLastUser? (fun m hm => hm.push he) hedited
  | editLastUser f =>
    obtain rfl := Option.some.inj h
    cases hedited : c.editLastUser? f with
    | none => exact hc
    | some edited => exact hc.editLastUser? he hedited
  | replaceOlder m =>
    obtain rfl := Option.some.inj h
    exact hc.replaceOlder he
  | setDiagnostics d =>
    obtain rfl := Option.some.inj h
    exact ⟨hc.messages, hc.standIn⟩

/-- Edits, one after another. -/
theorem Unambiguous.run? (hc : c.Unambiguous) {edits : List Edit}
    (hedits : ∀ e ∈ edits, e.Unambiguous) (h : Edit.run? c edits = some d) : d.Unambiguous := by
  induction edits generalizing c with
  | nil =>
    obtain rfl := Option.some.inj h
    exact hc
  | cons e edits ih =>
    rw [Edit.run?, List.foldlM_cons] at h
    obtain ⟨next, hnext, hrest⟩ := Option.bind_eq_some_iff.1 h
    exact ih (hc.perform? (hedits e List.mem_cons_self) hnext)
      (fun other hother => hedits other (List.mem_cons_of_mem _ hother)) hrest

end Conversation

-- ---------------------------------------------------------------------------
-- Stages
-- ---------------------------------------------------------------------------

/-- A conversation comes from another by edits that bring in no ambiguity. -/
def Conversation.ComesBy (c d : Conversation) : Prop :=
  ∃ edits : List Edit, (∀ e ∈ edits, e.Unambiguous) ∧ Edit.run? c edits = some d

namespace Conversation.ComesBy

variable {c d : Conversation}

theorem refl (c : Conversation) : c.ComesBy c := ⟨[], nofun, rfl⟩

theorem one {e : Edit} (he : e.Unambiguous) (h : e.perform? c = some d) : c.ComesBy d := by
  refine ⟨[e], List.forall_mem_singleton.2 he, ?_⟩
  rw [Edit.run?, List.foldlM_cons, h]
  rfl

theorem trans {b : Conversation} (h : b.ComesBy c) (h' : c.ComesBy d) : b.ComesBy d := by
  obtain ⟨first, hfirst, hc⟩ := h
  obtain ⟨rest, hrest, hd⟩ := h'
  refine ⟨first ++ rest, List.forall_mem_append.2 ⟨hfirst, hrest⟩, ?_⟩
  rw [Edit.run?] at hc ⊢
  rw [List.foldlM_append, hc]
  exact hd

/-- Only the diagnostics are other ones. -/
theorem noted (c : Conversation) (diagnostics : Diagnostics) : c.ComesBy { c with diagnostics } :=
  one (e := .setDiagnostics diagnostics) trivial rfl

theorem appendToLastUser {b : Block} (hb : b.extras.Avoids Block.fieldNames)
    (h : c.appendToLastUser b = .ok d) : c.ComesBy d := by
  refine one (e := .appendToLastUser b) hb ?_
  rw [Edit.perform?, h]
  rfl

theorem unambiguous (h : c.ComesBy d) (hc : c.Unambiguous) : d.Unambiguous := by
  obtain ⟨edits, hedits, hd⟩ := h
  exact hc.run? hedits hd

end Conversation.ComesBy

namespace Stage.Work

/-- From a conversation, work leads to one that comes from it, also if something goes wrong. -/
def ByEdits (work : Work α) (c : Conversation) : Prop :=
  match work c with
  | .ok _ d => c.ComesBy d
  | .error _ d => c.ComesBy d

theorem byEdits_make {edit : Conversation → Except StageError Conversation} {c : Conversation}
    (h : ∀ d, edit c = .ok d → c.ComesBy d) : (make edit).ByEdits c := by
  unfold ByEdits make
  cases hedit : edit c with
  | ok d => exact h d hedit
  | error e => exact .refl c

theorem byEdits_pure (a : α) (c : Conversation) : ByEdits (pure a : Work α) c := .refl c

theorem byEdits_throw (e : StageError) (c : Conversation) : ByEdits (throw e : Work α) c := .refl c

/-- Work that goes on from what was left. -/
theorem ByEdits.bind {work : Work α} {next : α → Work β} {c : Conversation}
    (h : work.ByEdits c) (hnext : ∀ a d, (next a).ByEdits d) : ByEdits (work >>= next) c := by
  unfold ByEdits at h ⊢
  cases hwork : work c with
  | ok a d =>
    rw [hwork] at h
    have hrest := hnext a d
    unfold ByEdits at hrest
    rw [bind_of_ok hwork]
    cases hend : next a d with
    | ok b e =>
      rw [hend] at hrest
      exact h.trans hrest
    | error e e' =>
      rw [hend] at hrest
      exact h.trans hrest
  | error e d =>
    rw [hwork] at h
    rw [bind_of_error hwork]
    exact h

end Stage.Work

namespace Stage.Outcome

variable {c : Conversation} {context : RequestContext} {now : Moment}

/-- A stage that ends with its work. -/
theorem comesBy_worked {work : Stage.Work Bool} (h : work.ByEdits c) :
    c.ComesBy (worked work c context now).conversation := by
  unfold Stage.Work.ByEdits at h
  unfold worked
  split at h <;> rwa [‹work c = _›]

theorem comesBy_ofCall {service : Service ρ α} {question : ρ} {limit : Duration}
    {decide : α → Stage.Work Bool} (h : ∀ value, (decide value).ByEdits c) :
    c.ComesBy (ofCall service question limit c context now decide).conversation := by
  have hwork (result : Except ServiceError α) :
      (Stage.Work.onAnswer result decide).ByEdits c := by
    cases result with
    | error e => exact Stage.Work.byEdits_throw _ c
    | ok value => exact h value
  exact comesBy_worked (hwork _)

end Stage.Outcome

/-- What a stage does to a conversation is done by edits, and these bring in no ambiguity: the
blocks and the summary that a stage writes have no fields but those it knows. -/
theorem Stage.Kind.comesBy_run (k : Stage.Kind) (c : Conversation) (context : RequestContext)
    (now : Moment) : c.ComesBy (k.stage.run c context now).conversation := by
  have hnone : Extras.none.Avoids Block.fieldNames := fun _ _ => rfl
  cases k with
  | toolDocs settings =>
    simp only [stage, ToolDocs.stage]
    split
    · exact .refl c
    · next found _ =>
      refine Stage.Outcome.comesBy_worked (.bind (.bind ?_ fun _ given => ?_) fun _ moved => ?_)
      · exact Stage.Work.byEdits_make fun given hgiven => .appendToLastUser hnone hgiven
      · refine Stage.Work.byEdits_make fun moved hmoved => ?_
        simp only [ToolDocs.cut] at hmoved
        split at hmoved
        · next shorter hshorter =>
          obtain rfl := Except.ok.inj hmoved
          exact .one (e := .removeSystemText _ _) trivial hshorter
        · cases hmoved
      · exact Stage.Work.byEdits_pure true moved
  | loopBreak =>
    simp only [stage, LoopBreak.stage]
    split
    · refine Stage.Outcome.comesBy_worked (.bind ?_ fun _ => Stage.Work.byEdits_pure true)
      exact Stage.Work.byEdits_make fun d hd => .appendToLastUser hnone hd
    · exact .refl c
  | passages searcher options =>
    simp only [stage, Passages.stage]
    split
    · exact .refl c
    · refine Stage.Outcome.comesBy_ofCall fun hits => ?_
      simp only [Passages.useHits]
      split
      · exact Stage.Work.byEdits_pure false c
      · refine .bind (Stage.Work.byEdits_make fun injected hinjected => ?_)
          fun _ injected => .noted injected _
        cases htarget : options.target with
        | lastUser =>
          rw [htarget] at hinjected
          exact .appendToLastUser hnone hinjected
        | system =>
          rw [htarget] at hinjected
          exact .one (e := .appendToSystem (Passages.block _)) hnone
            (congrArg some (Except.ok.inj hinjected))
  | summary generator tokenThreshold timeout counter =>
    simp only [stage, Summary.stage]
    split
    · exact .refl c
    · refine Stage.Outcome.comesBy_ofCall fun summary => ?_
      unfold Summary.useSummary
      split
      · exact Stage.Work.byEdits_throw _ c
      · show c.ComesBy (Summary.compressed counter _ summary c)
        refine .trans (.one (e := .replaceOlder (Summary.summaryMessage summary)) ?_ rfl)
          (.noted _ _)
        exact Message.unambiguous_plain .user _ .compression

-- ---------------------------------------------------------------------------
-- Conversations that arise
-- ---------------------------------------------------------------------------

/-- A conversation that messages which can be read lead to by stages, and by edits that bring in no
ambiguity, in any order. -/
inductive Conversation.Arises : Conversation → Prop where
  | fresh {messages : List Message} {window : Nat} {c : Conversation}
      (hread : ∀ m ∈ messages, ∃ value, Message.decode? value = some m)
      (h : Conversation.ofMessages? messages window = .ok c) : Arises c
  | edited {c d : Conversation} (hc : Arises c) (e : Edit) (he : e.Unambiguous)
      (h : e.perform? c = some d) : Arises d
  | staged {c : Conversation} (hc : Arises c) (k : Stage.Kind) (context : RequestContext)
      (now : Moment) : Arises (k.stage.run c context now).conversation

theorem Conversation.Arises.unambiguous {c : Conversation} (hc : c.Arises) : c.Unambiguous := by
  induction hc with
  | @fresh messages window c hread h =>
    have hmessages : ∀ m ∈ messages, m.Unambiguous := fun m hm => by
      obtain ⟨value, hvalue⟩ := hread m hm
      exact Message.unambiguous_of_decode? hvalue
    rw [ofMessages?] at h
    split at h
    · cases h
    · obtain rfl := Except.ok.inj h
      exact ⟨hmessages, Message.unambiguous_plain .system "" .client⟩
  | edited _ e he h ih => exact ih.perform? he h
  | staged _ k context now ih => exact (k.comesBy_run _ context now).unambiguous ih

/-- Such a conversation is what the stages of a pipeline find, each after those before it. -/
theorem Conversation.Arises.run {p : Pipeline.Progress} (hp : p.conversation.Arises)
    (kinds : List Stage.Kind) :
    (Pipeline.run (kinds.map (·.stage)) p).conversation.Arises := by
  induction kinds generalizing p with
  | nil => exact hp
  | cons k kinds ih =>
    refine ih (.edited (.staged hp k p.context p.now) (.setDiagnostics _) ?_ rfl)
    exact trivial

-- ---------------------------------------------------------------------------
-- What is posted
-- ---------------------------------------------------------------------------

deriving instance DecidableEq for Http.Request

namespace Http.Completions

/-- The generator of some settings posts a request for messages: through any transport and under any
bounds, its call is the call for this request. -/
def Posts (settings : LlmSettings) (systemPrompt : String) (messages : List Message)
    (request : Request) : Prop :=
  ∀ (transport : Transport) (context : RequestContext) (now : Moment),
    (generator transport settings).generate context now systemPrompt messages =
      ((transport.send request).map (classify answerText)).guarded context now none

variable {settings : LlmSettings} {systemPrompt : String} {messages : List Message}
  {request : Request}

theorem posts_iff : Posts settings systemPrompt messages request ↔
    request? settings systemPrompt messages = some request := by
  constructor
  · intro h
    -- a network that never answers, and is reached by this request only
    have hseen := h { send := fun other => { answer := none, started := other = request } } {} 0
    simp only [generator, Call.guarded_unbounded] at hseen
    cases hrequest : request? settings systemPrompt messages with
    | none =>
      rw [hrequest] at hseen
      cases congrArg Call.answer hseen
    | some other =>
      rw [hrequest] at hseen
      have hreached : decide (other = request) = decide True := congrArg Call.started hseen
      rw [decide_eq_decide] at hreached
      rw [hreached.2 trivial]
  · intro h transport context now
    simp only [generator, h]

/-- Only credentials that cannot stand in a header keep a request from being posted. -/
theorem exists_posts_iff : (∃ request, Posts settings systemPrompt messages request) ↔
    ∀ credentials, authorization settings.apiKey = some credentials →
      isHeaderValue credentials = true := by
  simp only [posts_iff, request?]
  cases authorization settings.apiKey with
  | none => simp
  | some credentials => simp

theorem body_of_posts (h : Posts settings systemPrompt messages request) :
    request.url = url settings.endpoint ∧
      request.body = requestBody settings.summaryModel systemPrompt messages := by
  rw [posts_iff, request?] at h
  split at h
  · obtain rfl := Option.some.inj h
    exact ⟨rfl, rfl⟩
  · cases h

/-- The messages of a body are those that were built into it. -/
theorem bodyMessages?_requestBody {model : String} :
    bodyMessages? (requestBody model systemPrompt messages) =
      (((requestMessages systemPrompt messages).map Message.encode).map canonical).mapM
        Message.decode? := by
  have honce : occurrences "messages" [("model", Json.string model),
      ("messages", .array ((requestMessages systemPrompt messages).map Message.encode)),
      ("stream", .bool false)] = 1 := rfl
  rw [requestBody, canonical, bodyMessages?, if_pos (occurrences_canonical honce),
    lookup_canonical (Nat.le_of_eq honce), ← canonicalItems_eq_map]
  rfl

theorem bodyMessages?_requestBody_iff {model : String} :
    bodyMessages? (requestBody model systemPrompt messages) =
        some ((if systemPrompt = "" then [] else [.system (.plain systemPrompt)]) ++
          messages.map Message.received) ↔
      ∀ m ∈ messages, m.Unambiguous := by
  have hprompt : (requestMessages systemPrompt messages).map Message.received =
      (if systemPrompt = "" then [] else [.system (.plain systemPrompt)]) ++
        messages.map Message.received := by
    rw [requestMessages, List.map_append]
    simp only [String.isEmpty_iff]
    split <;> rfl
  rw [bodyMessages?_requestBody, ← hprompt, Message.decode?_list_iff, requestMessages,
    List.forall_mem_append]
  refine and_iff_right fun m hm => ?_
  split at hm
  · cases hm
  · rw [List.mem_singleton.1 hm]
    exact Message.unambiguous_plain .system systemPrompt .client

end Http.Completions

-- ---------------------------------------------------------------------------
-- Asking for a summary
-- ---------------------------------------------------------------------------

theorem Summary.systemPrompt_ne : systemPrompt ≠ "" := by
  decide +kernel

/-- The stage asks for a summary of the older part, or it asks for nothing. -/
theorem Summary.consultations_run (generator : Generator) (tokenThreshold : Nat)
    (timeout : Duration) (counter : TokenCounter) (c : Conversation) (context : RequestContext)
    (now : Moment) :
    ((stage generator tokenThreshold timeout counter).run c context now).consultations = [] ∨
      ((stage generator tokenThreshold timeout counter).run c context now).consultations =
        [⟨now, .generation systemPrompt (request c.older)⟩] := by
  simp only [stage]
  split
  · exact Or.inl rfl
  · simp only [Stage.Outcome.ofCall]
    split
    · exact Or.inr rfl
    · exact Or.inl rfl

namespace Http.Completions

/-- The body of a request gives the system prompt, unless it is empty, and then the messages with
their roles, contents and other fields, exactly if no kept field of a message has the name of a
known one; a message that can be read at all has no such field, and neither has one of a
conversation that arises. When the summary stage asks the generator, it asks about the older part
and what to do with it. A request is posted for this unless the credentials cannot stand in a
header, and what is posted has every message as it is and in order, between the system prompt and
the instruction, exactly if the older messages have no such field. -/
theorem generate_keepsMessages :
    (∀ model systemPrompt messages,
      bodyMessages? (requestBody model systemPrompt messages) =
          some ((if systemPrompt = "" then [] else [.system (.plain systemPrompt)]) ++
            messages.map Message.received) ↔
        ∀ m ∈ messages, m.Unambiguous) ∧
    (∀ m : Message, m.Unambiguous ↔ ∃ value, Message.decode? value = some m.received) ∧
    (∀ settings systemPrompt messages request, Posts settings systemPrompt messages request →
      request.url = url settings.endpoint ∧
      request.body = requestBody settings.summaryModel systemPrompt messages) ∧
    (∀ c : Conversation, c.Arises → ∀ m ∈ c.older, m.Unambiguous) ∧
    ∀ (c : Conversation) settings transport tokenThreshold timeout counter context now,
      let out := (Summary.stage (generator transport settings) tokenThreshold timeout counter).run
        c context now
      let asked := c.older ++ [.user (.plain Summary.instruction)]
      out.consultations ≠ [] →
        out.consultations = [⟨now, .generation Summary.systemPrompt asked⟩] ∧
        ((∃ request, Posts settings Summary.systemPrompt asked request) ↔
          ∀ credentials, authorization settings.apiKey = some credentials →
            isHeaderValue credentials = true) ∧
        ∀ request, Posts settings Summary.systemPrompt asked request →
          (bodyMessages? request.body =
              some (.system (.plain Summary.systemPrompt) :: c.older.map Message.received ++
                [.user (.plain Summary.instruction)]) ↔
            ∀ m ∈ c.older, m.Unambiguous) := by
  refine ⟨fun model systemPrompt messages => bodyMessages?_requestBody_iff,
    fun m => Message.unambiguous_iff_exists,
    fun settings systemPrompt messages request hposts => body_of_posts hposts,
    fun c hc m hm => hc.unambiguous.of_mem_older hm, ?_⟩
  intro c settings transport tokenThreshold timeout counter context now out asked hasked
  refine ⟨?_, exists_posts_iff, fun request hposts => ?_⟩
  · exact (Summary.consultations_run _ tokenThreshold timeout counter c context now).resolve_left
      hasked
  · have hsent : (.system (.plain Summary.systemPrompt) :: c.older.map Message.received ++
        [.user (.plain Summary.instruction)] : List Message) =
        (if Summary.systemPrompt = "" then [] else [.system (.plain Summary.systemPrompt)]) ++
          asked.map Message.received := by
      rw [if_neg Summary.systemPrompt_ne, List.map_append]
      rfl
    rw [(body_of_posts hposts).2, hsent, bodyMessages?_requestBody_iff]
    -- the instruction is only a text
    exact List.forall_mem_append.trans (and_iff_left
      (List.forall_mem_singleton.2 (Message.unambiguous_plain .user _ .client)))

/-- A call to a tool and its answer, which have the same identifier, are to be summarised after
another stage has run. -/
theorem generate_keepsMessages_tools :
    let call : Message :=
      { role := .assistant, content := .plain "",
        extras := .ofFields [("tool_calls", .array [.object [("id", .string "c1")]])] }
    let answer : Message := .tool "c1" (.plain "Done")
    ∃ fresh c request, Conversation.ofMessages? [.user (.plain "Go"), call, answer,
        .user (.plain "Why?")] 1 = .ok fresh ∧
      (Pipeline.run ([Stage.Kind.loopBreak].map (·.stage))
        { conversation := fresh, context := {}, now := 0 }).conversation = c ∧ c.Arises ∧
      ((Summary.stage (generator (.offline "down") {}) 0 60).run c {} 0).consultations ≠ [] ∧
      Posts {} Summary.systemPrompt (c.older ++ [.user (.plain Summary.instruction)]) request ∧
      bodyMessages? request.body = some [.system (.plain Summary.systemPrompt),
        .user (.plain "Go"), call, answer, .user (.plain Summary.instruction)] := by
  intro call answer
  obtain ⟨fresh, hfresh⟩ : ∃ fresh, Conversation.ofMessages? [.user (.plain "Go"), call, answer,
    .user (.plain "Why?")] 1 = .ok fresh := ⟨_, rfl⟩
  obtain ⟨c, hc⟩ : ∃ c, (Pipeline.run ([Stage.Kind.loopBreak].map (·.stage))
    { conversation := fresh, context := {}, now := 0 }).conversation = c := ⟨_, rfl⟩
  have harises : c.Arises := by
    have hread : ∀ m ∈ [.user (.plain "Go"), call, answer, .user (.plain "Why?")],
        ∃ value, Message.decode? value = some m := by
      simp only [List.forall_mem_cons]
      exact ⟨⟨_, Message.decode?_encode (m := .user (.plain "Go")) ⟨by decide, by decide⟩⟩,
        ⟨_, Message.decode?_encode (m := call) ⟨by decide, by decide⟩⟩,
        ⟨_, Message.decode?_encode (m := answer) ⟨by decide, by decide⟩⟩,
        ⟨_, Message.decode?_encode (m := .user (.plain "Why?")) ⟨by decide, by decide⟩⟩, nofun⟩
    exact hc ▸ Conversation.Arises.run (.fresh hread hfresh) [.loopBreak]
  have hasked : ((Summary.stage (generator (.offline "down") {}) 0 60).run c {}
      0).consultations ≠ [] := by
    obtain rfl := Except.ok.inj hfresh
    obtain rfl := hc
    exact List.cons_ne_nil _ _
  obtain ⟨-, -, -, hunambiguous, hstage⟩ := generate_keepsMessages
  obtain ⟨-, hposted, hbody⟩ := hstage c {} (.offline "down") 0 60 .heuristic {} 0 hasked
  obtain ⟨request, hposts⟩ := hposted.2 nofun
  refine ⟨fresh, c, request, hfresh, hc, harises, hasked, hposts,
    ((hbody request hposts).2 (hunambiguous c harises)).trans ?_⟩
  obtain rfl := Except.ok.inj hfresh
  obtain rfl := hc
  rfl

/-- A message with a second role among its kept fields is sent with this role, and credentials of
two lines keep the generator that was asked from posting anything. -/
theorem not_generate_keepsMessages :
    (¬ ∀ model systemPrompt messages,
      bodyMessages? (requestBody model systemPrompt messages) =
        some ((if systemPrompt = "" then [] else [.system (.plain systemPrompt)]) ++
          messages.map Message.received)) ∧
    ¬ ∀ (c : Conversation) settings transport tokenThreshold timeout context now, c.Arises →
      ((Summary.stage (generator transport settings) tokenThreshold timeout).run
        c context now).consultations ≠ [] →
      ∃ request, Posts settings Summary.systemPrompt
        (c.older ++ [.user (.plain Summary.instruction)]) request := by
  constructor
  · intro h
    have hback := h "m" "" [{ Message.user (.plain "Hi") with
      extras := .ofFields [("role", .string "assistant")] }]
    have hunambiguous := bodyMessages?_requestBody_iff.1 hback
    exact absurd (List.forall_mem_singleton.1 hunambiguous).extras (by decide)
  · intro h
    obtain ⟨c, hc⟩ : ∃ c, Conversation.ofMessages? [.user (.plain "Go"), .user (.plain "Why?")] 1 =
      .ok c := ⟨_, rfl⟩
    have hread : ∀ m ∈ [Message.user (.plain "Go"), .user (.plain "Why?")],
        ∃ value, Message.decode? value = some m := by
      simp only [List.forall_mem_cons]
      exact ⟨⟨_, Message.decode?_encode (m := .user (.plain "Go")) ⟨by decide, by decide⟩⟩,
        ⟨_, Message.decode?_encode (m := .user (.plain "Why?")) ⟨by decide, by decide⟩⟩, nofun⟩
    have hposted := h c { apiKey := some "a\nb" } (.offline "down") 0 60 {} 0 (.fresh hread hc) (by
      obtain rfl := Except.ok.inj hc
      exact List.cons_ne_nil _ _)
    have hheader := exists_posts_iff.1 hposted _ rfl
    exact absurd hheader (by decide)

end Http.Completions

end PromptBudget
