import PromptBudget.Proofs.FoundPassages
import PromptBudget.Proofs.Loops
import PromptBudget.Proofs.ToolDocumentation

/-!
# PromptBudget — why a stage can fail

A stage has more ways to fail than it ever takes. It could find no user message to add to, or a
place for a cut that is none. As long as edits leave it as it is who speaks, most of these ways are
closed: where there is an older part, or where something was asked, there is a user message too.

`Conversation.Fails` lists the ways that are left. Tool documentation has no message to go to, a
service fails, or a summary has no text.

Main results:

* `Conversation.Attained.exists_sound` — what such edits and stages lead to is joined from sound
  parts.
* `Conversation.Attained.stage_fails_iff` — a stage fails in one of these ways and in no other.
-/

namespace PromptBudget

-- ---------------------------------------------------------------------------
-- Conversations in which nobody takes the part of another
-- ---------------------------------------------------------------------------

/-- An edit leaves it as it is who speaks: an edited message keeps its role, and no system message
takes the place of the older part. -/
def Edit.KeepsRoles : Edit → Prop
  | editLastUser f => ∀ m, (f m).role = m.role
  | replaceOlder m => m.role ≠ .system
  | _ => True

/-- A conversation that such edits and stages, in any order, lead to. -/
inductive Conversation.Attained : Conversation → Prop where
  | fresh {messages : List Message} {window : Nat} {c : Conversation}
      (h : Conversation.ofMessages? messages window = .ok c) : Attained c
  | edited {c d : Conversation} (hc : Attained c) (e : Edit) (he : e.KeepsRoles)
      (h : e.perform? c = some d) : Attained d
  | staged {c : Conversation} (hc : Attained c) (k : Stage.Kind) (context : RequestContext)
      (now : Moment) :
      Attained (k.stage.run c context now).conversation

theorem Edit.KeepsRoles.sound {o o' : Outline} {e : Edit} (he : e.KeepsRoles) (ho : o.Sound)
    (h : e.outline? o = some o') : o'.Sound := by
  cases e with
  | setSystemText text =>
    obtain rfl := Option.some.inj h
    exact ho.editSystem fun _ => rfl
  | removeSystemText start stop =>
    obtain ⟨content, -, rfl⟩ := Option.map_eq_some_iff.1 h
    exact ho.editSystem fun _ => rfl
  | appendToSystem b =>
    obtain rfl := Option.some.inj h
    exact ho.editSystem fun _ => rfl
  | appendToLastUser b =>
    obtain rfl := Option.some.inj h
    exact ho.editLastUser fun _ => rfl
  | editLastUser f =>
    obtain rfl := Option.some.inj h
    exact ho.editLastUser he
  | replaceOlder m =>
    obtain rfl := Option.some.inj h
    split
    · exact ho
    · next holder => exact ho.replaceOlder holder he
  | setDiagnostics d =>
    obtain rfl := Option.some.inj h
    exact ho.withDiagnostics d

namespace Conversation

variable {c : Conversation}

theorem Attained.reachable (hc : c.Attained) : c.Reachable := by
  induction hc with
  | fresh h => exact .fresh h
  | edited _ e _ h ih => exact .edited ih e h
  | staged _ k context now ih => exact .staged ih k context now

theorem Attained.exists_sound (hc : c.Attained) : ∃ o : Outline, c = o.conversation ∧ o.Sound := by
  induction hc with
  | fresh h => exact exists_sound_of_ofMessages? h
  | edited _ e he h ih =>
    obtain ⟨o, rfl, ho⟩ := ih
    rw [Edit.perform?_conversation] at h
    obtain ⟨o', hedit, rfl⟩ := Option.map_eq_some_iff.1 h
    exact ⟨o', rfl, he.sound ho hedit⟩
  | staged _ k context now ih =>
    obtain ⟨o, rfl, ho⟩ := ih
    cases k.effect o context now with
    | kept _ hconversation => exact ⟨o, hconversation, ho⟩
    | changed o' _ hchanges hconversation => exact ⟨o', hconversation, hchanges.sound ho⟩

-- ---------------------------------------------------------------------------
-- The ways to fail
-- ---------------------------------------------------------------------------

/-- How a stage fails on a conversation, at a moment and under the bounds of a request. -/
inductive Fails (c : Conversation) (context : RequestContext) (now : Moment) :
    Stage.Kind → StageError → Prop where
  /-- Both delimiters of the tool documentation are found, but no message is from the user. -/
  | noUser {settings : ToolDocsSettings}
      (hdocuments : ∃ before part after,
        ToolDocs.Documents settings c.systemMessage.text.toList before part after)
      (hnone : ∀ m ∈ c.messages, m.isUser = false) :
      Fails c context now (.toolDocs settings) (.degraded "no user message to append to")
  /-- Something was asked, and the search for it fails. -/
  | search {searcher : Searcher} {options : Passages.Options} {question : String} {e : ServiceError}
      (hquestion : Text.TrimsTo c.query question) (hasked : question ≠ "")
      (hreply : (((searcher.search context now (options.query question)).guarded context now
        (some options.timeout)).answerWithin options.timeout).result = .error e) :
      Fails c context now (.passages searcher options) (.service e)
  /-- The conversation costs too much, and the generator fails. -/
  | generation {generator : Generator} {tokenThreshold : Nat} {timeout : Duration}
      {counter : TokenCounter} {e : ServiceError}
      (hover : tokenThreshold < counter.countMessages c.assembled) (holder : c.older ≠ [])
      (hreply : (((generator.generate context now Summary.systemPrompt
        (Summary.request c.older)).guarded context now (some timeout)).answerWithin
          timeout).result = .error e) :
      Fails c context now (.summary generator tokenThreshold timeout counter) (.service e)
  /-- The conversation costs too much, and the generator replies with nothing but blanks. -/
  | blank {generator : Generator} {tokenThreshold : Nat} {timeout : Duration}
      {counter : TokenCounter} {reply : String}
      (hover : tokenThreshold < counter.countMessages c.assembled) (holder : c.older ≠ [])
      (hreply : (((generator.generate context now Summary.systemPrompt
        (Summary.request c.older)).guarded context now (some timeout)).answerWithin
          timeout).result = .ok reply)
      (hblank : ∀ ch ∈ reply.toList, Text.isBlank ch = true) :
      Fails c context now (.summary generator tokenThreshold timeout counter)
        (.degraded "summary generation returned no text")

end Conversation

variable {c : Conversation} {context : RequestContext} {now : Moment} {e : StageError}

-- ---------------------------------------------------------------------------
-- Each stage
-- ---------------------------------------------------------------------------

namespace ToolDocs

variable {settings : ToolDocsSettings}

theorem run_fails_iff (hc : c.Attained) :
    ((stage settings).run c context now).result = .error e ↔
      c.Fails context now (.toolDocs settings) e := by
  have hreachable := hc.reachable
  obtain ⟨o, rfl, ho⟩ := hc.exists_sound
  by_cases hdocuments : ∃ before part after,
      Documents settings o.conversation.systemMessage.text.toList before part after
  · obtain ⟨before, part, after, h⟩ := hdocuments
    cases hlast : o.lastUser? with
    | none =>
      have hnone : o.conversation.lastUser? = none := o.lastUser?_conversation.trans hlast
      rw [run_of_no_user hreachable hnone h]
      constructor
      · rintro ⟨⟩
        exact .noUser ⟨before, part, after, h⟩ (ho.lastUser?_eq_none.1 hlast)
      · rintro ⟨⟩
        rfl
    | some user =>
      have huser : o.conversation.lastUser? = some user := o.lastUser?_conversation.trans hlast
      rw [(run_moves hreachable huser h context now).1]
      refine ⟨nofun, fun hfails => ?_⟩
      cases hfails with
      | noUser _ hnone =>
        rw [ho.lastUser?_eq_none.2 hnone] at hlast
        cases hlast
  · rw [run_of_undocumented hdocuments]
    refine ⟨nofun, fun hfails => ?_⟩
    cases hfails with
    | noUser h _ => exact absurd h hdocuments

end ToolDocs

theorem LoopBreak.run_fails_iff (hc : c.Attained) :
    (stage.run c context now).result = .error e ↔ c.Fails context now .loopBreak e := by
  refine ⟨fun h => ?_, nofun⟩
  by_cases hloops : Loops c.older
  · obtain ⟨d, hrun, -⟩ := run_of_loops hc.reachable hloops context now
    rw [hrun] at h
    cases h
  · rw [run_of_not_loops hloops] at h
    cases h

namespace Passages

variable {searcher : Searcher} {options : Options}

theorem Concludes.fails_iff {out : Stage.Outcome} {reply : Except ServiceError (List SearchHit)}
    (h : Concludes options c out reply) :
    out.result = .error e ↔ ∃ failure, reply = .error failure ∧ e = .service failure := by
  cases h with
  | failed hresult =>
    rw [hresult]
    constructor
    · rintro ⟨⟩
      exact ⟨_, rfl, rfl⟩
    · rintro ⟨failure, ⟨⟩, rfl⟩
      rfl
  | nothing _ hresult => simp [hresult]
  | injected _ _ hresult => simp [hresult]

theorem run_fails_iff (hc : c.Attained) :
    ((stage searcher options).run c context now).result = .error e ↔
      c.Fails context now (.passages searcher options) e := by
  have hquestion := Text.trimsTo_trimmed c.query
  by_cases hblank : Text.trimmed c.query = ""
  · rw [run_of_blank (hblank ▸ hquestion)]
    refine ⟨nofun, fun hfails => ?_⟩
    cases hfails with
    | search hother hasked =>
      exact absurd ((Text.trimsTo_iff.1 hother).trans hblank) hasked
  · rw [(concludes_run hc.reachable hquestion hblank searcher options context now).fails_iff]
    constructor
    · rintro ⟨failure, hreply, rfl⟩
      exact .search hquestion hblank hreply
    · intro hfails
      cases hfails with
      | search hother _ hreply =>
        obtain rfl := Text.trimsTo_iff.1 hother
        exact ⟨_, hreply, rfl⟩

end Passages

namespace Summary

variable {generator : Generator} {tokenThreshold : Nat} {timeout : Duration}
  {counter : TokenCounter}

theorem Concludes.fails_iff {out : Stage.Outcome} {reply : Except ServiceError String}
    (h : Concludes counter c out reply) :
    out.result = .error e ↔ (∃ failure, reply = .error failure ∧ e = .service failure) ∨
      ∃ text, reply = .ok text ∧ Text.trimmed text = "" ∧
        e = .degraded "summary generation returned no text" := by
  cases h with
  | failed hresult =>
    rw [hresult]
    constructor
    · rintro ⟨⟩
      exact Or.inl ⟨_, rfl, rfl⟩
    · rintro (⟨failure, ⟨⟩, rfl⟩ | ⟨text, ⟨⟩, -⟩)
      rfl
  | blank hreply hresult =>
    rw [hresult]
    constructor
    · rintro ⟨⟩
      exact Or.inr ⟨_, rfl, hreply, rfl⟩
    · rintro (⟨failure, ⟨⟩, -⟩ | ⟨text, ⟨⟩, -, rfl⟩)
      rfl
  | replaced hreply hresult => simp [hresult, hreply]

theorem Concludes.exists_replaced {out : Stage.Outcome} {reply : Except ServiceError String}
    (h : Concludes counter c out reply) (hok : out.result = .ok true) :
    ∃ m, Replaced counter c m out.conversation := by
  cases h with
  | failed hresult => rw [hresult] at hok; cases hok
  | blank _ hresult => rw [hresult] at hok; cases hok
  | replaced _ _ hreplaced => exact ⟨_, hreplaced⟩

theorem concludes_run (hc : c.Attained) (hover : tokenThreshold < counter.countMessages c.assembled)
    (holder : c.older ≠ []) (context : RequestContext) (now : Moment) :
    Concludes counter c ((stage generator tokenThreshold timeout counter).run c context now)
      (((generator.generate context now systemPrompt (request c.older)).guarded context now
        (some timeout)).answerWithin timeout).result := by
  obtain ⟨o, rfl, -⟩ := hc.exists_sound
  rw [run_of_over hover holder]
  rw [Outline.older_conversation] at holder
  exact concludes_ofCall holder generator.service _ _ _ _

theorem run_fails_iff (hc : c.Attained) :
    ((stage generator tokenThreshold timeout counter).run c context now).result = .error e ↔
      c.Fails context now (.summary generator tokenThreshold timeout counter) e := by
  by_cases hidle : counter.countMessages c.assembled ≤ tokenThreshold ∨ c.older = []
  · rw [run_of_idle hidle]
    refine ⟨nofun, fun hfails => ?_⟩
    cases hfails with
    | generation hover holder => exact absurd hidle (not_or.2 ⟨Nat.not_le_of_lt hover, holder⟩)
    | blank hover holder => exact absurd hidle (not_or.2 ⟨Nat.not_le_of_lt hover, holder⟩)
  · obtain ⟨hover, holder⟩ := not_or.1 hidle
    rw [Nat.not_le] at hover
    rw [(concludes_run hc hover holder context now).fails_iff]
    constructor
    · rintro (⟨failure, hreply, rfl⟩ | ⟨text, hreply, hblank, rfl⟩)
      · exact .generation hover holder hreply
      · refine .blank hover holder hreply (Text.trimsTo_empty_iff.1 ?_)
        exact Text.trimsTo_iff.2 hblank.symm
    · intro hfails
      cases hfails with
      | generation _ _ hreply => exact Or.inl ⟨_, hreply, rfl⟩
      | blank _ _ hreply hblank =>
        have htrims := Text.trimsTo_iff.1 (Text.trimsTo_empty_iff.2 hblank)
        exact Or.inr ⟨_, hreply, htrims.symm, rfl⟩

theorem replaced_of_ok (hc : c.Attained)
    (h : ((stage generator tokenThreshold timeout counter).run c context now).result = .ok true) :
    1 ≤ c.older.length ∧
      ∃ m, Replaced counter c m
        ((stage generator tokenThreshold timeout counter).run c context now).conversation := by
  by_cases hidle : counter.countMessages c.assembled ≤ tokenThreshold ∨ c.older = []
  · rw [run_of_idle hidle] at h
    cases h
  · obtain ⟨hover, holder⟩ := not_or.1 hidle
    refine ⟨List.length_pos_iff.2 holder, ?_⟩
    exact (concludes_run hc (Nat.lt_of_not_le hover) holder context now).exists_replaced h

end Summary

-- ---------------------------------------------------------------------------
-- All stages
-- ---------------------------------------------------------------------------

/-- On any conversation that edits and stages lead to, as long as edits leave it as it is who speaks,
a stage fails in the ways that are listed and in no other. The one that replaces the older part by a
summary has replaced a message if it says so. -/
theorem Conversation.Attained.stage_fails_iff (hc : c.Attained) (k : Stage.Kind)
    (context : RequestContext) (now : Moment) :
    let out := k.stage.run c context now
    (∀ e, out.result = .error e ↔ c.Fails context now k e) ∧
    ∀ generator tokenThreshold timeout counter,
      k = .summary generator tokenThreshold timeout counter → out.result = .ok true →
        1 ≤ c.older.length ∧ ∃ m, Summary.Replaced counter c m out.conversation := by
  intro out
  constructor
  · intro e
    cases k with
    | toolDocs settings => exact ToolDocs.run_fails_iff hc
    | loopBreak => exact LoopBreak.run_fails_iff hc
    | passages searcher options => exact Passages.run_fails_iff hc
    | summary generator tokenThreshold timeout counter => exact Summary.run_fails_iff hc
  · rintro generator tokenThreshold timeout counter rfl hresult
    exact Summary.replaced_of_ok hc hresult

/-- Tools are documented where there is no user; and a summary where there is an older part. -/
theorem Conversation.Attained.stage_fails_iff_noUser :
    let tools : Stage.Kind := .toolDocs { start := "<docs>", stop := "<end>" }
    let summary : Stage.Kind :=
      .summary ⟨fun _ _ _ _ => { answer := some { after := 1, result := .ok "Short" } }⟩ 0 60
        .heuristic
    ∃ c d other, Conversation.ofMessages? [.system (.plain "<docs>use"),
        .assistant (.plain "Hi")] 1 = .ok c ∧
      Edit.perform? c (.appendToSystem (.ofText " it<end>")) = some d ∧ d.Attained ∧
      (tools.stage.run d {} 0).result = .error (.degraded "no user message to append to") ∧
      d.Fails {} 0 tools (.degraded "no user message to append to") ∧
      Conversation.ofMessages? [.user (.plain "Go"), .assistant (.plain "Done"),
        .user (.plain "Why?")] 1 = .ok other ∧ other.Attained ∧
      (summary.stage.run other {} 0).result = .ok true ∧
      1 ≤ other.older.length ∧
      ∃ m, Summary.Replaced .heuristic other m (summary.stage.run other {} 0).conversation := by
  intro tools summary
  obtain ⟨c, hc⟩ : ∃ c, Conversation.ofMessages?
      [.system (.plain "<docs>use"), .assistant (.plain "Hi")] 1 = .ok c := ⟨_, rfl⟩
  obtain ⟨d, hd⟩ : ∃ d, Edit.perform? c (.appendToSystem (.ofText " it<end>")) = some d := ⟨_, rfl⟩
  obtain ⟨other, hother⟩ : ∃ c, Conversation.ofMessages?
      [.user (.plain "Go"), .assistant (.plain "Done"), .user (.plain "Why?")] 1 = .ok c := ⟨_, rfl⟩
  have hattained : d.Attained :=
    .edited (.fresh hc) (.appendToSystem (.ofText " it<end>")) trivial hd
  have hfailed : (tools.stage.run d {} 0).result =
      .error (.degraded "no user message to append to") := by
    obtain rfl := Except.ok.inj hc
    obtain rfl := Option.some.inj hd
    decide
  have hchanged : (summary.stage.run other {} 0).result = .ok true := by
    obtain rfl := Except.ok.inj hother
    decide
  have hfails := ((stage_fails_iff hattained tools {} 0).1 _).1 hfailed
  have hreplaced := (stage_fails_iff (.fresh hother) summary {} 0).2 _ _ _ _ rfl hchanged
  exact ⟨c, d, other, hc, hd, hattained, hfailed, hfails, hother, .fresh hother, hchanged,
    hreplaced⟩

end PromptBudget
