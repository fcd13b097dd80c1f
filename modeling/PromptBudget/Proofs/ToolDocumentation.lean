import PromptBudget.Proofs.Atomicity
import PromptBudget.Proofs.Frame
import PromptBudget.Proofs.Occurrences

/-!
# PromptBudget — tool documentation is moved, not lost

The system message of a conversation documents the tools between two delimiters. What is between
them is cut out, over however many blocks it is spread, and the last user message is given it, or
the section about the tool that failed.

What is searched for is said by first occurrences: `ToolDocs.Documents` splits the system text in
front of the two delimiters, `ToolDocs.Teaches` says what the user message is given. What becomes of
the two messages and of everything else is one structure, `ToolDocs.Moved`.

Main results:

* `ToolDocs.teaches_iff` — the text that is given is the one that is to be given, and no other is.
* `ToolDocs.moved_of_documents` — the cut succeeds, and nothing else is touched.
* `Conversation.Reachable.moves_toolDocs` — what the stage does to any conversation.
-/

namespace PromptBudget

open Text

namespace ToolDocs

variable {settings : ToolDocsSettings}

-- ---------------------------------------------------------------------------
-- Where the documentation is
-- ---------------------------------------------------------------------------

/-- A text documents tools in a part: it is split in front of the first start delimiter, and the
rest in front of the first end delimiter. -/
def Documents (settings : ToolDocsSettings) (text before part after : List Char) : Prop :=
  FirstOccurrence settings.start.toList text before (part ++ after) ∧
    FirstOccurrence settings.stop.toList (part ++ after) part after

theorem find?_eq_some_iff {text before part after : List Char} :
    find? settings text = some ⟨before, part, after⟩ ↔
      Documents settings text before part after := by
  constructor
  · intro h
    obtain ⟨⟨front, rest⟩, hstart, hrest⟩ := Option.bind_eq_some_iff.1 h
    obtain ⟨⟨middle, back⟩, hstop, hfound⟩ := Option.map_eq_some_iff.1 hrest
    obtain ⟨rfl, rfl, rfl⟩ := Found.mk.inj hfound
    have hbefore := breakOn?_eq_some_iff.1 hstart
    have hpart := breakOn?_eq_some_iff.1 hstop
    rw [hpart.append] at hbefore hpart
    exact ⟨hbefore, hpart⟩
  · rintro ⟨hbefore, hpart⟩
    rw [find?, breakOn?_eq_some_iff.2 hbefore, Option.bind_some]
    simp only [breakOn?_eq_some_iff.2 hpart, Option.map_some]

theorem find?_eq_none {text : List Char}
    (h : ¬ ∃ before part after, Documents settings text before part after) :
    find? settings text = none := by
  cases hfound : find? settings text with
  | none => rfl
  | some found => exact absurd ⟨_, _, _, find?_eq_some_iff.1 hfound⟩ h

-- ---------------------------------------------------------------------------
-- What the user message is given
-- ---------------------------------------------------------------------------

/-- A message other than a system message tells of a call that was not understood. -/
def TellsFailure (settings : ToolDocsSettings) (messages : List Message) : Prop :=
  ∃ m ∈ messages, m.isSystem = false ∧ settings.failureMarker.toList <:+: m.text.toList

/-- What is given to the last user message, of some documentation. -/
inductive Teaches (settings : ToolDocsSettings) (messages : List Message) (docs : List Char) :
    List Char → Prop where
  /-- After a failure it is the section of the failing tool, from the first place where its heading
  is, up to the next section. -/
  | ofTool {front body part : List Char} (hfailure : TellsFailure settings messages)
      (hheading : FirstOccurrence settings.failureHeading.toList docs front
        (settings.failureHeading.toList ++ body))
      (hpart : UpTo nextSection body part) :
      Teaches settings messages docs
        (wrapped (sectionTag settings.failureHeading.toList)
          (settings.failureHeading.toList ++ part))
  /-- Without a failure, or without such a section, it is all of it. -/
  | ofAll (h : ¬ (TellsFailure settings messages ∧ settings.failureHeading.toList <:+: docs)) :
      Teaches settings messages docs (wrapped "tool_description".toList docs)

theorem sawFailure_iff {messages : List Message} :
    sawFailure settings messages = true ↔ TellsFailure settings messages := by
  simp only [sawFailure, TellsFailure, List.any_eq_true, Bool.and_eq_true, Bool.not_eq_true',
    contains_iff]

theorem section?_eq_none_iff {heading docs : List Char} : section? heading docs = none ↔
    ¬ heading <:+: docs := by
  rw [section?, Option.map_eq_none_iff, breakOn?_eq_none_iff]

theorem section?_eq_some_iff {heading docs found : List Char} : section? heading docs = some found ↔
    ∃ front body part, FirstOccurrence heading docs front (heading ++ body) ∧
      UpTo nextSection body part ∧ found = heading ++ part := by
  constructor
  · intro h
    obtain ⟨⟨front, rest⟩, hfirst, rfl⟩ := Option.map_eq_some_iff.1 h
    have hoccurs := breakOn?_eq_some_iff.1 hfirst
    -- what comes after the heading is searched for the next one
    obtain ⟨body, rfl⟩ := hoccurs.starts
    simp only [List.drop_left]
    exact ⟨front, body, _, hoccurs, upTo_iff.2 rfl, rfl⟩
  · rintro ⟨front, body, part, hfirst, hpart, rfl⟩
    rw [section?, breakOn?_eq_some_iff.2 hfirst, Option.map_some, upTo_iff.1 hpart]
    simp only [List.drop_left]

/-- The text that is given is the one that is to be given. -/
theorem teaches_iff {messages : List Message} {docs given : List Char} :
    Teaches settings messages docs given ↔ given = payload settings messages docs := by
  constructor
  · intro h
    cases h with
    | @ofTool front body part hfailure hheading hpart =>
      have hsection := section?_eq_some_iff.2 ⟨front, body, part, hheading, hpart, rfl⟩
      rw [payload, if_pos (sawFailure_iff.2 hfailure), hsection]
    | ofAll h =>
      by_cases hfailure : TellsFailure settings messages
      · have hsection := section?_eq_none_iff.2 fun hheading => h ⟨hfailure, hheading⟩
        rw [payload, if_pos (sawFailure_iff.2 hfailure), hsection]
      · rw [payload, if_neg (mt sawFailure_iff.1 hfailure)]
  · rintro rfl
    rw [payload]
    by_cases hfailure : TellsFailure settings messages
    · rw [if_pos (sawFailure_iff.2 hfailure)]
      cases hsection : section? settings.failureHeading.toList docs with
      | none => exact .ofAll fun h => section?_eq_none_iff.1 hsection h.2
      | some found =>
        obtain ⟨front, body, part, hheading, hpart, rfl⟩ := section?_eq_some_iff.1 hsection
        exact .ofTool hfailure hheading hpart
    · rw [if_neg (mt sawFailure_iff.1 hfailure)]
      exact .ofAll fun h => hfailure h.1

-- ---------------------------------------------------------------------------
-- What becomes of the conversation
-- ---------------------------------------------------------------------------

/-- A conversation `d` is `c` with a part of its system text cut out, so that `content` is left, and
with the text `given` in a block of its own at the end of its last user message. -/
structure Moved (c : Conversation) (before part after : List Char) (user : Message)
    (given : List Char) (content : Content) (d : Conversation) : Prop where
  /-- The blocks of the system message that the part overlaps are cut; the others are all there. -/
  cut : c.systemMessage.content.CutTo (byteLength before) (byteLength (before ++ part)) content
  text : content.text.toList = before ++ after
  others : content.toBlocks.filter (!·.isText) =
    c.systemMessage.content.toBlocks.filter (!·.isText)
  systemMessage : d.systemMessage = { c.systemMessage with content }
  lastUser? : d.lastUser? = some (user.push (.ephemeral (String.ofList given)))
  /-- These two edits are the only ones. -/
  edits : (c.editLastUser? (·.push (.ephemeral (String.ofList given)))).map
    (·.editSystem fun m => { m with content }) = some d

theorem move_of_no_user {o : Outline} {before part after : List Char}
    (hdocuments : Documents settings o.opening.systemMessage.text.toList before part after)
    (hnone : o.lastUser? = none) :
    move settings ⟨before, part, after⟩ o.conversation =
      .error (.degraded "no user message to append to") o.conversation := by
  obtain ⟨content, -, -, hmove⟩ := move_conversation settings o (find?_eq_some_iff.2 hdocuments)
  rw [hmove, hnone]
  rfl

theorem moved_of_documents {o : Outline} {before part after : List Char} {user : Message}
    (hdocuments : Documents settings o.opening.systemMessage.text.toList before part after)
    (hlast : o.lastUser? = some user) :
    ∃ content d, move settings ⟨before, part, after⟩ o.conversation = .ok () d ∧
      Moved o.conversation before part after user
        (payload settings o.conversation.messages part) content d := by
  obtain ⟨content, htext, hremoved, hmove⟩ :=
    move_conversation settings o (find?_eq_some_iff.2 hdocuments)
  rw [hlast, Option.isSome_some, if_pos rfl] at hmove
  refine ⟨content, _, hmove, ?_⟩
  generalize payload settings o.conversation.messages part = given
  have happend : o.opening.systemMessage.content.text.toList = before ++ part ++ after :=
    append_of_find? (find?_eq_some_iff.2 hdocuments)
  obtain ⟨left, hleft, hcut⟩ :=
    Content.exists_cutTo ⟨before, part, after, happend, rfl, rfl⟩
  rw [byteLength_append, hremoved] at hleft
  obtain rfl := Option.some.inj hleft
  refine ⟨?_, htext, ?_, ?_, ?_, ?_⟩
  · rwa [Outline.systemMessage_conversation]
  · rw [Outline.systemMessage_conversation, hcut.others]
  · rw [Outline.systemMessage_conversation, Outline.systemMessage_conversation,
      Outline.systemMessage_editSystem, Outline.systemMessage_editLastUser]
  · rw [Outline.lastUser?_conversation, Outline.lastUser?_editSystem,
      Outline.lastUser?_editLastUser, hlast, Option.map_some]
  · rw [Outline.editLastUser?_conversation, hlast, Option.map_some, Option.map_some,
      Outline.editSystem_conversation]

theorem run_of_undocumented {c : Conversation}
    (hnone : ¬ ∃ before part after, Documents settings c.systemMessage.text.toList before part after)
    (context : RequestContext) (now : Moment) :
    (stage settings).run c context now = .untouched c context now := by
  simp only [stage]
  rw [find?_eq_none hnone]

theorem run_of_documents {c : Conversation} {before part after : List Char}
    (h : Documents settings c.systemMessage.text.toList before part after)
    (context : RequestContext) (now : Moment) :
    (stage settings).run c context now =
      .worked (do move settings ⟨before, part, after⟩; return true) c context now := by
  simp only [stage]
  rw [find?_eq_some_iff.2 h]

/-- Without a user message to give it to, documentation stays where it is. -/
theorem run_of_no_user {c : Conversation} (hc : c.Reachable) (hnone : c.lastUser? = none)
    {before part after : List Char}
    (h : Documents settings c.systemMessage.text.toList before part after)
    (context : RequestContext) (now : Moment) :
    (stage settings).run c context now =
      .failed (.degraded "no user message to append to") c context now := by
  obtain ⟨o, rfl⟩ := hc.exists_outline
  rw [run_of_documents h]
  rw [Outline.systemMessage_conversation] at h
  rw [Outline.lastUser?_conversation] at hnone
  rw [Stage.Outcome.worked, Stage.Work.bind_of_error (move_of_no_user h hnone)]
  rfl

/-- With a user message to give it to, documentation is moved. -/
theorem run_moves {c : Conversation} (hc : c.Reachable) {user : Message}
    (hlast : c.lastUser? = some user) {before part after : List Char}
    (h : Documents settings c.systemMessage.text.toList before part after)
    (context : RequestContext) (now : Moment) :
    ((stage settings).run c context now).result = .ok true ∧
      ∃ content, Moved c before part after user (payload settings c.messages part) content
        ((stage settings).run c context now).conversation := by
  obtain ⟨o, rfl⟩ := hc.exists_outline
  rw [run_of_documents h]
  rw [Outline.systemMessage_conversation] at h
  rw [Outline.lastUser?_conversation] at hlast
  obtain ⟨content, d, hmove, hmoved⟩ := moved_of_documents h hlast
  rw [Stage.Outcome.worked, Stage.Work.bind_of_ok hmove]
  exact ⟨rfl, content, hmoved⟩

end ToolDocs

/-- Whatever conversation there is, and however its system text is spread over blocks: without
documented tools it stays as it is. Else the documentation is moved to the last user message, or
there is no user message and everything stays where it is. (An edit can change who speaks in the
last user message; the conversation still has it as that.) -/
theorem Conversation.Reachable.moves_toolDocs {c : Conversation} (hc : c.Reachable)
    (settings : ToolDocsSettings) (context : RequestContext) (now : Moment) :
    let out := (ToolDocs.stage settings).run c context now
    let text := c.systemMessage.text.toList
    ((¬ ∃ before part after, ToolDocs.Documents settings text before part after) →
      out.result = .ok false ∧ out.conversation = c) ∧
    ∀ before part after, ToolDocs.Documents settings text before part after →
      (c.lastUser? = none → (∀ m ∈ c.messages, m.isUser = false) ∧
        out.result = .error (.degraded "no user message to append to") ∧ out.conversation = c) ∧
      ∀ user, c.lastUser? = some user → out.result = .ok true ∧
        ∃ given content, ToolDocs.Teaches settings c.messages part given ∧
          ToolDocs.Moved c before part after user given content out.conversation := by
  intro out text
  constructor
  · intro hnone
    have hrun : out = .untouched c context now :=
      ToolDocs.run_of_undocumented hnone context now
    rw [hrun]
    exact ⟨rfl, rfl⟩
  · intro before part after hdocuments
    constructor
    · intro hnone
      have hrun : out = _ := ToolDocs.run_of_no_user hc hnone hdocuments context now
      rw [hrun]
      exact ⟨hc.no_users hnone, rfl, rfl⟩
    · intro user hlast
      obtain ⟨hresult, content, hmoved⟩ := ToolDocs.run_moves hc hlast hdocuments context now
      exact ⟨hresult, _, content, ToolDocs.teaches_iff.2 rfl, hmoved⟩

/-- A start delimiter that goes on in another block, behind a picture. A tool has failed, so the
section about it is given. -/
theorem Conversation.Reachable.moves_toolDocs_section :
    let settings : ToolDocsSettings := {
      start := "<docs>"
      stop := "<end>"
      failureMarker := "no such"
      failureHeading := "## edit" }
    let image : Block := { kind := .image, text := "" }
    let before := "Be brief. ".toList
    let part := "<docs>## edit\nA\n## run\nB".toList
    let system : Content := .blocks [.ofText "Be brief. <do", image,
      .ephemeral "cs>## edit\nA\n## run\nB<end>"]
    ∃ c, Conversation.ofMessages? [.system system,
        .tool "1" (.plain "no such file"), .user (.plain "Go")] 1 = .ok c ∧ c.Reachable ∧
      ToolDocs.Documents settings c.systemMessage.text.toList before part "<end>".toList ∧
      c.lastUser? = some (.user (.plain "Go")) ∧
      ((ToolDocs.stage settings).run c {} 0).result = .ok true ∧
      (∃ given content, ToolDocs.Teaches settings c.messages part given ∧
        ToolDocs.Moved c before part "<end>".toList (.user (.plain "Go")) given content
          ((ToolDocs.stage settings).run c {} 0).conversation) ∧
      ((ToolDocs.stage settings).run c {} 0).conversation.messages = [
        .system (.blocks [.ofText "Be brief. ", image, .ephemeral "<end>"]),
        .tool "1" (.plain "no such file"),
        .user (.blocks [.ofText "Go", .ephemeral "<edit_usage>\n## edit\nA</edit_usage>"])] := by
  intro settings image before part system
  obtain ⟨c, hc⟩ : ∃ c, Conversation.ofMessages? [.system system,
      .tool "1" (.plain "no such file"), .user (.plain "Go")] 1 = .ok c := ⟨_, rfl⟩
  have hdocuments :
      ToolDocs.Documents settings c.systemMessage.text.toList before part "<end>".toList := by
    have htext : c.systemMessage.text.toList = before ++ (part ++ "<end>".toList) := by
      obtain rfl := Except.ok.inj hc
      decide
    rw [htext]
    exact ⟨breakOn?_eq_some_iff.1 (by decide), breakOn?_eq_some_iff.1 (by decide)⟩
  have hlast : c.lastUser? = some (.user (.plain "Go")) := by
    obtain rfl := Except.ok.inj hc
    rfl
  obtain ⟨hresult, hmoved⟩ :=
    ((moves_toolDocs (.fresh hc) settings {} 0).2 before part _ hdocuments).2 _ hlast
  refine ⟨c, hc, .fresh hc, hdocuments, hlast, hresult, hmoved, ?_⟩
  obtain rfl := Except.ok.inj hc
  decide

end PromptBudget
