import PromptBudget.Proofs.Edits

/-!
# PromptBudget — what is seen of edits

Somebody who edits a conversation sees the messages to send, the system message, the older and the
recent part and the last user message, and gets an answer to some edits. None of this tells that
there are positions behind it.

A `Layout` has the parts themselves: the messages before the system message with the system message,
or the stand-in if there is none, then the older part and the recent part. One message is marked,
before the system message or in the recent part. An edit of a layout touches the part that it names.
The same edits, however many, show the same of a conversation and of its layout.

Main results:

* `Layout.Represents.answer?` — one edit: both fail, or both answer alike and stay together.
* `Edit.trace_congr` — so states that stay together have the same traces.
* `Edit.trace_eq_layout` — a conversation and its layout have the same traces.
-/

namespace PromptBudget

-- ---------------------------------------------------------------------------
-- What is seen
-- ---------------------------------------------------------------------------

/-- What is seen of a conversation. -/
structure View where
  assembled : List Message
  systemMessage : Message
  older : List Message
  recent : List Message
  lastUser? : Option Message

/-- The answer to an edit. -/
inductive Edit.Reply where
  | done
  /-- Whether something was added to the last user message. -/
  | appended (result : Except StageError Unit)
  /-- Whether there was a last user message to edit. -/
  | edited (found : Bool)
  /-- How many messages were replaced. -/
  | replaced (count : Nat)

/-- What is seen of edits made one after another: each answer, and what the state shows then. It
ends at an edit that cannot be made. -/
def Edit.trace (step : σ → Edit → Option (Edit.Reply × σ)) (view : σ → View) (s : σ) :
    List Edit → List (Edit.Reply × View)
  | [] => []
  | e :: edits =>
    match step s e with
    | none => []
    | some (reply, s') => (reply, view s') :: trace step view s' edits

/-- States that stay together under single edits have the same traces. -/
theorem Edit.trace_congr {step : σ → Edit → Option (Edit.Reply × σ)} {view : σ → View}
    {step' : τ → Edit → Option (Edit.Reply × τ)} {view' : τ → View} {Together : σ → τ → Prop}
    (hview : ∀ s t, Together s t → view s = view' t)
    (hstep : ∀ s t, Together s t → ∀ e, step s e = none ∧ step' t e = none ∨
      ∃ reply s' t', step s e = some (reply, s') ∧ step' t e = some (reply, t') ∧ Together s' t')
    {s : σ} {t : τ} (h : Together s t) (edits : List Edit) :
    trace step view s edits = trace step' view' t edits := by
  induction edits generalizing s t with
  | nil => rfl
  | cons e edits ih =>
    unfold trace
    rcases hstep s t h e with ⟨hs, ht⟩ | ⟨reply, s', t', hs, ht, hnext⟩
    · rw [hs, ht]
    · rw [hs, ht]
      show (reply, view s') :: trace step view s' edits =
        (reply, view' t') :: trace step' view' t' edits
      rw [hview s' t' hnext, ih hnext]

def Conversation.view (c : Conversation) : View where
  assembled := c.assembled
  systemMessage := c.systemMessage
  older := c.older
  recent := c.recent
  lastUser? := c.lastUser?

def Edit.reply (c : Conversation) : Edit → Edit.Reply
  | appendToLastUser b => .appended ((c.appendToLastUser b).map fun _ => ())
  | editLastUser f => .edited (c.editLastUser? f).isSome
  | replaceOlder m => .replaced (c.replaceOlder m).1
  | _ => .done

/-- An edit of a conversation with positions, and its answer. -/
def Conversation.answer? (c : Conversation) (e : Edit) : Option (Edit.Reply × Conversation) :=
  (e.perform? c).map fun d => (e.reply c, d)

/-- Removed bytes are a part of the system text. Other edits have nothing to respect. -/
def Edit.InRange (c : Conversation) : Edit → Prop
  | removeSystemText start stop => Text.IsPart start stop c.systemMessage.text.toList
  | _ => True

/-- Each of some edits is in range of the conversation that those before it leave. -/
def Edit.AllInRange (c : Conversation) : List Edit → Prop
  | [] => True
  | e :: edits => e.InRange c ∧ ∀ d, e.perform? c = some d → AllInRange d edits

theorem Edit.exists_perform? {c : Conversation} {e : Edit} (he : e.InRange c) :
    ∃ d, e.perform? c = some d := by
  cases e with
  | removeSystemText start stop =>
    obtain ⟨content, hcontent⟩ := Content.removeText?_of_isPart he
    exact ⟨_, by rw [perform?, Conversation.removeSystemText?, hcontent, Option.map_some]⟩
  | _ => exact ⟨_, rfl⟩

/-- Edits in range can all be made. -/
theorem Edit.length_trace {c : Conversation} {edits : List Edit} (h : AllInRange c edits) :
    (trace Conversation.answer? Conversation.view c edits).length = edits.length := by
  induction edits generalizing c with
  | nil => rfl
  | cons e edits ih =>
    obtain ⟨d, hd⟩ := exists_perform? h.1
    have hanswer : c.answer? e = some (e.reply c, d) := by
      rw [Conversation.answer?, hd, Option.map_some]
    unfold trace
    rw [hanswer]
    exact congrArg (· + 1) (ih (h.2 d hd))

-- ---------------------------------------------------------------------------
-- Layouts
-- ---------------------------------------------------------------------------

def Segment.unmarked (s : Segment) : Segment :=
  { before := s.messages, marked := none, after := [] }

def Opening.unmarked : Opening → Opening
  | standIn m => standIn m
  | real lead m => real lead.unmarked m

theorem Segment.messages_unmarked (s : Segment) : s.unmarked.messages = s.messages := by
  simp [Segment.unmarked, Segment.messages]

theorem Opening.messages_unmarked (opening : Opening) :
    opening.unmarked.messages = opening.messages := by
  cases opening with
  | standIn m => rfl
  | real lead m => simp only [unmarked, messages, Segment.messages_unmarked]

theorem Opening.systemIndex_unmarked (opening : Opening) :
    opening.unmarked.systemIndex = opening.systemIndex := by
  cases opening with
  | standIn m => rfl
  | real lead m => simp only [unmarked, systemIndex, Segment.messages_unmarked]

theorem Opening.standInMessage_unmarked (opening : Opening) :
    opening.unmarked.standInMessage = opening.standInMessage := by
  cases opening <;> rfl

theorem Opening.marked?_unmarked (opening : Opening) : opening.unmarked.marked? = none := by
  cases opening <;> rfl

theorem Opening.marked?_editSystem (f : Message → Message) (opening : Opening) :
    (opening.editSystem f).marked? = opening.marked? := by
  cases opening <;> rfl

theorem Opening.marked?_editMarked (f : Message → Message) (opening : Opening) :
    (opening.editMarked f).marked? = opening.marked?.map f := by
  cases opening <;> rfl

/-- A conversation in its parts. -/
structure Layout where
  /-- The messages before the system message with the system message, or the stand-in. -/
  opening : Opening
  older : List Message
  recent : Segment
  /-- No more than one message is marked, which is the last user message. -/
  one_mark : opening.marked? = none ∨ recent.marked = none

namespace Layout

/-- The layout of an outline. Of two marks the one in the recent part stays. -/
def ofOutline (o : Outline) : Layout :=
  if h : o.recent.marked = none then
    { opening := o.opening, older := o.older, recent := o.recent, one_mark := .inr h }
  else
    { opening := o.opening.unmarked, older := o.older, recent := o.recent
      one_mark := .inl o.opening.marked?_unmarked }

/-- The layout of some messages, of which the recent part has so many user messages, and at least
one. They are cut at the first system message and in front of the recent part. -/
def ofMessages (messages : List Message) (window : Nat) : Layout :=
  ofOutline (Outline.ofMessages messages window)

def lastUser? (l : Layout) : Option Message := l.opening.marked?.or l.recent.marked

def view (l : Layout) : View where
  assembled := l.opening.sent ++ l.opening.messages ++ l.older ++ l.recent.messages
  systemMessage := l.opening.systemMessage
  older := l.older
  recent := l.recent.messages
  lastUser? := l.lastUser?

def editSystem (f : Message → Message) (l : Layout) : Layout :=
  { l with
    opening := l.opening.editSystem f
    one_mark := by rw [Opening.marked?_editSystem]; exact l.one_mark }

/-- The layout with the marked message edited, wherever it is. -/
def editLastUser (f : Message → Message) (l : Layout) : Layout :=
  { l with
    opening := l.opening.editMarked f
    recent := l.recent.edit f
    one_mark := by
      rw [Opening.marked?_editMarked, Segment.edit, Option.map_eq_none_iff, Option.map_eq_none_iff]
      exact l.one_mark }

/-- The layout with one message in the place of its older part, unless that is empty. -/
def replaceOlder (m : Message) (l : Layout) : Layout :=
  if l.older = [] then l else { l with older := [m] }

/-- An edit of a layout, and its answer. -/
def answer? (l : Layout) : Edit → Option (Edit.Reply × Layout)
  | .setSystemText text => some (.done, l.editSystem fun m => { m with content := .plain text })
  | .removeSystemText start stop =>
    (l.opening.systemMessage.content.removeText? start stop).map fun content =>
      (.done, l.editSystem fun m => { m with content })
  | .appendToSystem b => some (.done, l.editSystem (·.push b))
  | .appendToLastUser b =>
    if l.lastUser?.isSome then some (.appended (.ok ()), l.editLastUser (·.push b))
    else some (.appended (.error (.degraded "no user message to append to")), l)
  | .editLastUser f => some (.edited l.lastUser?.isSome, l.editLastUser f)
  | .replaceOlder m => some (.replaced l.older.length, l.replaceOlder m)
  | .setDiagnostics _ => some (.done, l)

-- ---------------------------------------------------------------------------
-- Layouts of conversations
-- ---------------------------------------------------------------------------

def outline (l : Layout) (query : String) (diagnostics : Diagnostics) : Outline :=
  { opening := l.opening, older := l.older, recent := l.recent, query, diagnostics }

/-- A layout has the parts of a conversation. -/
def Represents (l : Layout) (c : Conversation) : Prop :=
  ∃ query diagnostics, c = (l.outline query diagnostics).conversation

variable (l : Layout) (query : String) (diagnostics : Diagnostics)

theorem lastUser?_outline : (l.outline query diagnostics).lastUser? = l.lastUser? := by
  have hsame : (l.outline query diagnostics).recent.marked = l.recent.marked := rfl
  unfold Outline.lastUser? lastUser?
  rw [hsame]
  cases hrecent : l.recent.marked with
  | none =>
    rw [Option.or_none]
    rfl
  | some m =>
    -- then nothing is marked before the system message
    rcases l.one_mark with hopening | hnone
    · rw [hopening, Option.none_or]
    · rw [hrecent] at hnone
      cases hnone

theorem editLastUser_outline (f : Message → Message) :
    (l.outline query diagnostics).editLastUser f =
      (l.editLastUser f).outline query diagnostics := by
  unfold Outline.editLastUser
  split
  · next m hrecent =>
    rcases l.one_mark with hopening | hnone
    · simp only [outline, editLastUser, Opening.editMarked_of_none hopening]
    · rw [show l.recent.marked = some m from hrecent] at hnone
      cases hnone
  · next hrecent =>
    have hrecent : l.recent.marked = none := hrecent
    simp only [outline, editLastUser, Segment.edit_of_none hrecent]

theorem view_conversation :
    ((l.outline query diagnostics).conversation).view = l.view := by
  unfold Conversation.view view
  rw [Outline.assembled_conversation, Outline.systemMessage_conversation,
    Outline.older_conversation, Outline.recent_conversation, Outline.lastUser?_conversation,
    lastUser?_outline]
  rfl

theorem represents_ofOutline (o : Outline) : (ofOutline o).Represents o.conversation := by
  refine ⟨o.query, o.diagnostics, ?_⟩
  unfold ofOutline
  split
  · rfl
  · next hmarked =>
    -- the mark in the recent part is the one that counts
    obtain ⟨m, hm⟩ := Option.ne_none_iff_exists'.1 hmarked
    simp only [outline, Outline.conversation, Opening.messages_unmarked,
      Opening.systemIndex_unmarked, Opening.standInMessage_unmarked, hm]

/-- One edit of a conversation and of its layout: both fail, or both answer alike, and the layout
has the parts of the edited conversation. -/
theorem Represents.answer? {l : Layout} {c : Conversation} (h : l.Represents c) (e : Edit) :
    c.answer? e = none ∧ l.answer? e = none ∨
      ∃ reply d l', c.answer? e = some (reply, d) ∧ l.answer? e = some (reply, l') ∧
        l'.Represents d := by
  obtain ⟨query, diagnostics, rfl⟩ := h
  have hlast := lastUser?_outline l query diagnostics
  simp only [Conversation.answer?, Edit.perform?_conversation]
  cases e with
  | setSystemText text => exact .inr ⟨_, _, _, rfl, rfl, query, diagnostics, rfl⟩
  | removeSystemText start stop =>
    simp only [Edit.outline?, Layout.answer?, outline]
    cases l.opening.systemMessage.content.removeText? start stop with
    | none => exact .inl ⟨rfl, rfl⟩
    | some content => exact .inr ⟨_, _, _, rfl, rfl, query, diagnostics, rfl⟩
  | appendToSystem b => exact .inr ⟨_, _, _, rfl, rfl, query, diagnostics, rfl⟩
  | appendToLastUser b =>
    simp only [Edit.outline?, Edit.reply, Layout.answer?, Outline.appendToLastUser_conversation,
      hlast, Option.map_some]
    cases hl : l.lastUser? with
    | some m =>
      exact .inr ⟨_, _, _, rfl, rfl, query, diagnostics, by rw [editLastUser_outline]⟩
    | none =>
      refine .inr ⟨_, _, _, rfl, rfl, query, diagnostics, ?_⟩
      rw [Outline.editLastUser_of_none _ (hlast.trans hl)]
  | editLastUser f =>
    simp only [Edit.outline?, Edit.reply, Layout.answer?, Outline.editLastUser?_conversation,
      hlast, Option.map_some, Option.isSome_map]
    exact .inr ⟨_, _, _, rfl, rfl, query, diagnostics, by rw [editLastUser_outline]⟩
  | replaceOlder m =>
    simp only [Edit.outline?, Edit.reply, Layout.answer?, Outline.replaceOlder_conversation,
      Option.map_some]
    refine .inr ⟨_, _, _, rfl, rfl, query, diagnostics, ?_⟩
    unfold replaceOlder
    by_cases holder : l.older = []
    · rw [if_pos holder, if_pos (by exact holder)]
    · rw [if_neg holder, if_neg (by exact holder)]
      rfl
  | setDiagnostics d => exact .inr ⟨_, _, _, rfl, rfl, query, d, rfl⟩

end Layout

/-- Whatever edits are made one after another, a conversation shows and answers what its layout
does, and fails where it does. Edits in range do not fail. -/
theorem Edit.trace_eq_layout {messages : List Message} (hne : messages ≠ []) (window : Nat) :
    ∃ c, Conversation.ofMessages? messages window = .ok c ∧
      c.view = (Layout.ofMessages messages window).view ∧
      ∀ edits,
        Edit.trace Conversation.answer? Conversation.view c edits =
          Edit.trace Layout.answer? Layout.view (Layout.ofMessages messages window) edits ∧
        (Edit.AllInRange c edits →
          (Edit.trace Conversation.answer? Conversation.view c edits).length = edits.length) := by
  have hview (c : Conversation) (l : Layout) (h : l.Represents c) : c.view = l.view := by
    obtain ⟨query, diagnostics, rfl⟩ := h
    exact l.view_conversation query diagnostics
  have hrep := Layout.represents_ofOutline (Outline.ofMessages messages window)
  refine ⟨_, Outline.ofMessages?_eq hne window, hview _ _ hrep, fun edits => ⟨?_, length_trace⟩⟩
  exact Edit.trace_congr hview (fun c l h e => h.answer? e) hrep edits

/-- Edits of a request whose first user message comes before its system message. A system message
takes the place of the older part, and is replaced in turn. -/
theorem Edit.trace_eq_layout_twice :
    ([.user (.plain "Hi"), .system (.plain "Rules"), .user (.plain "Go"),
      .assistant (.plain "Done"), .user (.plain "Why?")] : List Message) ≠ [] ∧
      ∃ c l, Conversation.ofMessages? [.user (.plain "Hi"), .system (.plain "Rules"),
          .user (.plain "Go"), .assistant (.plain "Done"), .user (.plain "Why?")] 1 = .ok c ∧
        l = Layout.ofMessages [.user (.plain "Hi"), .system (.plain "Rules"),
          .user (.plain "Go"), .assistant (.plain "Done"), .user (.plain "Why?")] 1 ∧
        c.view = l.view ∧
        ∃ edits, edits = [.removeSystemText 0 1, .replaceOlder (.system (.plain "Summary")),
            .appendToLastUser (.ofText "Docs"), .replaceOlder (.assistant (.plain "Shorter"))] ∧
          Edit.trace Conversation.answer? Conversation.view c edits =
            Edit.trace Layout.answer? Layout.view l edits ∧
          (Edit.trace Conversation.answer? Conversation.view c edits).length = 4 := by
  refine ⟨List.cons_ne_nil _ _, ?_⟩
  obtain ⟨c, hc, hview, hedits⟩ :=
    @Edit.trace_eq_layout [.user (.plain "Hi"), .system (.plain "Rules"), .user (.plain "Go"),
      .assistant (.plain "Done"), .user (.plain "Why?")] (List.cons_ne_nil _ _) 1
  obtain ⟨htrace, hlength⟩ := hedits [.removeSystemText 0 1,
    .replaceOlder (.system (.plain "Summary")), .appendToLastUser (.ofText "Docs"),
    .replaceOlder (.assistant (.plain "Shorter"))]
  have hpart : Text.IsPart 0 1 c.systemMessage.text.toList := by
    obtain rfl := Except.ok.inj hc
    exact ⟨[], ['R'], "ules".toList, rfl, rfl, rfl⟩
  have hall := hlength ⟨hpart, fun _ _ => ⟨trivial, fun _ _ => ⟨trivial, fun _ _ => ⟨trivial,
    fun _ _ => trivial⟩⟩⟩⟩
  exact ⟨c, _, hc, rfl, hview, _, rfl, htrace, hall⟩

end PromptBudget
