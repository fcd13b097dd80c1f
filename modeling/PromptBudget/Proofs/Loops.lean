import PromptBudget.Proofs.Additions
import PromptBudget.Proofs.Trimming
import PromptBudget.Stage.LoopBreak

/-!
# PromptBudget — loops are broken where there is one

The stage that breaks loops looks for the last two answers from the end of the older part. What it
looks for is said here by splitting the older part at these answers (`LoopBreak.LastAnswers`), and
what it compares by what is left of their texts without blanks around (`Text.TrimsTo`).

An older part has a user message after it, whatever was done to the conversation, so there is always
a message that the intervention can be added to.

Main results:

* `LoopBreak.repeats_iff` — the stage finds a loop exactly where there is one.
* `Conversation.Reachable.breaks_loops` — what the stage does to any conversation.
-/

namespace PromptBudget

namespace LoopBreak

variable {older : List Message} {previous latest : Message}

/-- The last two answers among some messages: what is between them and after them is no answer. -/
structure LastAnswers (older : List Message) (previous latest : Message) : Prop where
  split : ∃ front between back, older = front ++ previous :: (between ++ latest :: back) ∧
    (∀ m ∈ between, m.isAssistant = false) ∧ ∀ m ∈ back, m.isAssistant = false
  previous : previous.isAssistant = true
  latest : latest.isAssistant = true

/-- Among at least three messages the last two answers have the same text, but for blanks around it. -/
structure Loops (older : List Message) : Prop where
  enough : 3 ≤ older.length
  same : ∃ previous latest said, LastAnswers older previous latest ∧
    Text.TrimsTo previous.text said ∧ Text.TrimsTo latest.text said

theorem filter_eq_nil_of_forall {messages : List Message}
    (h : ∀ m ∈ messages, m.isAssistant = false) : messages.filter (·.isAssistant) = [] :=
  List.filter_eq_nil_iff.2 fun m hm => by rw [h m hm]; exact Bool.false_ne_true

/-- From the end of the messages the last two answers are found first. -/
theorem lastAnswers_iff : LastAnswers older previous latest ↔
    ∃ rest, older.reverse.filter (·.isAssistant) = latest :: previous :: rest := by
  constructor
  · intro h
    obtain ⟨front, between, back, rfl, hbetween, hback⟩ := h.split
    refine ⟨front.reverse.filter (·.isAssistant), ?_⟩
    simp only [List.reverse_append, List.reverse_cons, List.append_assoc, List.filter_append,
      List.filter_reverse, filter_eq_nil_of_forall hback, filter_eq_nil_of_forall hbetween,
      List.reverse_nil, List.nil_append, List.filter_cons_of_pos h.latest,
      List.filter_cons_of_pos h.previous, List.cons_append]
  · rintro ⟨rest, h⟩
    obtain ⟨back, others, hreverse, hback, hlatest, hothers⟩ := List.filter_eq_cons_iff.1 h
    obtain ⟨between, front, rfl, hbetween, hprevious, -⟩ := List.filter_eq_cons_iff.1 hothers
    refine ⟨⟨front.reverse, between.reverse, back.reverse, ?_, ?_, ?_⟩, hprevious, hlatest⟩
    · rw [← List.reverse_reverse older, hreverse]
      simp
    · intro m hm
      exact Bool.eq_false_iff.2 (hbetween m (List.mem_reverse.1 hm))
    · intro m hm
      exact Bool.eq_false_iff.2 (hback m (List.mem_reverse.1 hm))

theorem repeats_iff : repeats older = true ↔ Loops older := by
  rw [repeats, Bool.and_eq_true, decide_eq_true_eq]
  constructor
  · rintro ⟨henough, hsame⟩
    split at hsame
    · next latest previous rest hfound =>
      refine ⟨henough, previous, latest, _, lastAnswers_iff.2 ⟨rest, hfound⟩,
        Text.trimsTo_iff.2 rfl, Text.trimsTo_iff.2 ?_⟩
      exact (beq_iff_eq.1 hsame).symm
    · cases hsame
  · rintro ⟨henough, previous, latest, said, hanswers, hprevious, hlatest⟩
    obtain ⟨rest, hfound⟩ := lastAnswers_iff.1 hanswers
    refine ⟨henough, ?_⟩
    rw [hfound]
    exact beq_iff_eq.2 ((Text.trimsTo_iff.1 hlatest).symm.trans (Text.trimsTo_iff.1 hprevious))

theorem run_of_loops {c : Conversation} (hc : c.Reachable) (hloops : Loops c.older)
    (context : RequestContext) (now : Moment) :
    ∃ d, stage.run c context now = .changed (.ok d) c context now ∧
      c.Gains (.ofText intervention) .lastUser d := by
  have holder : c.older ≠ [] := by
    intro hnone
    have henough := hloops.enough
    rw [hnone] at henough
    exact absurd henough (by decide)
  obtain ⟨user, huser⟩ := Option.ne_none_iff_exists'.1 (mt hc.older_eq_nil holder)
  obtain ⟨d, hd, hgains⟩ := Conversation.gains_appendToLastUser huser (.ofText intervention)
  refine ⟨d, ?_, hgains⟩
  rw [← hd]
  exact if_pos (repeats_iff.2 hloops)

theorem run_of_not_loops {c : Conversation} (hloops : ¬ Loops c.older) (context : RequestContext)
    (now : Moment) : stage.run c context now = .untouched c context now :=
  if_neg (mt repeats_iff.1 hloops)

end LoopBreak

/-- Whatever conversation there is: the stage never fails. If the last two answers of the older part
say the same, the last user message gains one block, which tells the assistant to try something
else. Otherwise everything stays as it is. -/
theorem Conversation.Reachable.breaks_loops {c : Conversation} (hc : c.Reachable)
    (context : RequestContext) (now : Moment) :
    let out := LoopBreak.stage.run c context now
    (∀ e, out.result ≠ .error e) ∧
    (out.result = .ok true ↔ LoopBreak.Loops c.older) ∧
    (LoopBreak.Loops c.older →
      c.Gains (.ofText LoopBreak.intervention) .lastUser out.conversation) ∧
    (¬ LoopBreak.Loops c.older → out.conversation = c) := by
  intro out
  by_cases hloops : LoopBreak.Loops c.older
  · obtain ⟨d, hrun, hgains⟩ := LoopBreak.run_of_loops hc hloops context now
    simp only [out, hrun]
    exact ⟨nofun, ⟨fun _ => hloops, fun _ => rfl⟩, fun _ => hgains, fun hnot => absurd hloops hnot⟩
  · simp only [out, LoopBreak.run_of_not_loops hloops]
    exact ⟨nofun, ⟨nofun, fun h => absurd h hloops⟩, fun h => absurd h hloops, fun _ => rfl⟩

/-- The same answer twice, the second time spread around a picture and after a no-break space. -/
theorem Conversation.Reachable.breaks_loops_picture :
    let image : Block := { kind := .image, text := "" }
    let again : Content := .blocks [.ofText "\u00a0Do", image, .ofText "ne."]
    ∃ c, Conversation.ofMessages? [.user (.plain "Fix it"), .assistant (.plain "Done.\n"),
        .tool "1" (.plain "failed"), .assistant again, .user (.plain "No")] 1 = .ok c ∧
      c.Reachable ∧ LoopBreak.Loops c.older ∧ (LoopBreak.stage.run c {} 0).result = .ok true ∧
      c.Gains (.ofText LoopBreak.intervention) .lastUser
        (LoopBreak.stage.run c {} 0).conversation ∧
      (LoopBreak.stage.run c {} 0).conversation.messages.map (·.content.toBlocks.length) =
        [1, 1, 1, 3, 2] := by
  intro image again
  obtain ⟨c, hc⟩ : ∃ c, Conversation.ofMessages? [.user (.plain "Fix it"),
      .assistant (.plain "Done.\n"), .tool "1" (.plain "failed"), .assistant again,
      .user (.plain "No")] 1 = .ok c := ⟨_, rfl⟩
  have hloops : LoopBreak.Loops c.older := by
    refine LoopBreak.repeats_iff.1 ?_
    obtain rfl := Except.ok.inj hc
    decide
  obtain ⟨-, hresult, hgains, -⟩ := breaks_loops (.fresh hc) {} 0
  refine ⟨c, hc, .fresh hc, hloops, hresult.2 hloops, hgains hloops, ?_⟩
  obtain rfl := Except.ok.inj hc
  decide

end PromptBudget
