import PromptBudget.Proofs.Additions
import PromptBudget.Proofs.Summaries
import PromptBudget.Proofs.Trimming

/-!
# PromptBudget — passages that were found

What the user asked is searched for, once and under the bounds of the request. Of the hits, those
with a low score are passed over, and the first of the others are put into the conversation.

Which hits are used is said by going through them one by one (`Passages.Uses`): a hit that is passed
over takes no place. How they are written is said in the same way (`Passages.Lists`). The text that
is noted in the diagnostics is the text in the block that the conversation gains.

Main results:

* `Passages.uses_iff`, `Passages.lists_iff` — the hits used and the text written are these, and no
  others.
* `Conversation.Reachable.searches` — what the stage does to any conversation.
-/

namespace PromptBudget

namespace Passages

-- ---------------------------------------------------------------------------
-- The hits that are used
-- ---------------------------------------------------------------------------

/-- The hits that are used if there are so many places. -/
inductive Uses (threshold : Floating) : Nat → List SearchHit → List SearchHit → Prop where
  /-- There are no places left. -/
  | full {hits : List SearchHit} : Uses threshold 0 hits []
  /-- There are no hits left. -/
  | ended {places : Nat} : Uses threshold places [] []
  /-- A hit whose score is high enough takes a place. -/
  | taken {places : Nat} {hit : SearchHit} {hits used : List SearchHit}
      (hscore : threshold.le hit.score = true) (hrest : Uses threshold places hits used) :
      Uses threshold (places + 1) (hit :: hits) (hit :: used)
  /-- Any other hit is passed over, and the places are left to those after it. -/
  | passed {places : Nat} {hit : SearchHit} {hits used : List SearchHit}
      (hscore : threshold.le hit.score = false) (hrest : Uses threshold places hits used) :
      Uses threshold places (hit :: hits) used

variable {threshold : Floating} {places : Nat} {hits used : List SearchHit}

theorem uses_take_filter : ∀ (hits : List SearchHit) (places : Nat),
    Uses threshold places hits ((hits.filter fun hit => threshold.le hit.score).take places)
  | [], _ => by rw [List.filter_nil, List.take_nil]; exact .ended
  | _ :: _, 0 => by rw [List.take_zero]; exact .full
  | hit :: hits, places + 1 => by
    by_cases hscore : threshold.le hit.score = true
    · simp only [List.filter_cons, if_pos hscore, List.take_succ_cons]
      exact .taken hscore (uses_take_filter hits places)
    · simp only [List.filter_cons, if_neg hscore]
      exact .passed (Bool.eq_false_iff.2 hscore) (uses_take_filter hits (places + 1))

theorem uses_iff : Uses threshold places hits used ↔
    used = (hits.filter fun hit => threshold.le hit.score).take places := by
  constructor
  · intro h
    induction h with
    | full => rw [List.take_zero]
    | ended => rw [List.filter_nil, List.take_nil]
    | taken hscore _ ih => simp only [List.filter_cons, if_pos hscore, List.take_succ_cons, ← ih]
    | passed hscore _ ih =>
      simp only [List.filter_cons, if_neg (Bool.eq_false_iff.1 hscore), ← ih]
  · rintro rfl
    exact uses_take_filter hits places

-- ---------------------------------------------------------------------------
-- The text that is written
-- ---------------------------------------------------------------------------

/-- A hit is written under a line with the path of its file, if it has one. -/
inductive Shows (hit : SearchHit) : String → Prop where
  | bare (hnone : hit.filePath = none) : Shows hit hit.text
  | titled {path : String} (hpath : hit.filePath = some path) :
      Shows hit ("File: " ++ path ++ "\n" ++ hit.text)

/-- Hits are written one after another, with a blank line between them. -/
inductive Lists : List SearchHit → String → Prop where
  | single {hit : SearchHit} {text : String} (h : Shows hit text) : Lists [hit] text
  | cons {hit : SearchHit} {hits : List SearchHit} {text rest : String} (h : Shows hit text)
      (hrest : Lists hits rest) : Lists (hit :: hits) (text ++ "\n\n" ++ rest)

theorem shows_iff {hit : SearchHit} {text : String} : Shows hit text ↔ text = passage hit := by
  constructor
  · intro h
    cases h with
    | bare hnone => rw [passage, hnone]
    | titled hpath => rw [passage, hpath]
  · rintro rfl
    rw [passage]
    split
    · next hpath => exact .titled hpath
    · next hnone => exact .bare hnone

theorem joined_cons {hit : SearchHit} (hne : hits ≠ []) :
    joined (hit :: hits) = passage hit ++ "\n\n" ++ joined hits := by
  rw [joined, List.map_cons, String.intercalate_cons_of_ne_nil (mt List.map_eq_nil_iff.1 hne)]
  rfl

theorem lists_joined : ∀ {hits : List SearchHit}, hits ≠ [] → Lists hits (joined hits)
  | [], hne => absurd rfl hne
  | [hit], _ => .single (shows_iff.2 String.intercalate_singleton)
  | hit :: next :: hits, _ => by
    rw [joined_cons (List.cons_ne_nil next hits)]
    exact .cons (shows_iff.2 rfl) (lists_joined (List.cons_ne_nil next hits))

theorem lists_iff {text : String} : Lists hits text ↔ hits ≠ [] ∧ text = joined hits := by
  constructor
  · intro h
    induction h with
    | single h => exact ⟨List.cons_ne_nil _ _, (shows_iff.1 h).trans String.intercalate_singleton.symm⟩
    | cons h _ ih =>
      obtain ⟨hne, rfl⟩ := ih
      exact ⟨List.cons_ne_nil _ _, by rw [joined_cons hne, shows_iff.1 h]⟩
  · rintro ⟨hne, rfl⟩
    exact lists_joined hne

-- ---------------------------------------------------------------------------
-- What becomes of the conversation
-- ---------------------------------------------------------------------------

/-- How the stage ends that has searched, by the hits that it has in the end. -/
inductive Concludes (options : Options) (c : Conversation) (out : Stage.Outcome) :
    Except ServiceError (List SearchHit) → Prop where
  | failed {e : ServiceError} (hresult : out.result = .error (.service e))
      (hconversation : out.conversation = c) : Concludes options c out (.error e)
  | nothing {hits : List SearchHit} (hused : Uses options.scoreThreshold options.topK hits [])
      (hresult : out.result = .ok false) (hconversation : out.conversation = c) :
      Concludes options c out (.ok hits)
  /-- The text of some passages is put into a block and noted. -/
  | injected {hits used : List SearchHit} {text : String} {d : Conversation}
      (hused : Uses options.scoreThreshold options.topK hits used) (htext : Lists used text)
      (hresult : out.result = .ok true)
      (hgains : c.Gains (.ofText ("<codebase_search_context>\n" ++ text ++
        "\n</codebase_search_context>")) options.target d)
      (hconversation : out.conversation =
        { d with diagnostics := { c.diagnostics with passages := some text } }) :
      Concludes options c out (.ok hits)

/-- There is something to add to in a conversation in which something was asked. -/
theorem exists_inject {c : Conversation} (hc : c.Reachable) (hquery : c.query ≠ "")
    (target : InjectionTarget) (b : Block) :
    ∃ d, inject target b c = .ok d ∧ c.Gains b target d := by
  cases target with
  | lastUser =>
    obtain ⟨user, huser⟩ := Option.ne_none_iff_exists'.1 (mt hc.query_eq_empty hquery)
    exact Conversation.gains_appendToLastUser huser b
  | system =>
    exact ⟨_, rfl, Conversation.gains_appendToSystem (fun _ => hc.getElem?_systemIndex) b⟩

/-- The stage that has asked its searcher ends by the hits that it gets. -/
theorem concludes_ofCall {options : Options} {c : Conversation} (hc : c.Reachable)
    (hquery : c.query ≠ "") (service : Service ρ (List SearchHit)) (question : ρ)
    (limit : Duration) (context : RequestContext) (now : Moment) :
    Concludes options c (.ofCall service question limit c context now (useHits options))
      ((service.call question limit context now).answerWithin limit).result := by
  simp only [Stage.Outcome.ofCall]
  cases ((service.call question limit context now).answerWithin limit).result with
  | error e => exact .failed rfl rfl
  | ok hits =>
    have hused : Uses options.scoreThreshold options.topK hits (relevant options hits) :=
      uses_iff.2 rfl
    simp only [Stage.Work.onAnswer, useHits]
    split
    · next hnone =>
      rw [List.isEmpty_iff.1 hnone] at hused
      exact .nothing hused rfl rfl
    · next hsome =>
      have hne : relevant options hits ≠ [] := mt List.isEmpty_iff.2 hsome
      have hlists := lists_joined hne
      generalize joined (relevant options hits) = text at hlists ⊢
      obtain ⟨d, hd, hgains⟩ := exists_inject hc hquery options.target (block text)
      have hwork : (do
          Stage.Work.make (inject options.target (block text))
          modify (noted text)
          return true : Stage.Work Bool) c = .ok true (noted text d) :=
        Stage.Work.bind_of_ok (Stage.Work.make_of_ok hd)
      simp only [Stage.Outcome.worked, hwork]
      refine .injected hused hlists rfl hgains ?_
      rw [← hgains.diagnostics]
      rfl

variable {c : Conversation} {question : String}

theorem run_of_blank (hblank : Text.TrimsTo c.query "") (searcher : Searcher) (options : Options)
    (context : RequestContext) (now : Moment) :
    (stage searcher options).run c context now = .untouched c context now := by
  simp only [stage]
  rw [← Text.trimsTo_iff.1 hblank]
  rfl

theorem run_of_asked (hquestion : Text.TrimsTo c.query question) (hasked : question ≠ "")
    (searcher : Searcher) (options : Options) (context : RequestContext) (now : Moment) :
    (stage searcher options).run c context now =
      .ofCall searcher.service (options.query question) options.timeout c context now
        (useHits options) := by
  obtain rfl := Text.trimsTo_iff.1 hquestion
  simp only [stage]
  exact if_neg (mt String.isEmpty_iff.1 hasked)

theorem concludes_run (hc : c.Reachable) (hquestion : Text.TrimsTo c.query question)
    (hasked : question ≠ "") (searcher : Searcher) (options : Options) (context : RequestContext)
    (now : Moment) :
    Concludes options c ((stage searcher options).run c context now)
      (((searcher.search context now (options.query question)).guarded context now
        (some options.timeout)).answerWithin options.timeout).result := by
  have hquery : c.query ≠ "" := by
    intro hnone
    rw [hnone] at hquestion
    exact hasked (Text.trimsTo_iff.1 hquestion)
  rw [run_of_asked hquestion hasked]
  exact concludes_ofCall hc hquery searcher.service _ _ _ _

end Passages

/-- Whatever conversation there is, and whatever the searcher does: if nothing was asked but blanks,
everything stays as it is and nobody is asked. Else what was asked is searched for, once and under
the bounds of the request, and the stage ends by the hits that it gets. -/
theorem Conversation.Reachable.searches {c : Conversation} (hc : c.Reachable)
    (searcher : Searcher) (options : Passages.Options) (context : RequestContext) (now : Moment) :
    let out := (Passages.stage searcher options).run c context now
    ∃ question, Text.TrimsTo c.query question ∧
      (question = "" →
        out.result = .ok false ∧ out.conversation = c ∧ out.consultations = []) ∧
      (question ≠ "" →
        let query : SearchQuery := {
          text := question
          projectPath := options.projectPath
          topK := options.topK
          scoreThreshold := options.scoreThreshold }
        let call := searcher.search context now query
        out.consultations =
          (if call.started = true ∧ context.isCancelled now = false ∧
              context.limit now options.timeout ≠ 0 then [⟨now, .search query⟩] else []) ∧
        Passages.Concludes options c out
          ((call.guarded context now (some options.timeout)).answerWithin options.timeout).result) := by
  intro out
  have hquestion := Text.trimsTo_trimmed c.query
  refine ⟨Text.trimmed c.query, hquestion, ?_, ?_⟩
  · intro hblank
    rw [hblank] at hquestion
    simp only [out, Passages.run_of_blank hquestion]
    exact ⟨rfl, rfl, rfl⟩
  · intro hasked query call
    refine ⟨?_, Passages.concludes_run hc hquestion hasked searcher options context now⟩
    simp only [out, Passages.run_of_asked hquestion hasked]
    exact Stage.Outcome.consultations_ofCall searcher.service query options.timeout c context now _

/-- Two places for five hits, of which the first and the third have a low score. There is no system
message, so the stand-in gains the block. -/
theorem Conversation.Reachable.searches_standIn :
    let hits : List SearchHit := [⟨"a", .zero, none⟩, ⟨"b", .one, some "b.rs"⟩, ⟨"c", .zero, none⟩,
      ⟨"d", SearchSettings.defaultThreshold, none⟩, ⟨"e", .one, none⟩]
    let searcher : Searcher := ⟨fun _ _ _ => { answer := some { after := 1, result := .ok hits } }⟩
    let options : Passages.Options := {
      projectPath := "/p"
      topK := 2
      scoreThreshold := SearchSettings.defaultThreshold
      target := .system
      timeout := 60 }
    ∃ c, Conversation.ofMessages? [.user (.plain " Where?\n")] 1 = .ok c ∧ c.Reachable ∧
      ((Passages.stage searcher options).run c {} 0).consultations =
        [⟨0, .search ⟨"Where?", "/p", 2, SearchSettings.defaultThreshold⟩⟩] ∧
      Passages.Concludes options c ((Passages.stage searcher options).run c {} 0) (.ok hits) ∧
      ((Passages.stage searcher options).run c {} 0).conversation.assembled.map (·.text) =
        ["<codebase_search_context>\nFile: b.rs\nb\n\nd\n</codebase_search_context>",
          " Where?\n"] := by
  intro hits searcher options
  obtain ⟨c, hc⟩ : ∃ c, Conversation.ofMessages? [.user (.plain " Where?\n")] 1 = .ok c := ⟨_, rfl⟩
  obtain ⟨question, hquestion, -, hsearches⟩ := searches (.fresh hc) searcher options {} 0
  obtain rfl : question = "Where?" := by
    rw [Text.trimsTo_iff.1 hquestion]
    obtain rfl := Except.ok.inj hc
    decide
  obtain ⟨hasked, hends⟩ := hsearches (by decide)
  refine ⟨c, hc, .fresh hc, hasked.trans (if_pos ⟨rfl, rfl, by decide⟩), hends, ?_⟩
  obtain rfl := Except.ok.inj hc
  decide

end PromptBudget
