import PromptBudget.Settings.Basic
import PromptBudget.Stage.Basic
import PromptBudget.Text.Blank

/-!
# PromptBudget — putting passages into the conversation

The user's question is searched for, and the passages that fit are put into the last user message
or the system message.

Main statements:

* `relevant_sublist` — the passages used are among the hits, in their order.
* `length_relevant` — there are no more of them than asked for.
-/

namespace PromptBudget.Passages

/-- How passages are searched and where they are put. -/
structure Options where
  /-- The project to search. -/
  projectPath : String
  /-- How many passages are used at most. -/
  topK : Nat
  /-- The least score of a passage that is used. -/
  scoreThreshold : Floating
  /-- Where they are put. -/
  target : InjectionTarget
  /-- How long the search may take. -/
  timeout : Duration

/-- The query for a question. -/
def Options.query (options : Options) (question : String) : SearchQuery :=
  { text := question, projectPath := options.projectPath, topK := options.topK,
    scoreThreshold := options.scoreThreshold }

/-- The first hits whose score is high enough, and no more of them than wanted. -/
def relevant (options : Options) (hits : List SearchHit) : List SearchHit :=
  (hits.filter fun hit => options.scoreThreshold.le hit.score).take options.topK

/-- A passage under the path of its file. -/
def passage (hit : SearchHit) : String :=
  match hit.filePath with
  | some path => "File: " ++ path ++ "\n" ++ hit.text
  | none => hit.text

/-- Passages separated by blank lines. -/
def joined (hits : List SearchHit) : String :=
  String.intercalate "\n\n" (hits.map passage)

/-- The block that holds passages. -/
def block (passages : String) : Block :=
  .ofText ("<codebase_search_context>\n" ++ passages ++ "\n</codebase_search_context>")

/-- The conversation with a block put at the target. -/
def inject (target : InjectionTarget) (b : Block) (c : Conversation) : Except StageError Conversation :=
  match target with
  | .lastUser => c.appendToLastUser b
  | .system => .ok (c.appendToSystem b)

/-- The conversation with passages noted in its diagnostics. -/
def noted (passages : String) (c : Conversation) : Conversation :=
  { c with diagnostics := { c.diagnostics with passages := some passages } }

/-- What the stage does with the hits of its search. -/
def useHits (options : Options) (hits : List SearchHit) : Stage.Work Bool :=
  let used := relevant options hits
  if used.isEmpty then return false
  else do
    let passages := joined used
    Stage.Work.make (inject options.target (block passages))
    modify (noted passages)
    return true

/-- The name of the stage. -/
def name : String := "semantic_context"

/-- Searches for the user's question and puts what is found into the conversation. -/
def stage (searcher : Searcher) (options : Options) : Stage where
  name := name
  run c context now :=
    let question := Text.trimmed c.query
    if question.isEmpty then .untouched c context now
    else .ofCall searcher.service (options.query question) options.timeout c context now (useHits options)

theorem relevant_sublist (options : Options) (hits : List SearchHit) : (relevant options hits).Sublist hits :=
  (List.take_sublist _ _).trans List.filter_sublist

theorem length_relevant (options : Options) (hits : List SearchHit) :
    (relevant options hits).length ≤ options.topK :=
  List.length_take_le _ _

end PromptBudget.Passages
