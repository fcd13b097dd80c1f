import PromptBudget.Service.Call
import PromptBudget.Json.Record

/-!
# PromptBudget — passage search

A searcher takes a query and gives hits: passages, each with a score and perhaps the path of its
file. Both have a JSON form.
-/

namespace PromptBudget

open Json

/-- What to look for. -/
structure SearchQuery where
  /-- The words of the query. -/
  text : String
  /-- The project to search. -/
  projectPath : String
  /-- How many passages are wanted. -/
  topK : Nat
  /-- The least score of a passage that is wanted. -/
  scoreThreshold : Floating
  deriving DecidableEq, Repr

/-- A passage that was found. -/
structure SearchHit where
  /-- The passage. -/
  text : String
  /-- How well it fits. -/
  score : Floating
  /-- The path of its file. -/
  filePath : Option String := none
  deriving DecidableEq, Repr

/-- A service that searches passages, as the calls that it answers to requests at moments. -/
structure Searcher where
  /-- The call for a query. -/
  search : RequestContext → Moment → SearchQuery → Call (List SearchHit)

/-- How many passages are wanted if a query does not say it. -/
def SearchQuery.defaultTopK : Nat := 5

/-- A query in JSON. -/
def SearchQuery.encode (q : SearchQuery) : Json :=
  .object [("text", .string q.text), ("project_path", .string q.projectPath), ("top_k", Json.nat q.topK),
    ("score_threshold", Json.single q.scoreThreshold)]

/-- The query that a value writes. -/
def SearchQuery.decode? (value : Json) : Option SearchQuery := do
  let r ← record? .json ["text", "project_path", "top_k", "score_threshold"] value.shape
  return {
    text := ← r.required "text" asString?
    projectPath := ← r.withDefault "project_path" asString? ""
    topK := ← r.withDefault "top_k" (asNat? 64) defaultTopK
    scoreThreshold := ← r.withDefault "score_threshold" asSingle? .zero }

/-- A hit in JSON. -/
def SearchHit.encode (h : SearchHit) : Json :=
  .object ([("text", .string h.text), ("score", Json.single h.score)]
    ++ (match h.filePath with
      | some path => [("file_path", .string path)]
      | none => []))

/-- The hit that a value writes. -/
def SearchHit.decode? (value : Json) : Option SearchHit := do
  let r ← record? .json ["text", "score", "file_path"] value.shape
  return {
    text := ← r.required "text" asString?
    score := ← r.required "score" asSingle?
    filePath := ← r.withDefault "file_path" (nullable asString?) none }

end PromptBudget
