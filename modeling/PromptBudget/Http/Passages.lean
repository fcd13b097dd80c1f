import PromptBudget.Http.Exchange
import PromptBudget.Service.Search
import PromptBudget.Settings.Basic
import PromptBudget.Text.Blank

/-!
# PromptBudget — a searcher over HTTP

The searcher posts a query to its endpoint and takes the results of the response in their order. A
result without a score has score zero, and an empty path is no path.
-/

namespace PromptBudget.Http.Passages

open Json

/-- The name of the service in logs. -/
def name : String := "http-semantic"

/-- The body of a request. -/
def requestBody (query : SearchQuery) : Json :=
  .object [("query", .string query.text), ("projectPath", .string query.projectPath), ("topK", Json.nat query.topK),
    ("scoreThreshold", Json.single query.scoreThreshold)]

/-- The request for a query. -/
def request (endpoint : String) (query : SearchQuery) : Request :=
  { url := endpoint, authorization := none, body := requestBody query }

/-- The hit of a result. -/
def hit? (draft : Draft) : Option SearchHit := do
  let r ← record? .json ["content", "score", "filePath"] draft.shape
  return {
    text := ← r.required "content" text?
    score := ← r.withDefault "score" (fun draft => (scalar? draft).bind asSingle?) .zero
    filePath := (← r.withDefault "filePath" nullableText? none).filter (!·.isEmpty) }

/-- The hits of a response. -/
def hits? (draft : Draft) : Option (List SearchHit) := do
  let r ← record? .json ["results"] draft.shape
  r.withDefault "results" (fun results => results.shape.listOf? hit?) []

/-- The searcher at an endpoint. -/
def searcherAt (transport : Transport) (endpoint : String) : Searcher where
  search context now query :=
    ((transport.send (request endpoint query)).map (classify (readBody hits?))).guarded context now none

/-- The searcher of some settings, if they name an endpoint that is not blank. -/
def searcher? (transport : Transport) (settings : SearchSettings) : Option Searcher :=
  (settings.endpoint.filter (!Text.isBlankText ·)).map (searcherAt transport)

end PromptBudget.Http.Passages
