import PromptBudget.Chat.Tokens
import PromptBudget.Stage.Basic
import PromptBudget.Text.Blank

/-!
# PromptBudget — replacing history by a summary

A conversation over its budget has its older part summarised by a generator, and the summary takes
the place of the older part.

Main statement:

* `origin_summaryMessage` — the summary is marked as one.
-/

namespace PromptBudget.Summary

/-- The sections of a summary. -/
def sections : List String :=
  ["Previous Conversation", "Current Work", "Key Technical Concepts", "Relevant Files and Code",
    "Problem Solving", "Pending Tasks and Next Steps"]

/-- What the generator is. -/
def systemPrompt : String :=
  "You are a helpful AI assistant tasked with summarizing conversations between a user and a coding " ++
  "assistant. Your summary will replace the earlier part of the conversation, so it must preserve every " ++
  "detail needed to continue the work without losing context."

/-- What the generator is asked for. -/
def instruction : String :=
  "Summarize the conversation so far. Use exactly the following sections, each as a numbered heading, " ++
  "and nothing else:\n" ++
  String.join (sections.zipIdx.map fun (title, i) => toString (i + 1) ++ ". " ++ title ++ "\n") ++
  "\nUnder \"Relevant Files and Code\" list file paths and the essential snippets. " ++
  "Under \"Pending Tasks and Next Steps\" quote the user's most recent instructions verbatim."

/-- The messages for the generator: those to summarise, then the instruction. -/
def request (older : List Message) : List Message :=
  older ++ [.user (.plain instruction)]

/-- The message that takes the place of others. -/
def summaryMessage (summary : String) : Message :=
  { Message.user (.plain ("<conversation_summary>\n" ++ Text.trimmed summary ++ "\n</conversation_summary>")) with
    origin := .compression }

/-- The conversation with a summary in the place of its older part, noted in its diagnostics. -/
def compressed (counter : TokenCounter) (tokensBefore : Nat) (summary : String) (c : Conversation) :
    Conversation :=
  let (replaced, shorter) := c.replaceOlder (summaryMessage summary)
  let stats := { tokensBefore, tokensAfter := counter.countMessages shorter.assembled, messagesReplaced := replaced }
  { shorter with diagnostics := { shorter.diagnostics with compression := some stats } }

/-- What the stage does with the generated summary. -/
def useSummary (counter : TokenCounter) (tokensBefore : Nat) (summary : String) : Stage.Work Bool :=
  if (Text.trimmed summary).isEmpty then throw (.degraded "summary generation returned no text")
  else do
    modify (compressed counter tokensBefore summary)
    return true

/-- The name of the stage. -/
def name : String := "user_compressor"

/-- Replaces the older part of a conversation with more tokens than allowed by a summary. -/
def stage (generator : Generator) (tokenThreshold : Nat) (timeout : Duration)
    (counter : TokenCounter := .heuristic) : Stage where
  name := name
  run c context now :=
    let tokens := counter.countMessages c.assembled
    if tokens ≤ tokenThreshold || c.older.isEmpty then .untouched c context now
    else
      .ofCall generator.service (systemPrompt, request c.older) timeout c context now (useSummary counter tokens)

theorem origin_summaryMessage (summary : String) : (summaryMessage summary).isSummary = true := rfl

end PromptBudget.Summary
