import PromptBudget.Arrange
import PromptBudget.Chat.Codec
import PromptBudget.Chat.Content
import PromptBudget.Chat.Input
import PromptBudget.Chat.Message
import PromptBudget.Chat.Tokens
import PromptBudget.Command.Options
import PromptBudget.Command.Run
import PromptBudget.Conversation.Basic
import PromptBudget.Conversation.Diagnostics
import PromptBudget.Http.Completions
import PromptBudget.Http.Exchange
import PromptBudget.Http.Passages
import PromptBudget.Http.Target
import PromptBudget.Identity
import PromptBudget.Json.Basic
import PromptBudget.Json.Draft
import PromptBudget.Json.Printer
import PromptBudget.Json.Reader
import PromptBudget.Json.Record
import PromptBudget.Json.Token
import PromptBudget.Main
import PromptBudget.Number.Decimal
import PromptBudget.Number.Floating
import PromptBudget.Number.Power
import PromptBudget.Report
import PromptBudget.Service.Call
import PromptBudget.Service.Error
import PromptBudget.Service.Generation
import PromptBudget.Service.Search
import PromptBudget.Settings.Basic
import PromptBudget.Settings.Codec
import PromptBudget.Settings.Load
import PromptBudget.Settings.Text
import PromptBudget.Stage.Basic
import PromptBudget.Stage.LoopBreak
import PromptBudget.Stage.Passages
import PromptBudget.Stage.Pipeline
import PromptBudget.Stage.Summary
import PromptBudget.Stage.ToolDocs
import PromptBudget.Text.Blank
import PromptBudget.Text.Find
import PromptBudget.Text.Printable
import PromptBudget.Text.Quoted
import PromptBudget.Text.Utf8
import PromptBudget.Time.Duration
import PromptBudget.Toml.Printer
import PromptBudget.Toml.Reader
import PromptBudget.Toml.Scalar
import PromptBudget.Toml.Table
import PromptBudget.Proofs.Outline
import PromptBudget.Proofs.Cutting
import PromptBudget.Proofs.Edits
import PromptBudget.Proofs.StageEffects
import PromptBudget.Proofs.Frame
import PromptBudget.Proofs.Alike
import PromptBudget.Proofs.Atomicity
import PromptBudget.Proofs.SameText
import PromptBudget.Proofs.Bounds
import PromptBudget.Proofs.Degradation
import PromptBudget.Proofs.Consultations
import PromptBudget.Proofs.ToolResults
import PromptBudget.Proofs.Layouts
import PromptBudget.Proofs.Maps
import PromptBudget.Proofs.RoundTrip
import PromptBudget.Proofs.Requests
import PromptBudget.Proofs.Verbatim
import PromptBudget.Proofs.Batches
import PromptBudget.Proofs.Records
import PromptBudget.Proofs.Budget
import PromptBudget.Proofs.Truthful
import PromptBudget.Proofs.Timing
import PromptBudget.Proofs.Passthrough
import PromptBudget.Proofs.RecentPart
import PromptBudget.Proofs.ContentText
import PromptBudget.Proofs.Occurrences
import PromptBudget.Proofs.ToolDocumentation
import PromptBudget.Proofs.Summaries
import PromptBudget.Proofs.Additions
import PromptBudget.Proofs.Loops
import PromptBudget.Proofs.FoundPassages
import PromptBudget.Proofs.StageFailures
import PromptBudget.Proofs.Delimiters
import PromptBudget.Proofs.Guarding
import PromptBudget.Proofs.Headings
import PromptBudget.Proofs.Estimates
import PromptBudget.Proofs.Overrides
import PromptBudget.Proofs.Warnings
import PromptBudget.Proofs.TomlStrings
import PromptBudget.Proofs.TomlScalars
import PromptBudget.Proofs.TomlDocuments
import PromptBudget.Proofs.PartialRecords
import PromptBudget.Proofs.Omissions
import PromptBudget.Proofs.PartialFiles
import PromptBudget.Proofs.SummaryRequests
import PromptBudget.Proofs.Responses
import PromptBudget.Proofs.Secrecy
