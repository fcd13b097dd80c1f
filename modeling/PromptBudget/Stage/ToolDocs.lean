import PromptBudget.Settings.Basic
import PromptBudget.Stage.Basic
import PromptBudget.Text.Blank
import PromptBudget.Text.Find

/-!
# PromptBudget — moving tool documentation

The system message documents the tools in a part between two delimiters. This part is cut out and
given to the last user message, where it is read last. If a tool call was not understood before,
only the section about that tool is given.

Main statements:

* `append_of_find?` — the system text is what is before the part, the part, and what is after it.
* `after_of_find?` — what is after the part starts with the end delimiter, which stays.
-/

namespace PromptBudget.ToolDocs

open Text

/-- A part of a text, with what is before it and after it. -/
structure Found where
  /-- What is before it. -/
  before : List Char
  /-- The part. -/
  part : List Char
  /-- What is after it. -/
  after : List Char

/-- The documentation in a text: from the first start delimiter to the first end delimiter that
comes at or after its beginning. -/
def find? (settings : ToolDocsSettings) (text : List Char) : Option Found :=
  (breakOn? settings.start.toList text).bind fun (before, rest) =>
    (breakOn? settings.stop.toList rest).map fun (part, after) => { before, part, after }

/-- Whether a message other than a system message tells of a call that was not understood. -/
def sawFailure (settings : ToolDocsSettings) (messages : List Message) : Bool :=
  messages.any fun m => !m.isSystem && contains settings.failureMarker.toList m.text.toList

/-- What starts the next section. -/
def nextSection : List Char := ['\n', '#', '#', ' ']

/-- The section with the given heading: from the first place where the heading is, up to the next section. -/
def section? (heading docs : List Char) : Option (List Char) :=
  (breakOn? heading docs).map fun (_, rest) =>
    let body := rest.drop heading.length
    heading ++ ((breakOn? nextSection body).map (·.1)).getD body

/-- The name of the element that wraps a section: its heading without marks and blanks around it,
with an underscore for each blank inside. -/
def sectionTag (heading : List Char) : List Char :=
  (trim (dropLeading '#' heading)).map (fun c => if isBlank c then '_' else c) ++ "_usage".toList

/-- A text wrapped in an element. -/
def wrapped (tag body : List Char) : List Char :=
  "<".toList ++ tag ++ ">\n".toList ++ body ++ "</".toList ++ tag ++ ">".toList

/-- What is given to the last user message. -/
def payload (settings : ToolDocsSettings) (messages : List Message) (docs : List Char) : List Char :=
  let heading := settings.failureHeading.toList
  match if sawFailure settings messages then section? heading docs else none with
  | some part => wrapped (sectionTag heading) part
  | none => wrapped "tool_description".toList docs

/-- What goes wrong with a cut that ends inside a character. Where the documentation was found is
never such a place. -/
def cutFailed : StageError := .degraded "tool description ends inside a character"

/-- The conversation with the part given to the last user message. -/
def give (settings : ToolDocsSettings) (found : Found) (c : Conversation) : Except StageError Conversation :=
  c.appendToLastUser (.ephemeral (String.ofList (payload settings c.messages found.part)))

/-- The conversation with the part cut out of its system message. -/
def cut (found : Found) (c : Conversation) : Except StageError Conversation :=
  let start := byteLength found.before
  match c.removeSystemText? start (start + byteLength found.part) with
  | some shorter => .ok shorter
  | none => .error cutFailed

/-- Moves the part. The last user message has it before it is cut: without such a message nothing is
cut, since the documentation would be lost. -/
def move (settings : ToolDocsSettings) (found : Found) : Stage.Work Unit := do
  Stage.Work.make (give settings found)
  Stage.Work.make (cut found)

/-- The name of the stage. -/
def name : String := "tool_description"

/-- Moves tool documentation from the system message to the last user message. -/
def stage (settings : ToolDocsSettings) : Stage where
  name := name
  run c context now :=
    match find? settings c.systemMessage.text.toList with
    | none => .untouched c context now
    | some found => .worked (do move settings found; return true) c context now

theorem append_of_find? {settings : ToolDocsSettings} {text : List Char} {found : Found}
    (h : find? settings text = some found) : text = found.before ++ found.part ++ found.after := by
  obtain ⟨⟨before, rest⟩, hstart, hrest⟩ := Option.bind_eq_some_iff.1 h
  obtain ⟨⟨part, after⟩, hstop, rfl⟩ := Option.map_eq_some_iff.1 hrest
  rw [(append_of_breakOn? hstart).1, (append_of_breakOn? hstop).1, List.append_assoc]

theorem after_of_find? {settings : ToolDocsSettings} {text : List Char} {found : Found}
    (h : find? settings text = some found) : settings.stop.toList <+: found.after := by
  obtain ⟨⟨before, rest⟩, _, hrest⟩ := Option.bind_eq_some_iff.1 h
  obtain ⟨⟨part, after⟩, hstop, rfl⟩ := Option.map_eq_some_iff.1 hrest
  exact (append_of_breakOn? hstop).2

end PromptBudget.ToolDocs
