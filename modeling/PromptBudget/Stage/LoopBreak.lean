import PromptBudget.Stage.Basic
import PromptBudget.Text.Blank

/-!
# PromptBudget — breaking loops

If the last two answers in the older part of a conversation say the same, the assistant is told to
try something else.
-/

namespace PromptBudget.LoopBreak

/-- What the assistant is told. -/
def intervention : String :=
  "Stop trying repetitive actions and rethink the actions to take. " ++
  "You can use different tools, and if you're unsure of the user's intent or goal, you can ask questions."

/-- How many messages the older part of a conversation has at least in a loop. -/
def fewestMessages : Nat := 3

/-- Whether the last two answers among some messages are the same but for blanks around them. -/
def repeats (older : List Message) : Bool :=
  decide (fewestMessages ≤ older.length) &&
    match older.reverse.filter (·.isAssistant) with
    | latest :: previous :: _ => Text.trimmed latest.text == Text.trimmed previous.text
    | _ => false

/-- The name of the stage. -/
def name : String := "loop_detector"

/-- Tells the assistant to try something else if it repeats itself. -/
def stage : Stage where
  name := name
  run c context now :=
    if repeats c.older then .changed (c.appendToLastUser (.ofText intervention)) c context now
    else .untouched c context now

end PromptBudget.LoopBreak
