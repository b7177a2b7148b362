import Stepwise.Handler
import Stepwise.Steps.Choice

/-! # The clipboard

The step `clipboard` replaces the text on the clipboard by its field `text`, or reports the text
that is on it. -/

namespace Stepwise.Steps

variable {σ : Type}

/-- The spellings of the clipboard actions. -/
def clipboardActions : List (String × String) := [
  ("copy", "copy"), ("set", "copy"), ("write", "copy"),
  ("paste", "paste"), ("get", "paste"), ("read", "paste")]

/-- The handler of `clipboard` steps. -/
def clipboard : Handler σ where
  name := "ClipboardStep"
  stepType := "clipboard"
  requires := [Collaborator.clipboard.name]
  sampleValues := [("action", .text "paste")]
  validate config := do
    if (← chooseAction clipboardActions config) == "copy" then
      let _ ← Config.requireText config "text"
  execute config context := do
    context.reach Collaborator.clipboard.name "clipboard"
    let action ← chooseAction clipboardActions config
    if action == "copy" then
      let text ← Config.item config "text"
      Action.call context.platform "Could not write clipboard" (.writeClipboard text)
      return .object [("action", .text "copy"), ("text", text)]
    else
      let text ← Action.call context.platform "Could not read clipboard" .readClipboard
      return .object [("action", .text "paste"), ("text", text.orElse (.text ""))]

end Stepwise.Steps
