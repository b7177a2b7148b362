import Stepwise.Handler
import Stepwise.Unicode.LetterCase

/-! # Operations on texts

The step `text-op` computes a text from one or two others: the two joined by a separator, the first
occurrence of the second in the first replaced, or the first in upper case, in lower case or
trimmed. -/

namespace Stepwise.Steps

variable {σ : Type}

/-- What is done with the texts of a step. -/
inductive TextAction where
  /-- The first text, the separator and the second text. -/
  | combine
  /-- The first text with the first occurrence of the second replaced by the separator. -/
  | replace
  /-- The first text in upper case. -/
  | upper
  /-- The first text in lower case. -/
  | lower
  /-- The first text without the blanks at its ends. -/
  | trim
  deriving DecidableEq, Repr

/-- The names of the text actions. -/
def textActions : List (String × TextAction) := [
  ("combine", .combine), ("replace", .replace), ("uppercase", .upper), ("lowercase", .lower),
  ("trim", .trim), ("format", .upper)]

/-- The action that a configuration names; any other value stands for the last one. -/
def textActionOf (value : Value) : TextAction :=
  ((value.text?).bind (textActions.lookup ·)).getD .trim

/-- The text that an action computes from the texts of a configuration. -/
def TextAction.apply (config : Fields) (first second : String) : TextAction → String
  | combine => first ++ Config.textOr config "separator" " " ++ second
  | replace => String.ofList <|
    Text.replaceFirst second.toList (Config.textOr config "separator" "").toList first.toList
  | upper => String.ofList (Unicode.upper first.toList)
  | lower => String.ofList (Unicode.lower first.toList)
  | trim => Text.trimmed first

/-- The handler of `text-op` steps. -/
def textOperation : Handler σ where
  name := "TextOpStep"
  stepType := "text-op"
  sampleValues := [("action", .text "combine")]
  validate config := do
    let action ← Config.requireText config "action"
    if (textActions.lookup action).isNone then
      throw (.configuration "action" s!"unknown text action '{action}'")
  execute config _ := do
    let action ← Config.item config "action"
    let first := Config.textOr config "text1" ""
    let second := Config.textOr config "text2" ""
    let result := (textActionOf action).apply config first second
    return .object [("action", action), ("text1", .text first), ("text2", .text second),
      ("result", .text result)]

end Stepwise.Steps
