import Stepwise.Config
import Stepwise.Unicode.LetterCase

/-! # Choosing an action

Some steps do one of several things, chosen by their field `action`. The choice may be spelled in
several ways, in any letter case and with blanks around it; a table maps each spelling to the name
of the action. -/

namespace Stepwise.Steps

/-- The actions of a table, each once, as a text in alphabetical order. -/
def choices (table : List (String × String)) : String :=
  String.intercalate ", " (Text.sortedDistinct (table.map Prod.snd))

/-- The action of a table that a configuration chooses. -/
def chooseAction (table : List (String × String)) (config : Fields) : Except Fault String := do
  let action ← Config.require config "action"
  let spelling := String.ofList (Unicode.lower (Text.trim action.toText.toList))
  match table.lookup spelling with
  | some name => return name
  | none =>
    throw (.configuration "action"
      s!"unknown action '{action.toText}' (expected one of: {choices table})")

end Stepwise.Steps
