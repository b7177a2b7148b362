import Stepwise.Value.Reading
import Stepwise.Value.Display
import Stepwise.Fault
import Stepwise.Text

/-! # Reading a configuration

The checks that steps make of their configuration: a field that must be there and not blank, one
that must be a text, one that must be a number. Each refusal is a configuration fault that names the
field. The last section reads fields without a check; it is for a step whose configuration was
accepted before. -/

namespace Stepwise.Config

/-! ## Checked fields -/

/-- Null, or a text of blanks only. -/
def isBlank : Value → Bool
  | .null => true
  | .text s => Text.isBlank s
  | _ => false

/-- A field that must be there and not blank; `detail` is said of one that is not. -/
def require (fields : Fields) (name : String) (detail : Option String := none) :
    Except Fault Value :=
  let value := Value.field name fields
  if isBlank value then .error (.invalidField name detail) else .ok value

/-- A field that must be a text and not blank. -/
def requireText (fields : Fields) (name : String) : Except Fault String := do
  match ← require fields name with
  | .text s => return s
  | _ => throw (.configuration name "must be a string")

/-- A number in a field; nothing if the field is unset. Truth values are no numbers here, and
neither is anything infinite. -/
def number? (fields : Fields) (name : String) : Except Fault (Option Binary64) :=
  let value := Value.field name fields
  if value.isUnset then .ok none
  else match value with
    | .bool _ => .error (.configuration name "must be a number")
    | _ => match value.readNumber with
      | .number x =>
        if x.isFinite then .ok (some x)
        else .error (.configuration name ("must be a finite number, got " ++ value.literal))
      | _ => .error (.configuration name ("must be a number, got " ++ value.literal))

/-- A number in a field that must be set. -/
def number (fields : Fields) (name : String) : Except Fault Binary64 := do
  match ← number? fields name with
  | some x => return x
  | none => throw (.required name)

/-- A number in a field, or a default for a field that is unset. -/
def numberOr (fields : Fields) (name : String) (default : Value) : Except Fault Value := do
  match ← number? fields name, default with
  | some x, _ => return .float x
  | none, .null => throw (.required name)
  | none, value => return value

/-- The value of the first field among several that is set, or null. -/
def firstSet (fields : Fields) (names : List String) : Value :=
  ((names.map fun name => Value.field name fields).find? fun value => !value.isUnset).getD .null

/-! ## Fields of an accepted configuration -/

/-- The value of a field that must be bound. -/
def item (fields : Fields) (name : String) : Except Fault Value :=
  match fields.find? name with
  | some value => .ok value
  | none => .error (.missingKey name)

/-- The text of a field that must be bound to one, without the blanks at its ends. -/
def trimmed (fields : Fields) (name : String) : Except Fault String := do
  match ← item fields name with
  | .text s => return Text.trimmed s
  | other => throw (.noMember other.typeName "strip")

/-- The text that stands for a field; the default for null. -/
def textOr (fields : Fields) (name default : String) : String :=
  match Value.field name fields with
  | .null => default
  | value => value.toText

end Stepwise.Config
