import Stepwise.Value
import Stepwise.Binary64.Shortest
import Stepwise.Text.Quoted

/-! # Values in messages

`Value.literal` writes a value so that its type can be told: texts are quoted, and the words `None`,
`True` and `False` stand for null and the truth values. `Value.toText` is the same but shows a text
as it is; the two differ on texts only.

An integer is written with a limited number of digits only (`maxDigits`). The two functions say how
a value is written that keeps to the limit (`Value.isShowable`); what depends on a value being
written asks for that. -/

namespace Stepwise.Value

mutual

/-- The value as a literal. -/
def literal : Value → String
  | null => "None"
  | bool b => if b then "True" else "False"
  | int n => toString n
  | float x => x.toText
  | text s => Text.quoted s
  | list items => "[" ++ String.intercalate ", " (itemLiterals items) ++ "]"
  | object fields => "\x7b" ++ String.intercalate ", " (fieldLiterals fields) ++ "\x7d"

/-- The literals of the elements of a list. -/
def itemLiterals : List Value → List String
  | [] => []
  | x :: xs => literal x :: itemLiterals xs

/-- The fields of an object as pairs of literals. -/
def fieldLiterals : List (String × Value) → List String
  | [] => []
  | (name, x) :: xs => (Text.quoted name ++ ": " ++ literal x) :: fieldLiterals xs

end

/-- The value as a text. -/
def toText : Value → String
  | text s => s
  | value => literal value

/-- The greatest number of digits that an integer is written with. -/
def maxDigits : Nat := 4300

mutual

/-- Whether a value can be written: no integer in it has too many digits. -/
def isShowable : Value → Bool
  | int n => n.natAbs < Nat.pow 10 maxDigits
  | list items => areShowable items
  | object fields => areFieldsShowable fields
  | _ => true

/-- Whether the elements of a list can be written. -/
def areShowable : List Value → Bool
  | [] => true
  | x :: xs => isShowable x && areShowable xs

/-- Whether the fields of an object can be written. -/
def areFieldsShowable : List (String × Value) → Bool
  | [] => true
  | (_, x) :: xs => isShowable x && areFieldsShowable xs

end

/-- A text is shown as it is. -/
@[simp] theorem toText_text (s : String) : toText (text s) = s := rfl

end Stepwise.Value
