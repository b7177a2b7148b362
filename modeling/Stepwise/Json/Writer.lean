import Stepwise.Value
import Stepwise.Binary64.Shortest
import Stepwise.Text

/-! # Writing JSON

`Json.write` gives the JSON text of a value in ASCII: every character outside the printable ASCII
range is escaped, beyond the first 2 ^ 16 code points as a surrogate pair. A comma and a colon are
followed by one space. Numbers that are not finite are written as the words `NaN` and `Infinity`.
This is for values that can be written (`Value.isShowable`). -/

namespace Stepwise.Json

/-- One UTF-16 unit as an escape. -/
def escapeUnit (unit : Nat) : List Char := '\\' :: 'u' :: Text.hex 4 unit

/-- One character of a JSON string. -/
def escapeChar (c : Char) : List Char :=
  if c = '"' || c = '\\' then ['\\', c]
  else if c = '\n' then ['\\', 'n']
  else if c = '\r' then ['\\', 'r']
  else if c = '\t' then ['\\', 't']
  else if c.toNat = 0x08 then ['\\', 'b']
  else if c.toNat = 0x0c then ['\\', 'f']
  else if 0x20 ≤ c.toNat && c.toNat < 0x7f then [c]
  else if c.toNat < 0x10000 then escapeUnit c.toNat
  else
    let offset := c.toNat - 0x10000
    escapeUnit (0xd800 + offset / 0x400) ++ escapeUnit (0xdc00 + offset % 0x400)

/-- A JSON string. -/
def writeString (s : String) : String :=
  String.ofList ('"' :: (s.toList.flatMap escapeChar ++ ['"']))

/-- The words for numbers that are not finite. -/
def spelling : Binary64.Spelling := ⟨"NaN", "Infinity"⟩

mutual

/-- The JSON text of a value. -/
def write : Value → String
  | .null => "null"
  | .bool b => if b then "true" else "false"
  | .int n => toString n
  | .float x => x.toTextWith spelling
  | .text s => writeString s
  | .list items => "[" ++ String.intercalate ", " (writeItems items) ++ "]"
  | .object fields => "\x7b" ++ String.intercalate ", " (writeFields fields) ++ "\x7d"

/-- The JSON texts of the elements of a list. -/
def writeItems : List Value → List String
  | [] => []
  | x :: xs => write x :: writeItems xs

/-- The JSON texts of the fields of an object. -/
def writeFields : List (String × Value) → List String
  | [] => []
  | (name, x) :: xs => (writeString name ++ ": " ++ write x) :: writeFields xs

end

end Stepwise.Json
