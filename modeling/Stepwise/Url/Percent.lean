import Stepwise.Text

/-! # Percent encoding

A text becomes part of an address by writing its UTF-8 bytes: a byte of a character that is allowed
stays as it is, every other byte is written as `%` and two upper-case hexadecimal digits. Allowed
are ASCII letters and digits, the four marks `_`, `.`, `-`, `~`, and what the caller adds. A text is
made of Unicode scalar values, so each of its characters has bytes. -/

namespace Stepwise.Url

/-- The characters that are never encoded. -/
def isUnreserved (c : Char) : Bool := c.isAlphanum || c = '_' || c = '.' || c = '-' || c = '~'

/-- The upper-case hexadecimal digit of a number below sixteen. -/
def hexDigit (n : Nat) : Char := if n < 10 then Char.ofNat (48 + n) else Char.ofNat (55 + n)

/-- A byte as `%` and two hexadecimal digits. -/
def encodeByte (byte : UInt8) : List Char :=
  ['%', hexDigit (byte.toNat / 16), hexDigit (byte.toNat % 16)]

/-- One character, encoded unless it is unreserved or among the other ones allowed. -/
def encodeChar (allowed : List Char) (c : Char) : List Char :=
  if isUnreserved c || allowed.contains c then [c]
  else (String.utf8EncodeChar c).flatMap encodeByte

/-- A text as a part of an address, in which the given characters are allowed too. -/
def encode (allowed : List Char) (s : String) : String :=
  String.ofList (s.toList.flatMap (encodeChar allowed))

end Stepwise.Url
