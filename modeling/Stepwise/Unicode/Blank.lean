/-! # Blank characters

`isBlank` is the class of characters that trimming removes and that an address may not contain: the
white space of every script together with the four information separators U+001C to U+001F.
`isNumberBlank` is the smaller class that may surround a number, which leaves those four out. -/

namespace Stepwise.Unicode

/-- Ranges of the blank characters. -/
def blankRanges : List (Nat × Nat) := [
  (0x09, 0x0d), (0x1c, 0x20), (0x85, 0x85), (0xa0, 0xa0), (0x1680, 0x1680), (0x2000, 0x200a),
  (0x2028, 0x2029), (0x202f, 0x202f), (0x205f, 0x205f), (0x3000, 0x3000)]

/-- A character that is white space in some script, or an information separator. -/
def isBlank (c : Char) : Bool :=
  blankRanges.any fun (first, last) => first ≤ c.toNat && c.toNat ≤ last

/-- A blank that may stand before or after a number. -/
def isNumberBlank (c : Char) : Bool :=
  isBlank c && !(0x1c ≤ c.toNat && c.toNat ≤ 0x1f)

@[simp] theorem isBlank_space : isBlank ' ' = true := rfl

end Stepwise.Unicode
