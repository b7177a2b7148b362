import Stepwise.Unicode.Blank

/-! # Operations on text

Texts are taken apart as lists of characters: trimming, splitting at a separator, searching and
replacing, and writing numbers in a fixed base and width. `String` appears only where a text enters
or leaves the library. -/

namespace Stepwise.Text

/-! ## Trimming -/

/-- The text without the blanks at its start. -/
def trimStart (cs : List Char) : List Char := cs.dropWhile Unicode.isBlank

/-- The text without the blanks at its end. -/
def trimEnd (cs : List Char) : List Char := (trimStart cs.reverse).reverse

/-- The text without the blanks at its two ends. -/
def trim (cs : List Char) : List Char := trimEnd (trimStart cs)

/-- A string without the blanks at its two ends. -/
def trimmed (s : String) : String := String.ofList (trim s.toList)

/-- A text with no character other than blanks. -/
def isBlank (s : String) : Bool := s.toList.all Unicode.isBlank

@[simp] theorem trim_nil : trim [] = [] := rfl

/-! ## Splitting, searching, replacing -/

/-- The parts between the occurrences of a separator: one part more than there are occurrences. -/
def split (separator : Char) : List Char → List (List Char)
  | [] => [[]]
  | c :: cs =>
    if c = separator then [] :: split separator cs
    else match split separator cs with
      | [] => [[c]]
      | part :: parts => (c :: part) :: parts

/-- Some part follows every separator, and one comes first. -/
theorem split_ne_nil (separator : Char) (cs : List Char) : split separator cs ≠ [] := by
  cases cs with
  | nil => simp [split]
  | cons c cs =>
    simp only [split]
    split
    · simp
    · split <;> simp

/-- Whether `part` occurs somewhere in the text. -/
def contains (part : List Char) : List Char → Bool
  | [] => part.isEmpty
  | c :: cs => part.isPrefixOf (c :: cs) || contains part cs

/-- The text with the first occurrence of `old` replaced; the empty text occurs at the start. -/
def replaceFirst (old new : List Char) : List Char → List Char
  | [] => if old.isEmpty then new else []
  | c :: cs =>
    if old.isPrefixOf (c :: cs) then new ++ (c :: cs).drop old.length
    else c :: replaceFirst old new cs

/-- The part before the first character with the property, and the part from it on. -/
def spanUntil (stop : Char → Bool) (cs : List Char) : List Char × List Char :=
  (cs.takeWhile (!stop ·), cs.dropWhile (!stop ·))

/-- Cutting a text in two loses nothing. -/
theorem spanUntil_append (stop : Char → Bool) (cs : List Char) :
    (spanUntil stop cs).1 ++ (spanUntil stop cs).2 = cs :=
  List.takeWhile_append_dropWhile

/-! ## Numbers in a base -/

/-- The digits of a number in a base of at most sixteen, in lower case. -/
def digits (base n : Nat) : List Char := Nat.toDigits base n

/-- A text brought to a width by repeating a character before it. -/
def padLeft (fill : Char) (width : Nat) (cs : List Char) : List Char :=
  List.replicate (width - cs.length) fill ++ cs

/-- A number in lower-case hexadecimal, with zeros before it up to the width. -/
def hex (width n : Nat) : List Char := padLeft '0' width (digits 16 n)

/-- A number in decimal, with zeros before it up to the width. -/
def decimal (width n : Nat) : String := String.ofList (padLeft '0' width (digits 10 n))

/-! ## Order -/

/-- The distinct strings of a list, in the order of their code points. -/
def sortedDistinct (names : List String) : List String :=
  (names.mergeSort fun a b => a ≤ b).eraseDups

end Stepwise.Text
