/-! # Faults of a pattern

What can be wrong with a pattern text such as `geo:` followed by placeholders: its braces, the name
or the members of a placeholder, its conversion, or the layout asked for a value. `message` words
each fault and `label` gives its general kind. -/

namespace Stepwise

/-- Why a pattern cannot be filled. -/
inductive PatternFault where
  /-- A brace that neither opens nor closes a placeholder and is not doubled. -/
  | loneBrace (brace : Char)
  /-- An opening brace in the name of a placeholder. -/
  | braceInName
  /-- A placeholder that is never closed. -/
  | unclosed
  /-- The pattern ends where the letter of a conversion should stand. -/
  | conversionMissing
  /-- A conversion followed by neither a layout nor the end of the placeholder. -/
  | conversionFollowed
  /-- A layout that is never closed. -/
  | layoutUnclosed
  /-- A placeholder in the layout of a placeholder in a layout. -/
  | tooDeep
  /-- A conversion letter without a meaning. -/
  | unknownConversion (letter : Char)
  /-- A placeholder by position; a pattern has named values only. -/
  | noPosition (index : Nat)
  /-- A number with too many digits. -/
  | numberTooLong
  /-- A closing bracket followed by neither a point nor a bracket. -/
  | bracketFollowed
  /-- A member without a name. -/
  | emptyMember
  /-- A value without members that are numbered. -/
  | notSubscriptable (typeName : String)
  /-- A member of a list or text that is named rather than numbered. -/
  | memberNotNumbered (typeName : String)
  /-- A number beyond the members of a list or text. -/
  | memberOutOfRange (typeName : String)
  /-- A numbered member of an object, whose members are named. -/
  | memberNotNamed (index : Nat)
  /-- A layout that does not follow the grammar. -/
  | badLayout (layout typeName : String)
  /-- A point without digits behind it. -/
  | precisionMissing
  /-- Two kinds of digit separator at once. -/
  | separatorsMixed
  /-- A digit separator in a presentation that has none. -/
  | separatorRefused (separator code : Char)
  /-- A presentation that the type of the value does not have. -/
  | unknownCode (code : Char) (typeName : String)
  /-- A feature of layouts that is refused in one place. -/
  | featureRefused (feature place : String)
  /-- A layout for a value that has none. -/
  | layoutRefused (typeName : String)
  /-- A number of digits behind the point that does not fit 31 bits. -/
  | precisionTooLarge
  /-- A character code beyond the last one. -/
  | codePointTooLarge
  deriving DecidableEq, Repr

namespace PatternFault

/-- A character in a message: itself if its code is above that of the space and at most `last`, else
its code. -/
def showChar (last : Nat) (c : Char) : String :=
  if 32 < c.toNat && c.toNat ≤ last then String.singleton c
  else "\\x" ++ String.ofList (Nat.toDigits 16 c.toNat)

/-- The general kind of a fault. -/
def label : PatternFault → String
  | noPosition _ | memberOutOfRange _ => "IndexError"
  | memberNotNamed _ => "KeyError"
  | notSubscriptable _ | memberNotNumbered _ | layoutRefused _ => "TypeError"
  | codePointTooLarge => "OverflowError"
  | _ => "ValueError"

/-- The wording of a fault. -/
def message : PatternFault → String
  | loneBrace brace => s!"Single '{brace}' encountered in format string"
  | braceInName => "unexpected '\x7b' in field name"
  | unclosed => "expected '\x7d' before end of string"
  | conversionMissing => "end of string while looking for conversion specifier"
  | conversionFollowed => "expected ':' after conversion specifier"
  | layoutUnclosed => "unmatched '\x7b' in format spec"
  | tooDeep => "Max string recursion exceeded"
  | unknownConversion letter => "Unknown conversion specifier " ++ showChar 126 letter
  | noPosition index => s!"Replacement index {index} out of range for positional args tuple"
  | numberTooLong => "Too many decimal digits in format string"
  | bracketFollowed => "Only '.' or '[' may follow ']' in format field specifier"
  | emptyMember => "Empty attribute in format string"
  | notSubscriptable typeName => s!"'{typeName}' object is not subscriptable"
  | memberNotNumbered "str" => "string indices must be integers, not 'str'"
  | memberNotNumbered typeName => s!"{typeName} indices must be integers or slices, not str"
  | memberOutOfRange "str" => "string index out of range"
  | memberOutOfRange typeName => s!"{typeName} index out of range"
  | memberNotNamed index => toString index
  | badLayout layout typeName =>
    s!"Invalid format specifier '{layout}' for object of type '{typeName}'"
  | precisionMissing => "Format specifier missing precision"
  | separatorsMixed => "Cannot specify both ',' and '_'."
  | separatorRefused separator code =>
    s!"Cannot specify '{separator}' with '" ++ showChar 127 code ++ "'."
  | unknownCode code typeName =>
    "Unknown format code '" ++ showChar 127 code ++ s!"' for object of type '{typeName}'"
  | featureRefused feature place => s!"{feature} not allowed {place}"
  | layoutRefused typeName => s!"unsupported format string passed to {typeName}.__format__"
  | precisionTooLarge => "precision too big"
  | codePointTooLarge => "%c arg not in range(0x110000)"

end PatternFault

end Stepwise
