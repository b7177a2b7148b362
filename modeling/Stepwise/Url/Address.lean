import Stepwise.Text

/-! # Network addresses in brackets

A host may be given as a network address between brackets. Such an address is in hexadecimal groups
between colons (`isGrouped`), or in a form that names its version (`isVersioned`). A dotted address
(`isDotted`) is none by itself, but may stand for the last two groups of one. -/

namespace Stepwise.Url

/-- The digits of hexadecimal numbers. -/
def isHexDigit (c : Char) : Bool :=
  c.isDigit || 'a' ≤ c && c ≤ 'f' || 'A' ≤ c && c ≤ 'F'

/-- A decimal number of at most 255, without zeros before it. -/
def isOctet (cs : List Char) : Bool :=
  !cs.isEmpty && cs.all Char.isDigit && cs.length ≤ 3 && (cs = ['0'] || cs.head? ≠ some '0') &&
    cs.foldl (fun n c => 10 * n + (c.toNat - '0'.toNat)) 0 ≤ 255

/-- Four octets with points between them. -/
def isDotted (cs : List Char) : Bool :=
  let octets := Text.split '.' cs
  octets.length = 4 && octets.all isOctet

/-- A group of one to four hexadecimal digits. -/
def isGroup (cs : List Char) : Bool := !cs.isEmpty && cs.length ≤ 4 && cs.all isHexDigit

/-- The parts of an address between its colons, in which a dotted address at the end counts as two
groups; there must be two colons. -/
def groups? (cs : List Char) : Option (List (List Char)) :=
  let parts := Text.split ':' cs
  match parts.getLast? with
  | none => none
  | some last =>
    if parts.length < 3 then none
    else if !last.contains '.' then some parts
    else if isDotted last then some (parts.dropLast ++ [['0'], ['0']])
    else none

/-- The groups on one side of a gap; there are none if the address starts or ends with the gap. -/
def besideGap (parts : List (List Char)) : List (List Char) := if parts = [[]] then [] else parts

/-- Whether the parts of an address are eight groups, of which one gap may leave some out. A gap is
an empty part that is neither the first nor the last. -/
def areGroups (parts : List (List Char)) : Bool :=
  match (parts.drop 1).dropLast.countP List.isEmpty with
  | 0 => parts.length = 8 && parts.all isGroup
  | 1 =>
    let gap := (parts.drop 1).findIdx List.isEmpty + 1
    let before := besideGap (parts.take gap)
    let behind := besideGap (parts.drop (gap + 1))
    before.length + behind.length < 8 && before.all isGroup && behind.all isGroup
  | _ => false

/-- What may follow the groups of an address: nothing, or the name of a zone behind a percent
sign. -/
def isZone : List Char → Bool
  | [] => true
  | _ :: name => !name.isEmpty && !name.contains '%'

/-- An address in groups. -/
def isGrouped (cs : List Char) : Bool :=
  let (address, zone) := Text.spanUntil (· == '%') cs
  isZone zone && (groups? address).any areGroups

/-- An address that names its version: `v`, the number of the version, a point and something behind
it. -/
def isVersioned : List Char → Bool
  | 'v' :: rest =>
    let (version, behind) := Text.spanUntil (!isHexDigit ·) rest
    !version.isEmpty && behind.head? = some '.' && 1 < behind.length
  | _ => false

end Stepwise.Url
