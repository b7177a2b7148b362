import Stepwise.Text

/-! # Texts as bytes

Bytes are turned into characters by one of three encodings. `utf8Lossy` never fails: a sequence of
bytes that starts like a character and does not go on like one is replaced by U+FFFD, and what
follows is read afresh. `decodeJson?` reads the bytes of a JSON text, whose encoding shows in its
byte order mark or in the places of its zero bytes, and fails on bytes that are no text. -/

namespace Stepwise.Text

/-- The character that stands for bytes that are no text. -/
def replacementChar : Char := Char.ofNat 0xfffd

/-! ## UTF-8 -/

/-- What a first byte says about a character: how many bytes follow it, its own bits, and the bounds
of the second byte. -/
def leadByte? (byte : Nat) : Option (Nat × Nat × Nat × Nat) :=
  if byte < 0x80 then some (0, byte, 0, 0)
  else if byte < 0xc2 then none
  else if byte < 0xe0 then some (1, byte - 0xc0, 0x80, 0xbf)
  else if byte < 0xf0 then
    some (2, byte - 0xe0, if byte = 0xe0 then 0xa0 else 0x80, if byte = 0xed then 0x9f else 0xbf)
  else if byte < 0xf5 then
    some (3, byte - 0xf0, if byte = 0xf0 then 0x90 else 0x80, if byte = 0xf4 then 0x8f else 0xbf)
  else none

/-- The code point that the bytes after a first byte complete, or nothing if they do not, and the
bytes not used. The bounds are those of the next byte. -/
def completeChar : Nat → Nat → Nat → Nat → List Nat → Option Nat × List Nat
  | 0, code, _, _, bytes => (some code, bytes)
  | _ + 1, _, _, _, [] => (none, [])
  | missing + 1, code, low, high, byte :: rest =>
    if low ≤ byte && byte ≤ high then
      completeChar missing (code * 64 + (byte - 0x80)) 0x80 0xbf rest
    else (none, byte :: rest)

/-- One character of a UTF-8 text, or nothing for bytes that are none, and the bytes not used. -/
def nextUtf8 (byte : Nat) (rest : List Nat) : Option Char × List Nat :=
  match leadByte? byte with
  | none => (none, rest)
  | some (missing, code, low, high) =>
    let (completed, after) := completeChar missing code low high rest
    (completed.map Char.ofNat, after)

/-- Completing a character uses up no more bytes than there are. -/
theorem length_completeChar (missing code low high : Nat) (bytes : List Nat) :
    (completeChar missing code low high bytes).2.length ≤ bytes.length := by
  induction missing generalizing code low high bytes with
  | zero => simp [completeChar]
  | succ missing ih =>
    cases bytes with
    | nil => simp [completeChar]
    | cons byte rest =>
      simp only [completeChar]
      split
      · exact Nat.le_succ_of_le (ih ..)
      · simp

/-- A character uses up its first byte at least. -/
theorem length_nextUtf8 (byte : Nat) (rest : List Nat) :
    (nextUtf8 byte rest).2.length ≤ rest.length := by
  unfold nextUtf8
  split
  · simp
  · exact length_completeChar ..

/-- The characters of a UTF-8 text, with nothing in the place of bytes that are none. -/
def utf8Chars : List Nat → List (Option Char)
  | [] => []
  | byte :: rest =>
    match _h : nextUtf8 byte rest with
    | (c, after) => c :: utf8Chars after
termination_by bytes => bytes.length
decreasing_by
  have := length_nextUtf8 byte rest
  rw [_h] at this
  simp only [List.length_cons] at this ⊢
  omega

/-- A UTF-8 text, with U+FFFD in the place of bytes that are none. -/
def utf8Lossy (bytes : List Nat) : List Char :=
  (utf8Chars bytes).map (·.getD replacementChar)

/-- A UTF-8 text, if the bytes are one. -/
def utf8? (bytes : List Nat) : Option (List Char) := (utf8Chars bytes).mapM id

/-! ## UTF-16 and UTF-32 -/

/-- The units of `size` bytes, the bytes being in the given order; nothing if one is incomplete. -/
def units? (size : Nat) (bigEndian : Bool) (bytes : List Nat) : Option (List Nat) :=
  if bytes.length % size ≠ 0 then none
  else some <| (List.range (bytes.length / size)).map fun i =>
    let unit := (bytes.drop (i * size)).take size
    (if bigEndian then unit else unit.reverse).foldl (fun n byte => 256 * n + byte) 0

/-- The characters of UTF-16 units; nothing if a pair is incomplete. -/
def utf16? : List Nat → Option (List Char)
  | [] => some []
  | [unit] => if unit < 0xd800 || 0xe000 ≤ unit then some [Char.ofNat unit] else none
  | first :: second :: rest =>
    if first < 0xd800 || 0xe000 ≤ first then (utf16? (second :: rest)).map (Char.ofNat first :: ·)
    else if first < 0xdc00 && 0xdc00 ≤ second && second < 0xe000 then
      (utf16? rest).map (Char.ofNat (0x10000 + (first - 0xd800) * 0x400 + (second - 0xdc00)) :: ·)
    else none

/-- The characters of UTF-32 units; nothing if one is no code point. -/
def utf32? (units : List Nat) : Option (List Char) :=
  units.mapM fun unit => if unit.isValidChar then some (Char.ofNat unit) else none

/-! ## JSON texts -/

/-- An encoding of characters. -/
inductive Encoding where
  /-- Units of one byte. -/
  | utf8
  /-- Units of two bytes. -/
  | utf16 (bigEndian : Bool)
  /-- Units of four bytes. -/
  | utf32 (bigEndian : Bool)
  deriving DecidableEq, Repr

/-- The text that bytes write in an encoding. -/
def Encoding.decode? (bytes : List Nat) : Encoding → Option (List Char)
  | utf8 => utf8? bytes
  | utf16 bigEndian => (units? 2 bigEndian bytes).bind utf16?
  | utf32 bigEndian => (units? 4 bigEndian bytes).bind utf32?

/-- The encoding of a JSON text and its bytes without the byte order mark. -/
def jsonEncoding : List Nat → Encoding × List Nat
  | 0x00 :: 0x00 :: 0xfe :: 0xff :: rest => (.utf32 true, rest)
  | 0xff :: 0xfe :: 0x00 :: 0x00 :: rest => (.utf32 false, rest)
  | 0xfe :: 0xff :: rest => (.utf16 true, rest)
  | 0xff :: 0xfe :: rest => (.utf16 false, rest)
  | 0xef :: 0xbb :: 0xbf :: rest => (.utf8, rest)
  | bytes@(a :: b :: c :: d :: _) =>
    if a = 0 then (if b = 0 then .utf32 true else .utf16 true, bytes)
    else if b = 0 then (if c = 0 && d = 0 then .utf32 false else .utf16 false, bytes)
    else (.utf8, bytes)
  | bytes@(a :: b :: []) =>
    if a = 0 then (.utf16 true, bytes)
    else if b = 0 then (.utf16 false, bytes)
    else (.utf8, bytes)
  | bytes => (.utf8, bytes)

/-- The characters of the bytes of a JSON text. -/
def decodeJson? (bytes : List Nat) : Option (List Char) :=
  let (encoding, rest) := jsonEncoding bytes
  encoding.decode? rest

end Stepwise.Text
