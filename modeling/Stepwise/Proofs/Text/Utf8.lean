import Stepwise.Text.Encoded

/-! # Texts read back from UTF-8

The UTF-8 bytes of a text are read as that text (`Text.utf8?_flatMap_utf8Bytes`). A character is
written by one to four bytes (`Text.Utf8Form`). The first of them says how many follow, and each of
those holds six bits. The bounds of the second byte leave out what could be written by fewer bytes
and what is no character. -/

namespace Stepwise.Text

/-- The UTF-8 bytes of a character. -/
def utf8Bytes (c : Char) : List Nat := (String.utf8EncodeChar c).map UInt8.toNat

/-- **The bytes that write a code point**: as few as it takes, the first one with the bits that the
others have no room for. -/
inductive Utf8Form (code : Nat) : List Nat → Prop
  /-- Seven bits. -/
  | one (hhigh : code < 0x80) : Utf8Form code [code]
  /-- Up to eleven bits. -/
  | two (hlow : 0x80 ≤ code) (hhigh : code < 0x800) :
      Utf8Form code [0xc0 + code / 64, 0x80 + code % 64]
  /-- Up to sixteen bits. -/
  | three (hlow : 0x800 ≤ code) (hhigh : code < 0x10000) :
      Utf8Form code [0xe0 + code / 4096, 0x80 + code / 64 % 64, 0x80 + code % 64]
  /-- More bits. -/
  | four (hlow : 0x10000 ≤ code) (hhigh : code < 0x110000) :
      Utf8Form code
        [0xf0 + code / 262144, 0x80 + code / 4096 % 64, 0x80 + code / 64 % 64, 0x80 + code % 64]

/-- A character is written by the bytes of its code point. -/
theorem utf8Form (c : Char) : Utf8Form c.toNat (utf8Bytes c) := by
  have hvalid : c.toNat.isValidChar := c.valid
  -- a byte holds what is written to it
  have hbyte : ∀ n m : Nat, n = m → m < 256 → (UInt8.ofNat n).toNat = m := by
    rintro n _ rfl h
    rw [UInt8.toNat_ofNat', Nat.mod_eq_of_lt h]
  have hcode : c.val.toNat = c.toNat := rfl
  unfold utf8Bytes String.utf8EncodeChar
  rw [hcode]
  generalize c.toNat = code at hvalid
  dsimp only
  split
  next h =>
    have hform : Utf8Form code _ := .one (by omega)
    rwa [List.map_cons, List.map_nil, hbyte _ code rfl (by omega)]
  next h =>
    split
    next h' =>
      have hform : Utf8Form code _ := .two (by omega) (by omega)
      rwa [List.map_cons, List.map_cons, List.map_nil,
        hbyte _ (0xc0 + code / 64) (by omega) (by omega),
        hbyte _ (0x80 + code % 64) (by omega) (by omega)]
    next h' =>
      split
      next h'' =>
        have hform : Utf8Form code _ := .three (by omega) (by omega)
        rwa [List.map_cons, List.map_cons, List.map_cons, List.map_nil,
          hbyte _ (0xe0 + code / 4096) (by omega) (by omega),
          hbyte _ (0x80 + code / 64 % 64) (by omega) (by omega),
          hbyte _ (0x80 + code % 64) (by omega) (by omega)]
      next h'' =>
        have hform : Utf8Form code _ := .four (by omega) (by omega)
        rwa [List.map_cons, List.map_cons, List.map_cons, List.map_cons, List.map_nil,
          hbyte _ (0xf0 + code / 262144) (by omega) (by omega),
          hbyte _ (0x80 + code / 4096 % 64) (by omega) (by omega),
          hbyte _ (0x80 + code / 64 % 64) (by omega) (by omega),
          hbyte _ (0x80 + code % 64) (by omega) (by omega)]

/-- A byte within the bounds adds six bits. -/
theorem completeChar_cons {low high bits : Nat} (hlow : low ≤ 0x80 + bits)
    (hhigh : 0x80 + bits ≤ high) (missing code : Nat) (rest : List Nat) :
    completeChar (missing + 1) code low high ((0x80 + bits) :: rest) =
      completeChar missing (code * 64 + bits) 0x80 0xbf rest := by
  rw [completeChar, decide_eq_true hlow, decide_eq_true hhigh, Nat.add_sub_cancel_left]
  rfl

/-- **What writes a code point** is read as it, and nothing of what follows is used. -/
theorem Utf8Form.nextUtf8_eq {code : Nat} {bytes : List Nat} (h : Utf8Form code bytes)
    (hvalid : code.isValidChar) (rest : List Nat) :
    ∃ byte more, bytes = byte :: more ∧
      nextUtf8 byte (more ++ rest) = (some (Char.ofNat code), rest) := by
  cases h with
  | one hhigh =>
    have hlead : leadByte? code = some (0, code, 0, 0) := by
      rw [leadByte?, if_pos hhigh]
    refine ⟨_, _, rfl, ?_⟩
    rw [nextUtf8, hlead]
    rfl
  | two hlow hhigh =>
    have hlead : leadByte? (0xc0 + code / 64) = some (1, code / 64, 0x80, 0xbf) := by
      rw [leadByte?, if_neg (by omega), if_neg (by omega), if_pos (by omega),
        Nat.add_sub_cancel_left]
    have hcode : code / 64 * 64 + code % 64 = code := by omega
    refine ⟨_, _, rfl, ?_⟩
    rw [nextUtf8, hlead]
    dsimp only [List.cons_append, List.nil_append]
    rw [completeChar_cons (by omega) (by omega), hcode]
    rfl
  | three hlow hhigh =>
    have hlead : leadByte? (0xe0 + code / 4096) =
        some (2, code / 4096, if 0xe0 + code / 4096 = 0xe0 then 0xa0 else 0x80,
          if 0xe0 + code / 4096 = 0xed then 0x9f else 0xbf) := by
      rw [leadByte?, if_neg (by omega), if_neg (by omega), if_neg (by omega), if_pos (by omega),
        Nat.add_sub_cancel_left]
    have hcode : (code / 4096 * 64 + code / 64 % 64) * 64 + code % 64 = code := by omega
    refine ⟨_, _, rfl, ?_⟩
    rw [nextUtf8, hlead]
    dsimp only [List.cons_append, List.nil_append]
    rw [completeChar_cons (by split <;> omega) (by split <;> omega),
      completeChar_cons (by omega) (by omega), hcode]
    rfl
  | four hlow hhigh =>
    have hlead : leadByte? (0xf0 + code / 262144) =
        some (3, code / 262144, if 0xf0 + code / 262144 = 0xf0 then 0x90 else 0x80,
          if 0xf0 + code / 262144 = 0xf4 then 0x8f else 0xbf) := by
      rw [leadByte?, if_neg (by omega), if_neg (by omega), if_neg (by omega), if_neg (by omega),
        if_pos (by omega), Nat.add_sub_cancel_left]
    have hcode : ((code / 262144 * 64 + code / 4096 % 64) * 64 + code / 64 % 64) * 64 +
        code % 64 = code := by omega
    refine ⟨_, _, rfl, ?_⟩
    rw [nextUtf8, hlead]
    dsimp only [List.cons_append, List.nil_append]
    rw [completeChar_cons (by split <;> omega) (by split <;> omega),
      completeChar_cons (by omega) (by omega), completeChar_cons (by omega) (by omega), hcode]
    rfl

/-- A character is read in front of anything. -/
theorem utf8Chars_utf8Bytes_append (c : Char) (rest : List Nat) :
    utf8Chars (utf8Bytes c ++ rest) = some c :: utf8Chars rest := by
  obtain ⟨byte, more, hbytes, hnext⟩ := (utf8Form c).nextUtf8_eq c.valid rest
  rw [Char.ofNat_toNat] at hnext
  rw [hbytes, List.cons_append, utf8Chars, hnext]

/-- **The bytes of a text** are read as the text. -/
theorem utf8?_flatMap_utf8Bytes (cs : List Char) : utf8? (cs.flatMap utf8Bytes) = some cs := by
  have hchars : utf8Chars (cs.flatMap utf8Bytes) = cs.map some := by
    induction cs with
    | nil =>
      rw [List.flatMap_nil, utf8Chars]
      rfl
    | cons c cs ih => rw [List.flatMap_cons, utf8Chars_utf8Bytes_append, ih, List.map_cons]
  have hread : (cs.mapM fun c => some c) = some (cs.map id) := List.mapM_pure
  rw [utf8?, hchars, List.mapM_map]
  exact hread.trans (congrArg some (List.map_id cs))

end Stepwise.Text
