import Stepwise.Json.Writer
import Stepwise.Value.Display
import Mathlib.Tactic.SplitIfs

/-! # Two spellings of a value

A value has two spellings that look much the same: its JSON text (`Json.write`) and its literal
(`Value.literal`). They share the brackets, the commas and the numbers, but not the words for null
and the truth values, and seldom the quotes of a text. `Value.isSpelledAlike` says for which values
the two are the same text, and `Value.write_eq_literal_iff` proves that it does.

That two lists have the same spelling does not by itself mean that their elements have: one element
could make up for another. What rules this out is that the two spellings of anything differ, if at
all, at a place inside both of them. `AlikeIff` says so of two texts, with a rule for each way in
which spellings are put together. -/

namespace Stepwise

/-! ## Texts that differ inside -/

/-- **Two texts are alike exactly if** `p` holds, whatever stands behind them: otherwise they differ
at a place inside both of them. -/
def AlikeIff (p : Prop) (x y : List Char) : Prop := ∀ r s, x ++ r = y ++ s ↔ p ∧ r = s

namespace AlikeIff

variable {p q : Prop} {x x' y y' : List Char}

/-- The same condition in other words. -/
theorem congr (h : AlikeIff p x y) (hiff : q ↔ p) : AlikeIff q x y := by
  rw [AlikeIff, hiff]
  exact h

/-- A text is like itself. -/
theorem same (hp : p) (x : List Char) : AlikeIff p x x := by
  intro r s
  rw [List.append_cancel_left_eq, and_iff_right hp]

/-- Texts that go on differently behind a common start are not alike. -/
theorem differ (hp : ¬ p) (start : List Char) {c d : Char} (h : c ≠ d) (x y : List Char) :
    AlikeIff p (start ++ c :: x) (start ++ d :: y) := by
  intro r s
  rw [List.append_assoc, List.append_assoc, List.append_cancel_left_eq]
  constructor
  · intro heq
    exact absurd (List.cons.inj heq).1 h
  · rintro ⟨hyes, -⟩
    exact absurd hyes hp

/-- One text behind the other. -/
theorem append (h : AlikeIff p x y) (h' : AlikeIff q x' y') :
    AlikeIff (p ∧ q) (x ++ x') (y ++ y') := by
  intro r s
  rw [List.append_assoc, List.append_assoc, h, h', and_assoc]

/-- A common start changes nothing. -/
theorem behind (start : List Char) (h : AlikeIff p x y) :
    AlikeIff p (start ++ x) (start ++ y) :=
  ((same trivial start).append h).congr (and_iff_right trivial).symm

/-- A common end changes nothing. -/
theorem before (h : AlikeIff p x y) (rest : List Char) :
    AlikeIff p (x ++ rest) (y ++ rest) :=
  (h.append (same trivial rest)).congr (and_iff_left trivial).symm

/-- Character by character. -/
theorem flatMap {alike : Char → Bool} {f g : Char → List Char}
    (h : ∀ c, AlikeIff (alike c = true) (f c) (g c)) (cs : List Char) :
    AlikeIff (cs.all alike = true) (cs.flatMap f) (cs.flatMap g) := by
  induction cs with
  | nil => exact same List.all_nil []
  | cons c cs ih =>
    rw [List.flatMap_cons, List.flatMap_cons]
    exact ((h c).append ih).congr (by rw [List.all_cons, Bool.and_eq_true])

/-- One more text in front of texts that are separated by commas. -/
theorem intercalate_cons {a b : String} {as bs : List String}
    (h : AlikeIff p a.toList b.toList) (hlength : as.length = bs.length)
    (h' : AlikeIff q (String.intercalate ", " as).toList (String.intercalate ", " bs).toList) :
    AlikeIff (p ∧ q) (String.intercalate ", " (a :: as)).toList
      (String.intercalate ", " (b :: bs)).toList := by
  cases as with
  | nil =>
    cases bs with
    | nil => simpa using h.append h'
    | cons => cases hlength
  | cons =>
    cases bs with
    | nil => cases hlength
    | cons =>
      rw [String.intercalate_cons_cons, String.intercalate_cons_cons, String.toList_append,
        String.toList_append, String.toList_append, String.toList_append]
      exact (h.before _).append h'

/-- **Texts that are alike exactly if** `p` holds are the same exactly if it does. -/
theorem eq_iff (h : AlikeIff p x y) : x = y ↔ p := by
  have heq := h [] []
  rwa [List.append_nil, List.append_nil, and_iff_left rfl] at heq

end AlikeIff

/-! ## Texts -/

namespace Text

/-- Whether a character is escaped in the same way in a JSON text and between double quotes: the
characters with a short escape in both, the printable ones of ASCII, and those that take four
hexadecimal digits in both. -/
def isEscapedAlike (c : Char) : Bool :=
  c = '\n' || c = '\r' || c = '\t' || (0x20 ≤ c.toNat && c.toNat < 0x7f) ||
    (0x100 ≤ c.toNat && c.toNat < 0x10000 && !Unicode.isPrintable c)

/-- Whether a text is quoted in the same way in a JSON text and in a literal: it takes double quotes
in the literal, too, which is so only if it holds a single quote and no double one. -/
def isQuotedAlike (s : String) : Bool :=
  s.toList.contains '\'' && !s.toList.contains '"' && s.toList.all isEscapedAlike

/-- The characters that have a short escape in both spellings. -/
def sharedEscapes : List Char := ['"', '\\', '\n', '\r', '\t']

/-- A character with a short escape in both spellings is escaped in the same way. -/
theorem escapeChar_shared {c : Char} (h : c ∈ sharedEscapes) :
    isEscapedAlike c = true ∧ Json.escapeChar c = escapeChar '"' c := by
  simp only [sharedEscapes, List.mem_cons, List.not_mem_nil, or_false] at h
  rcases h with rfl | rfl | rfl | rfl | rfl <;> exact ⟨rfl, rfl⟩

/-- When any other character is escaped in the same way. -/
theorem isEscapedAlike_iff {c : Char} (h : c ∉ sharedEscapes) :
    isEscapedAlike c = true ↔ (0x20 ≤ c.toNat ∧ c.toNat < 0x7f) ∨
      0x100 ≤ c.toNat ∧ c.toNat < 0x10000 ∧ Unicode.isPrintable c = false := by
  simp only [sharedEscapes, List.mem_cons, List.not_mem_nil, or_false, not_or] at h
  simp [isEscapedAlike, h, and_assoc]

/-- The JSON escape of any other character, by its code point. -/
theorem jsonEscape_eq {c : Char} (h : c ∉ sharedEscapes) :
    Json.escapeChar c =
      if c.toNat = 0x08 then ['\\', 'b'] else if c.toNat = 0x0c then ['\\', 'f']
      else if 0x20 ≤ c.toNat && c.toNat < 0x7f then [c]
      else if c.toNat < 0x10000 then Json.escapeUnit c.toNat
      else Json.escapeUnit (0xd800 + (c.toNat - 0x10000) / 0x400) ++
        Json.escapeUnit (0xdc00 + (c.toNat - 0x10000) % 0x400) := by
  simp only [sharedEscapes, List.mem_cons, List.not_mem_nil, or_false, not_or] at h
  obtain ⟨hquote, hbackslash, hline, hreturn, htab⟩ := h
  simp only [Json.escapeChar, hquote, hbackslash, hline, hreturn, htab, decide_false,
    Bool.or_self, Bool.false_eq_true, if_false]

/-- The escape of any other character in a literal. -/
theorem escapeChar_eq {c : Char} (h : c ∉ sharedEscapes) :
    escapeChar '"' c = if Unicode.isPrintable c then [c] else escapeCode c := by
  simp only [sharedEscapes, List.mem_cons, List.not_mem_nil, or_false, not_or] at h
  obtain ⟨hquote, hbackslash, hline, hreturn, htab⟩ := h
  simp only [escapeChar, hquote, hbackslash, hline, hreturn, htab, decide_false,
    Bool.or_self, Bool.false_eq_true, if_false]

/-- A printable character of ASCII stands for itself in both spellings. -/
theorem escapeChar_ascii {c : Char} (h : c ∉ sharedEscapes)
    (hascii : 0x20 ≤ c.toNat ∧ c.toNat < 0x7f) : Json.escapeChar c = escapeChar '"' c := by
  have hprintable : Unicode.isPrintable c = true := by
    rw [Unicode.isPrintable, if_pos (by omega)]
    simpa using hascii
  rw [jsonEscape_eq h, if_neg (by omega), if_neg (by omega), if_pos (by simpa using hascii),
    escapeChar_eq h, if_pos hprintable]

/-- The escape of a UTF-16 unit starts with the letter `u`. -/
theorem escapeUnit_append (unit : Nat) (rest : List Char) :
    Json.escapeUnit unit ++ rest = '\\' :: 'u' :: (hex 4 unit ++ rest) := rfl

/-- A character that does not stand for itself in a JSON text is written behind a backslash, by the
letter `u` unless its code point is small. -/
theorem exists_jsonEscape {c : Char} (h : c ∉ sharedEscapes)
    (hascii : ¬ (0x20 ≤ c.toNat ∧ c.toNat < 0x7f)) :
    ∃ d rest, Json.escapeChar c = '\\' :: d :: rest ∧ d ≠ 'x' ∧ (0x100 ≤ c.toNat → d = 'u') := by
  rw [jsonEscape_eq h]
  split_ifs with hback hfeed hstays hunit
  · exact ⟨'b', _, rfl, by decide, fun hle => absurd hle (by omega)⟩
  · exact ⟨'f', _, rfl, by decide, fun hle => absurd hle (by omega)⟩
  · exact absurd (by simpa using hstays) hascii
  · exact ⟨'u', _, rfl, by decide, fun _ => rfl⟩
  · exact ⟨'u', _, escapeUnit_append _ _, by decide, fun _ => rfl⟩

/-- **One character** is escaped in the same way, or the two escapes differ inside. -/
theorem escapeChar_alikeIff (c : Char) :
    AlikeIff (isEscapedAlike c = true) (Json.escapeChar c) (escapeChar '"' c) := by
  by_cases hshared : c ∈ sharedEscapes
  · obtain ⟨halike, hescape⟩ := escapeChar_shared hshared
    rw [hescape]
    exact .same halike _
  have halike := isEscapedAlike_iff hshared
  by_cases hascii : 0x20 ≤ c.toNat ∧ c.toNat < 0x7f
  · rw [escapeChar_ascii hshared hascii]
    exact .same (halike.mpr (.inl hascii)) _
  -- the JSON text now starts with a backslash, whatever the literal does
  obtain ⟨d, rest, hjson, hletter, hlarge⟩ := exists_jsonEscape hshared hascii
  have hbackslash : '\\' ≠ c := by
    rintro rfl
    exact hshared (by decide)
  rw [escapeChar_eq hshared]
  cases hprintable : Unicode.isPrintable c with
  | true =>
    -- the literal shows the character itself
    rw [if_pos rfl, hjson]
    refine .differ (fun h => ?_) [] hbackslash (d :: rest) []
    rcases halike.mp h with h | ⟨-, -, h⟩
    · exact hascii h
    · rw [hprintable] at h
      cases h
  | false =>
    rw [if_neg Bool.false_ne_true, escapeCode]
    split_ifs with hbyte hunit
    · -- two hexadecimal digits in the literal
      rw [hjson]
      refine .differ (fun h => ?_) ['\\'] hletter rest (hex 2 c.toNat)
      rcases halike.mp h with h | ⟨h, -⟩
      · exact hascii h
      · omega
    · -- four of them in both
      have hsame : Json.escapeChar c = '\\' :: 'u' :: hex 4 c.toNat := by
        rw [jsonEscape_eq hshared, if_neg (by omega), if_neg (by omega),
          if_neg (by simpa using hascii), if_pos hunit]
        rfl
      rw [hsame]
      exact .same (halike.mpr (.inr ⟨by omega, hunit, hprintable⟩)) _
    · -- eight of them in the literal
      have hcapital : d ≠ 'U' := by
        rw [hlarge (by omega)]
        decide
      rw [hjson]
      refine .differ (fun h => ?_) ['\\'] hcapital rest (hex 8 c.toNat)
      rcases halike.mp h with h | ⟨-, h, -⟩
      · exact hascii h
      · omega

/-- **A text** is quoted in the same way, or its two quotations differ inside. -/
theorem quoted_alikeIff (s : String) :
    AlikeIff (isQuotedAlike s = true) (Json.writeString s).toList (quoted s).toList := by
  rw [Json.writeString, quoted, String.toList_ofList, String.toList_ofList]
  cases hquote : s.toList.contains '\'' && !s.toList.contains '"' with
  | true =>
    have hdouble : quoteFor s.toList = '"' := by
      rw [quoteFor, hquote]
      rfl
    have hall : isQuotedAlike s = s.toList.all isEscapedAlike := by
      rw [isQuotedAlike, hquote, Bool.true_and]
    rw [hdouble, hall]
    exact ((AlikeIff.flatMap escapeChar_alikeIff s.toList).before ['"']).behind ['"']
  | false =>
    have hsingle : quoteFor s.toList = '\'' := by
      rw [quoteFor, hquote]
      rfl
    have hunlike : ¬ isQuotedAlike s = true := by
      rw [isQuotedAlike, hquote, Bool.false_and]
      exact Bool.false_ne_true
    rw [hsingle]
    exact .differ hunlike [] (by decide) _ _

end Text

/-! ## Values -/

mutual

/-- Whether the JSON text of a value is its literal, too: it holds no null and no truth value, its
numbers are finite, and its texts and names are quoted alike. -/
def Value.isSpelledAlike : Value → Bool
  | .null | .bool _ => false
  | .int _ => true
  | .float x => x.isFinite
  | .text s => Text.isQuotedAlike s
  | .list items => Value.areSpelledAlike items
  | .object fields => Value.fieldsSpelledAlike fields

/-- Whether all elements of a list are spelled alike. -/
def Value.areSpelledAlike : List Value → Bool
  | [] => true
  | item :: rest => item.isSpelledAlike && Value.areSpelledAlike rest

/-- Whether all fields of an object are spelled alike, and their names quoted alike. -/
def Value.fieldsSpelledAlike : List (String × Value) → Bool
  | [] => true
  | (name, item) :: rest =>
    (Text.isQuotedAlike name && item.isSpelledAlike) && Value.fieldsSpelledAlike rest

end

/-- A binary64 number is spelled alike if it is finite; the words for the others differ. -/
theorem Binary64.spelled_alikeIff (x : Binary64) :
    AlikeIff (x.isFinite = true) (x.toTextWith Json.spelling).toList x.toText.toList := by
  cases x with
  | nan => exact .differ Bool.false_ne_true [] (by decide : 'N' ≠ 'n') ['a', 'N'] ['a', 'n']
  | infinite negative =>
    cases negative with
    | false =>
      exact .differ Bool.false_ne_true [] (by decide : 'I' ≠ 'i') "nfinity".toList "nf".toList
    | true =>
      exact .differ Bool.false_ne_true ['-'] (by decide : 'I' ≠ 'i') "nfinity".toList "nf".toList
  | finite negative mantissa exponent => exact .same rfl _

namespace Value

/-- As many elements are written in both spellings. -/
theorem length_writeItems (items : List Value) :
    (Json.writeItems items).length = (itemLiterals items).length := by
  induction items with
  | nil => rfl
  | cons item rest ih =>
    rw [Json.writeItems, itemLiterals, List.length_cons, List.length_cons, ih]

/-- As many fields are written in both spellings. -/
theorem length_writeFields (fields : List (String × Value)) :
    (Json.writeFields fields).length = (fieldLiterals fields).length := by
  induction fields with
  | nil => rfl
  | cons field rest ih =>
    rw [Json.writeFields, fieldLiterals, List.length_cons, List.length_cons, ih]

mutual

/-- **A value** is spelled alike, or its two spellings differ inside. -/
theorem write_alikeIff (value : Value) :
    AlikeIff (value.isSpelledAlike = true) (Json.write value).toList value.literal.toList := by
  cases value with
  | null =>
    exact .differ Bool.false_ne_true [] (by decide : 'n' ≠ 'N') "ull".toList "one".toList
  | bool b =>
    cases b with
    | false =>
      exact .differ Bool.false_ne_true [] (by decide : 'f' ≠ 'F') "alse".toList "alse".toList
    | true =>
      exact .differ Bool.false_ne_true [] (by decide : 't' ≠ 'T') "rue".toList "rue".toList
  | int n => exact .same rfl _
  | float x => exact x.spelled_alikeIff
  | text s => exact Text.quoted_alikeIff s
  | list items =>
    rw [isSpelledAlike, Json.write, literal, String.toList_append, String.toList_append,
      String.toList_append, String.toList_append]
    exact ((items_alikeIff items).behind _).before _
  | object fields =>
    rw [isSpelledAlike, Json.write, literal, String.toList_append, String.toList_append,
      String.toList_append, String.toList_append]
    exact ((fields_alikeIff fields).behind _).before _

/-- The elements of a list are spelled alike, or their two spellings differ inside. -/
theorem items_alikeIff (items : List Value) :
    AlikeIff (areSpelledAlike items = true) (String.intercalate ", " (Json.writeItems items)).toList
      (String.intercalate ", " (itemLiterals items)).toList := by
  cases items with
  | nil => exact .same rfl _
  | cons item rest =>
    rw [Json.writeItems, itemLiterals, areSpelledAlike, Bool.and_eq_true]
    exact .intercalate_cons (write_alikeIff item) (length_writeItems rest) (items_alikeIff rest)

/-- The fields of an object are spelled alike, or their two spellings differ inside. -/
theorem fields_alikeIff (fields : List (String × Value)) :
    AlikeIff (fieldsSpelledAlike fields = true)
      (String.intercalate ", " (Json.writeFields fields)).toList
      (String.intercalate ", " (fieldLiterals fields)).toList := by
  cases fields with
  | nil => exact .same rfl _
  | cons field rest =>
    obtain ⟨name, item⟩ := field
    rw [Json.writeFields, fieldLiterals, fieldsSpelledAlike, Bool.and_eq_true, Bool.and_eq_true]
    refine .intercalate_cons ?_ (length_writeFields rest) (fields_alikeIff rest)
    rw [String.toList_append, String.toList_append, String.toList_append, String.toList_append]
    exact ((Text.quoted_alikeIff name).before _).append (write_alikeIff item)

end

/-- **The JSON text of a value is its literal** exactly if the value is spelled alike. -/
theorem write_eq_literal_iff (value : Value) :
    Json.write value = value.literal ↔ value.isSpelledAlike = true := by
  rw [← String.toList_inj]
  exact (write_alikeIff value).eq_iff

/-- A text is quoted alike if it needs double quotes in both spellings. -/
example : (list [.int 1, .text "it's"]).isSpelledAlike = true ∧
    (list [.int 1, .text "its"]).isSpelledAlike = false := by decide

end Value

end Stepwise
