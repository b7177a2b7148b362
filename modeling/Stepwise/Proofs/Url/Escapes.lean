import Mathlib.Computability.Language
import Stepwise.Json.Reader
import Stepwise.Proofs.Text.Utf8
import Stepwise.Url.Percent

/-! # Texts as parts of addresses

A text that is encoded becomes a part of an address (`Url.Carries`). Such a part has nothing in it
but characters that stand for themselves and escapes (`Url.encodedParts`), so it cannot end early or
be taken for anything else; and it decodes to the text again (`Url.decode?_encode`). Decoding reads
the escapes of either letter case as bytes, and the bytes as UTF-8. -/

open scoped Computability

namespace Stepwise

/-- What is put together from parts of a kind, one for each element, is a run of that kind. -/
theorem flatMap_mem_kstar {α β : Type} {kind : Language β} {f : α → List β} (h : ∀ a, f a ∈ kind∗)
    (elements : List α) : elements.flatMap f ∈ kind∗ := by
  induction elements with
  | nil => exact Language.nil_mem_kstar kind
  | cons a rest ih =>
    rw [List.flatMap_cons, ← kstar_mul_kstar]
    exact Language.append_mem_mul (h a) ih

namespace Url

/-! ## The form of a part -/

/-- **A character that stands for itself**: an ASCII letter or digit, one of four marks, or the one
character that is safe in this place. -/
def StandsForItself (safe c : Char) : Prop :=
  ('A' ≤ c ∧ c ≤ 'Z') ∨ ('a' ≤ c ∧ c ≤ 'z') ∨ ('0' ≤ c ∧ c ≤ '9') ∨ c ∈ ['_', '.', '-', '~', safe]

instance (safe c : Char) : Decidable (StandsForItself safe c) :=
  inferInstanceAs (Decidable (_ ∨ _))

/-- An upper-case hexadecimal digit. -/
def IsUpperHex (c : Char) : Prop := ('0' ≤ c ∧ c ≤ '9') ∨ ('A' ≤ c ∧ c ≤ 'F')

/-- The characters that stand for themselves. -/
def plainChars (safe : Char) : Language Char := {cs | ∃ c, cs = [c] ∧ StandsForItself safe c}

/-- The escapes: `%` and two upper-case hexadecimal digits. -/
def escapes : Language Char :=
  {cs | ∃ high low, cs = ['%', high, low] ∧ IsUpperHex high ∧ IsUpperHex low}

/-- **The parts of addresses that are encoded**: characters that stand for themselves and escapes,
in any order. -/
def encodedParts (safe : Char) : Language Char := (plainChars safe + escapes)∗

/-- What is never encoded stands for itself. -/
theorem standsForItself_of_isUnreserved {c : Char} (h : isUnreserved c = true) (safe : Char) :
    StandsForItself safe c := by
  have hbounds : ∀ low high : Char,
      (decide (c.val ≥ low.val) && decide (c.val ≤ high.val)) = true → low ≤ c ∧ c ≤ high :=
    fun _ _ h => (Bool.and_eq_true_iff.mp h).imp of_decide_eq_true of_decide_eq_true
  simp only [isUnreserved, Bool.or_eq_true, decide_eq_true_eq] at h
  rcases h with (((halphanum | rfl) | rfl) | rfl) | rfl
  · rcases Bool.or_eq_true_iff.mp halphanum with halpha | hdigit
    · rcases Bool.or_eq_true_iff.mp halpha with hupper | hlower
      · exact .inl (of_decide_eq_true hupper)
      · exact .inr (.inl (hbounds _ _ hlower))
    · exact .inr (.inr (.inl (hbounds _ _ hdigit)))
  all_goals exact .inr (.inr (.inr (by simp)))

/-- The hexadecimal digits of a byte are upper-case. -/
theorem isUpperHex_hexDigit {n : Nat} (h : n < 16) : IsUpperHex (hexDigit n) := by
  have hall : ∀ n < 16, ('0' ≤ hexDigit n ∧ hexDigit n ≤ '9') ∨
      ('A' ≤ hexDigit n ∧ hexDigit n ≤ 'F') := by
    decide
  exact hall n h

/-- A hexadecimal digit stands for itself. -/
theorem IsUpperHex.standsForItself {c : Char} (h : IsUpperHex c) (safe : Char) :
    StandsForItself safe c := by
  rcases h with hdigit | ⟨hlow, hhigh⟩
  · exact .inr (.inr (.inl hdigit))
  · exact .inl ⟨hlow, Char.le_trans hhigh (by decide)⟩

/-- A byte is encoded as an escape. -/
theorem encodeByte_mem_escapes (byte : UInt8) : encodeByte byte ∈ escapes := by
  have hbyte : byte.toNat < 256 := byte.toNat_lt
  exact ⟨_, _, rfl, isUpperHex_hexDigit (by omega), isUpperHex_hexDigit (by omega)⟩

/-- **Nothing else occurs in a part**: no character that means anything in an address, unless it is
the safe one or the mark of an escape. -/
theorem not_mem_of_mem_encodedParts {safe c : Char} {part : List Char}
    (h : part ∈ encodedParts safe) (hplain : ¬ StandsForItself safe c) (hmark : c ≠ '%') :
    c ∉ part := by
  obtain ⟨pieces, rfl, hpieces⟩ := Language.mem_kstar.mp h
  intro hc
  obtain ⟨piece, hpiece, hc⟩ := List.mem_flatten.mp hc
  rcases hpieces piece hpiece with ⟨d, rfl, hd⟩ | ⟨high, low, rfl, hhigh, hlow⟩
  · rw [List.mem_singleton] at hc
    exact hplain (hc ▸ hd)
  · simp only [List.mem_cons, List.not_mem_nil, or_false] at hc
    rcases hc with rfl | rfl | rfl
    · exact hmark rfl
    · exact hplain (hhigh.standsForItself safe)
    · exact hplain (hlow.standsForItself safe)

/-- **What is encoded has the form of a part.** -/
theorem toList_encode_mem (safe : Char) (s : String) :
    (encode [safe] s).toList ∈ encodedParts safe := by
  have hpiece : plainChars safe + escapes ≤ encodedParts safe := le_kstar
  rw [encode, String.toList_ofList]
  refine flatMap_mem_kstar (fun c => ?_) s.toList
  unfold encodeChar
  split
  next h =>
    refine hpiece (.inl ⟨c, rfl, ?_⟩)
    rw [Bool.or_eq_true, List.contains_iff_mem, List.mem_singleton] at h
    rcases h with hunreserved | rfl
    · exact standsForItself_of_isUnreserved hunreserved safe
    · exact .inr (.inr (.inr (by simp)))
  next =>
    exact flatMap_mem_kstar (fun byte => hpiece (.inr (encodeByte_mem_escapes byte))) _

/-! ## Decoding -/

/-- The byte that three characters write, if they are an escape. -/
def escapeValue? (mark high low : Char) : Option Nat :=
  if mark = '%' then do return 16 * (← Json.hexValue? high) + (← Json.hexValue? low) else none

/-- The bytes that a part of an address writes: that of an escape, and those of any other
character. -/
def unescape : List Char → List Nat
  | mark :: high :: low :: rest =>
    match escapeValue? mark high low with
    | some byte => byte :: unescape rest
    | none => Text.utf8Bytes mark ++ unescape (high :: low :: rest)
  | c :: rest => Text.utf8Bytes c ++ unescape rest
  | [] => []

/-- The text that a part of an address decodes to, if its bytes are one. -/
def decode? (part : String) : Option String :=
  (Text.utf8? (unescape part.toList)).map String.ofList

/-- What does not start an escape is read by itself. -/
theorem unescape_cons {c : Char} (h : c ≠ '%') (rest : List Char) :
    unescape (c :: rest) = Text.utf8Bytes c ++ unescape rest := by
  have hnone : ∀ high low, escapeValue? c high low = none := fun high low => if_neg h
  match rest with
  | [] => rfl
  | [d] => rfl
  | high :: low :: rest => rw [unescape, hnone]

/-- A byte is read from its escape. -/
theorem unescape_encodeByte_append (byte : UInt8) (rest : List Char) :
    unescape (encodeByte byte ++ rest) = byte.toNat :: unescape rest := by
  have hbyte : byte.toNat < 256 := byte.toNat_lt
  have hdigit : ∀ n < 16, Json.hexValue? (hexDigit n) = some n := by decide
  have hvalue : 16 * (byte.toNat / 16) + byte.toNat % 16 = byte.toNat := Nat.div_add_mod _ _
  have hescape : escapeValue? '%' (hexDigit (byte.toNat / 16)) (hexDigit (byte.toNat % 16)) =
      some byte.toNat := by
    rw [escapeValue?, if_pos rfl, hdigit _ (by omega), hdigit _ (by omega)]
    exact congrArg some hvalue
  rw [encodeByte, List.cons_append, List.cons_append, List.cons_append, List.nil_append, unescape,
    hescape]

/-- Bytes are read from their escapes. -/
theorem unescape_flatMap_encodeByte_append (bytes : List UInt8) (rest : List Char) :
    unescape (bytes.flatMap encodeByte ++ rest) = bytes.map UInt8.toNat ++ unescape rest := by
  induction bytes with
  | nil => rfl
  | cons byte bytes ih =>
    rw [List.flatMap_cons, List.append_assoc, unescape_encodeByte_append, ih, List.map_cons,
      List.cons_append]

/-- **A character is read back**, unless the mark of escapes is allowed to stand for itself. -/
theorem unescape_encodeChar_append {allowed : List Char} (h : '%' ∉ allowed) (c : Char)
    (rest : List Char) :
    unescape (encodeChar allowed c ++ rest) = Text.utf8Bytes c ++ unescape rest := by
  unfold encodeChar
  split
  next hplain =>
    have hreserved : isUnreserved '%' = false := by decide
    have hmark : c ≠ '%' := by
      rintro rfl
      rw [hreserved, Bool.false_or, List.contains_iff_mem] at hplain
      exact h hplain
    rw [List.singleton_append, unescape_cons hmark]
  next => exact unescape_flatMap_encodeByte_append _ _

/-- **An encoded text decodes to the text.** -/
theorem decode?_encode {allowed : List Char} (h : '%' ∉ allowed) (s : String) :
    decode? (encode allowed s) = some s := by
  have hbytes : ∀ cs : List Char,
      unescape (cs.flatMap (encodeChar allowed)) = cs.flatMap Text.utf8Bytes := by
    intro cs
    induction cs with
    | nil => rfl
    | cons c cs ih => rw [List.flatMap_cons, unescape_encodeChar_append h, ih, List.flatMap_cons]
  rw [decode?, encode, String.toList_ofList, hbytes, Text.utf8?_flatMap_utf8Bytes, Option.map_some,
    String.ofList_toList]

/-! ## Carrying a text -/

/-- **A part of an address carries a text**: it has the form of a part, and decodes to the text. -/
structure Carries (safe : Char) (part s : String) : Prop where
  /-- The part consists of characters that stand for themselves and of escapes. -/
  form : part.toList ∈ encodedParts safe
  /-- It decodes to the text. -/
  decoded : decode? part = some s

/-- An encoded text is carried. -/
theorem carries_encode {safe : Char} (h : safe ≠ '%') (s : String) :
    Carries safe (encode [safe] s) s :=
  ⟨toList_encode_mem safe s, decode?_encode (by simpa using h.symm) s⟩

end Url

end Stepwise
