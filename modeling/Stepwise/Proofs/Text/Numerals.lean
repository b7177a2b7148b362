import Stepwise.Path
import Stepwise.Text
import Mathlib.Data.List.TakeWhile

/-! # Numerals

A numeral is the decimal text of an integer: its digits, behind a minus sign if it is negative
(`Text.numeral`, `toList_toString`). A numeral reads back as the integer, as an index of a path
(`Path.readIndex_numeral`) and as a binary64 number (`Binary64.ofText?_toString`); a numeral in
brackets is taken apart where the brackets are (`Path.bracketed?_numeral`). -/

namespace Stepwise

/-! ## Digits -/

namespace Unicode

/-- The digits `0` to `9` are decimal digits, whose value is their place behind `0`. -/
theorem decimalValue?_of_isDigit {c : Char} (h : c.isDigit = true) :
    decimalValue? c = some (c.toNat - '0'.toNat) := by
  obtain ⟨hlow, hhigh⟩ : 48 ≤ c.toNat ∧ c.toNat ≤ 57 := Char.isDigit_iff_toNat.mp h
  -- the run that starts at `0` is the first one
  have hfind : (decimalZeros.find? fun start => start ≤ c.toNat && c.toNat ≤ start + 9) =
      some 0x30 := by
    rw [decimalZeros, List.find?_cons_of_pos]
    simp only [Bool.and_eq_true, decide_eq_true_eq]
    omega
  rw [decimalValue?, hfind]
  rfl

/-- The digits `0` to `9` are decimal digits. -/
theorem isDecimal_of_isDigit {c : Char} (h : c.isDigit = true) : isDecimal c = true := by
  rw [isDecimal, decimalValue?_of_isDigit h]
  rfl

/-- A decimal digit is a digit. -/
theorem isDigit_of_isDecimal {c : Char} (h : isDecimal c = true) : isDigit c = true := by
  rw [isDigit, h, Bool.true_or]

end Unicode

namespace Text

/-- The digits of a number are the digits `0` to `9`. -/
theorem isDigit_of_mem_digits {n : Nat} {c : Char} (h : c ∈ digits 10 n) : c.isDigit = true :=
  Nat.isDigit_of_mem_toDigits (by decide) (by decide) h

/-- A number starts with a digit. -/
theorem exists_digits_eq_cons (n : Nat) :
    ∃ c cs, digits 10 n = c :: cs ∧ c.isDigit = true := by
  obtain ⟨c, cs, hcons⟩ := List.exists_cons_of_ne_nil (Nat.toDigits_ne_nil (n := n) (b := 10))
  exact ⟨c, cs, hcons, isDigit_of_mem_digits (by rw [digits, hcons]; exact List.mem_cons_self)⟩

/-- A number does not start with a minus sign. -/
theorem digits_ne_minus (n : Nat) (cs : List Char) : digits 10 n ≠ '-' :: cs := by
  intro h
  have hminus : ('-').isDigit = true :=
    isDigit_of_mem_digits (by rw [h]; exact List.mem_cons_self)
  exact absurd hminus (by decide)

/-- A number below a power of ten has no more digits than that. -/
theorem length_digits_le {n k : Nat} (hk : 0 < k) (h : n < Nat.pow 10 k) :
    (digits 10 n).length ≤ k :=
  (Nat.length_toDigits_le_iff (by decide) hk).mpr h

/-- The decimal text of an integer. -/
def numeral (n : Int) : List Char :=
  if n < 0 then '-' :: digits 10 n.natAbs else digits 10 n.natAbs

/-- An integer is written by its numeral. -/
theorem toList_toString (n : Int) : (toString n).toList = numeral n := by
  rw [Int.toString_eq_repr, Int.repr_eq_if, numeral]
  by_cases h : n < 0
  · have hmagnitude : (-n).toNat = n.natAbs := by omega
    rw [if_neg (by omega), if_pos h, String.toList_append, Nat.toList_repr, hmagnitude]
    rfl
  · have hmagnitude : n.toNat = n.natAbs := by omega
    rw [if_pos (by omega), if_neg h, Nat.toList_repr, hmagnitude]
    rfl

/-- **What a numeral consists of**: digits and minus signs. -/
theorem mem_numeral {n : Int} {c : Char} (h : c ∈ numeral n) : c.isDigit = true ∨ c = '-' := by
  rw [numeral] at h
  split at h
  · rcases List.mem_cons.mp h with rfl | h
    · exact .inr rfl
    · exact .inl (isDigit_of_mem_digits h)
  · exact .inl (isDigit_of_mem_digits h)

end Text

/-! ## Reading digits -/

namespace Binary64

/-- **The digits of a number read back as the number.** -/
theorem natOfDigits_digits (n : Nat) : natOfDigits (Text.digits 10 n) = n := by
  rw [natOfDigits, ← Nat.ofDigitChars_eq_foldl, Text.digits, Nat.ofDigitChars_ten_toDigits]

/-- Digits and minus signs are western already. -/
theorem westernDigits_eq_self {cs : List Char} (h : ∀ c ∈ cs, c.isDigit = true ∨ c = '-') :
    westernDigits cs = cs := by
  refine (List.map_congr_left fun c hc => ?_).trans (List.map_id cs)
  rcases h c hc with hdigit | rfl
  · obtain ⟨hlow, hhigh⟩ : 48 ≤ c.toNat ∧ c.toNat ≤ 57 := Char.isDigit_iff_toNat.mp hdigit
    rw [Unicode.decimalValue?_of_isDigit hdigit]
    refine Char.toNat_inj.mp ?_
    have hzero : '0'.toNat = 48 := rfl
    rw [hzero, Nat.toNat_digitChar_of_lt_ten (by omega), id]
    omega
  · decide

/-- The digits of a number are read as the number. -/
theorem natOfDigits_westernDigits (n : Nat) :
    natOfDigits (westernDigits (Text.digits 10 n)) = n := by
  rw [westernDigits_eq_self fun c hc => .inl (Text.isDigit_of_mem_digits hc), natOfDigits_digits]

end Binary64

namespace Text

/-- **Different integers have different decimal texts.** -/
theorem toString_int_inj {m n : Int} : toString m = toString n ↔ m = n := by
  constructor
  · intro h
    -- the digits read back as the magnitude, and the sign is what stands before them
    have hdigits : digits 10 m.natAbs = digits 10 n.natAbs → m.natAbs = n.natAbs := by
      intro heq
      rw [← Binary64.natOfDigits_digits m.natAbs, heq, Binary64.natOfDigits_digits]
    have hnumeral : numeral m = numeral n := by
      rw [← toList_toString, ← toList_toString, h]
    rw [numeral, numeral] at hnumeral
    split at hnumeral
    next hm =>
      split at hnumeral
      next hn =>
        have hmagnitude := hdigits (List.cons.inj hnumeral).2
        omega
      next => exact absurd hnumeral.symm (digits_ne_minus _ _)
    next hm =>
      split at hnumeral
      next => exact absurd hnumeral (digits_ne_minus _ _)
      next hn =>
        have hmagnitude := hdigits hnumeral
        omega
  · rintro rfl
    rfl

end Text

/-! ## Indices -/

namespace Path

/-- **A numeral shows a number.** -/
theorem showsNumber_numeral (n : Int) : showsNumber (Text.numeral n) = true := by
  have hdigits : (!(Text.digits 10 n.natAbs).isEmpty &&
      (Text.digits 10 n.natAbs).all Unicode.isDigit) = true := by
    obtain ⟨c, cs, hcons, -⟩ := Text.exists_digits_eq_cons n.natAbs
    rw [Bool.and_eq_true, List.all_eq_true]
    refine ⟨by rw [hcons]; rfl, fun c hc => ?_⟩
    exact Unicode.isDigit_of_isDecimal
      (Unicode.isDecimal_of_isDigit (Text.isDigit_of_mem_digits hc))
  rw [Text.numeral]
  split
  · exact hdigits
  · unfold showsNumber
    split
    next heq => exact absurd heq (Text.digits_ne_minus _ _)
    next => exact hdigits

/-- **A numeral reads back as its integer**, if it is not too long. -/
theorem readIndex_numeral {n : Int} (h : (Text.digits 10 n.natAbs).length ≤ maxDigits) :
    readIndex (Text.numeral n) = .ok n := by
  have hall : (Text.digits 10 n.natAbs).all Unicode.isDecimal = true := by
    rw [List.all_eq_true]
    intro c hc
    exact Unicode.isDecimal_of_isDigit (Text.isDigit_of_mem_digits hc)
  -- the sign is cut off, and put back in front of the magnitude that is read
  have hread : ∀ (part : List Char) (negative : Bool),
      (if !(Text.digits 10 n.natAbs).all Unicode.isDecimal then
          .error (.notInteger (String.ofList part))
        else if maxDigits < (Text.digits 10 n.natAbs).length then
          .error (.integerTooLong (Text.digits 10 n.natAbs).length)
        else .ok (Binary64.signed negative
          (Binary64.natOfDigits (Binary64.westernDigits (Text.digits 10 n.natAbs)))) :
        Except Fault Int) = .ok (Binary64.signed negative n.natAbs) := by
    intro part negative
    rw [hall, if_neg (by decide), if_neg (by omega), Binary64.natOfDigits_westernDigits]
  rw [Text.numeral]
  split
  next hneg =>
    have hsigned : Binary64.signed true n.natAbs = n := by
      rw [Binary64.signed, if_pos rfl]
      omega
    rw [readIndex, hread, hsigned]
  next hpos =>
    have hsigned : Binary64.signed false n.natAbs = n := by
      rw [Binary64.signed, if_neg Bool.false_ne_true]
      omega
    rw [readIndex, hread, hsigned]
    exact Text.digits_ne_minus _

/-- **A numeral in brackets** is what stands in them. -/
theorem bracketed?_numeral (n : Int) (rest : List Char) :
    bracketed? (Text.numeral n ++ ']' :: rest) = some (Text.numeral n, rest) := by
  have hall : ∀ c ∈ Text.digits 10 n.natAbs, Unicode.isDecimal c = true := fun c hc =>
    Unicode.isDecimal_of_isDigit (Text.isDigit_of_mem_digits hc)
  have hdrop : (Text.digits 10 n.natAbs ++ ']' :: rest).dropWhile Unicode.isDecimal =
      ']' :: rest := by
    rw [List.dropWhile_append_of_pos hall, List.dropWhile_cons_of_neg (by decide +kernel)]
  have htake : (Text.digits 10 n.natAbs ++ ']' :: rest).takeWhile Unicode.isDecimal =
      Text.digits 10 n.natAbs := by
    rw [List.takeWhile_append_of_pos hall, List.takeWhile_cons_of_neg (by decide +kernel),
      List.append_nil]
  obtain ⟨c, cs, hcons, hdigit⟩ := Text.exists_digits_eq_cons n.natAbs
  have hnumber : (Text.digits 10 n.natAbs).isEmpty = false := by
    rw [hcons]
    rfl
  rw [Text.numeral]
  split
  next hneg =>
    rw [List.cons_append, bracketed?, hdrop]
    dsimp only
    rw [htake, hnumber]
    rfl
  next hpos =>
    have hminus : ∀ front, Text.digits 10 n.natAbs ++ ']' :: rest ≠ '-' :: front := by
      intro front heq
      rw [hcons, List.cons_append] at heq
      obtain ⟨rfl, -⟩ := List.cons_eq_cons.mp heq
      exact absurd hdigit (by decide)
    rw [bracketed?, hdrop]
    · dsimp only
      rw [htake, hnumber]
      rfl
    · exact hminus

end Path

/-! ## Numbers -/

namespace Unicode

/-- A digit is not blank. -/
theorem isBlank_of_isDigit {c : Char} (h : c.isDigit = true) : isBlank c = false := by
  obtain ⟨hlow, hhigh⟩ : 48 ≤ c.toNat ∧ c.toNat ≤ 57 := Char.isDigit_iff_toNat.mp h
  simp only [isBlank, blankRanges, List.any_cons, List.any_nil, Bool.or_false,
    Bool.or_eq_false_iff, Bool.and_eq_false_iff, decide_eq_false_iff_not]
  omega

end Unicode

namespace Binary64

/-- A text without blanks has nothing to trim. -/
theorem trimNumber_eq_self {cs : List Char} (h : ∀ c ∈ cs, Unicode.isNumberBlank c = false) :
    trimNumber cs = cs := by
  have hdrop : ∀ front : List Char, (∀ c ∈ front, Unicode.isNumberBlank c = false) →
      front.dropWhile Unicode.isNumberBlank = front := by
    intro front hfront
    cases front with
    | nil => rfl
    | cons c rest =>
      rw [List.dropWhile_cons_of_neg]
      rw [hfront c List.mem_cons_self]
      exact Bool.false_ne_true
  rw [trimNumber, hdrop cs h, hdrop cs.reverse fun c hc => h c (List.mem_reverse.mp hc),
    List.reverse_reverse]

/-- A text without underscores has none to drop. -/
theorem dropUnderscores_eq_some {cs : List Char} (h : '_' ∉ cs) (afterDigit : Bool) :
    dropUnderscores afterDigit cs = some cs := by
  induction cs generalizing afterDigit with
  | nil => rw [dropUnderscores]
  | cons c cs ih =>
    obtain ⟨hc, hcs⟩ := List.ne_and_not_mem_of_not_mem_cons h
    rw [dropUnderscores, ih hcs]
    · rfl
    · rintro rfl
      exact absurd rfl hc
    · rintro d ds rfl
      exact absurd rfl hc

/-- A text that starts with a digit is no word that starts otherwise, in lower case either. -/
theorem ofList_toLower_ne {d : Char} {ds : List Char} (hd : d.isDigit = true) {word : String}
    (hword : word.toList.head?.all (!Char.isDigit ·) = true) :
    String.ofList ((d :: ds).map Char.toLower) ≠ word := by
  rintro rfl
  have hlower : d.toLower = d := by
    refine dif_neg ?_
    rintro ⟨hlow, -⟩
    have hhigh : d.toNat ≤ 57 := (Char.isDigit_iff_toNat.mp hd).2
    have hbound : 65 ≤ d.toNat := UInt32.le_iff_toNat_le.mp hlow
    omega
  rw [String.toList_ofList, List.map_cons, hlower, List.head?_cons, Option.all_some, hd] at hword
  exact absurd hword Bool.false_ne_true

/-- **Digits behind a sign** write the number that they read, with the sign. -/
theorem signedDecimal?_digits {cs ds : List Char} {negative : Bool}
    (hsign : takeSign cs = (negative, ds)) (hne : ds ≠ [])
    (hdigits : ∀ c ∈ ds, c.isDigit = true) :
    signedDecimal? cs = some (roundDecimal negative (natOfDigits ds) 0) := by
  have htake : ds.takeWhile Char.isDigit = ds := List.takeWhile_eq_self_iff.mpr hdigits
  have hdrop : ds.dropWhile Char.isDigit = [] := List.dropWhile_eq_nil_iff.mpr hdigits
  have hdecimal : decimal? negative ds = some (roundDecimal negative (natOfDigits ds) 0) := by
    have hnumber : (ds.isEmpty && ([] : List Char).isEmpty) = false := by
      rw [List.isEmpty_eq_false_iff.mpr hne, Bool.false_and]
    rw [decimal?, htake, hdrop]
    dsimp only
    rw [hnumber, List.append_nil]
    rfl
  -- a word for infinity or NaN does not start with a digit
  obtain ⟨d, rest, rfl⟩ := List.exists_cons_of_ne_nil hne
  have hword : ∀ word : String, word.toList.head?.all (!Char.isDigit ·) = true →
      String.ofList ((d :: rest).map Char.toLower) ≠ word := fun word =>
    ofList_toLower_ne (hdigits d List.mem_cons_self)
  rw [signedDecimal?, hsign]
  dsimp only
  rw [decide_eq_false (hword "inf" (by decide)), decide_eq_false (hword "infinity" (by decide)),
    Bool.or_false, if_neg Bool.false_ne_true, if_neg (hword "nan" (by decide)), hdecimal]

/-- A natural number of at most 400 digits is rounded as it is. -/
theorem roundDecimal_natural {magnitude : Nat} (h : (Text.digits 10 magnitude).length ≤ 400)
    (negative : Bool) :
    roundDecimal negative magnitude 0 = roundRatio negative magnitude 1 := by
  rw [Text.digits] at h
  rw [roundDecimal]
  split
  next hzero => rw [hzero, roundRatio, if_pos rfl]
  next =>
    dsimp only
    rw [if_neg (by omega), if_neg (by omega)]
    exact congrArg (roundRatio negative · 1) (Nat.mul_one magnitude)

/-- **The decimal text of an integer** reads as the integer does. -/
theorem ofText?_toString {n : Int} (h : (Text.digits 10 n.natAbs).length ≤ 400) :
    ofText? (toString n) = some (roundRatio (decide (n < 0)) n.natAbs 1) := by
  have hblank : ∀ c ∈ Text.numeral n, Unicode.isNumberBlank c = false := by
    intro c hc
    rcases Text.mem_numeral hc with hdigit | rfl
    · rw [Unicode.isNumberBlank, Unicode.isBlank_of_isDigit hdigit, Bool.false_and]
    · decide
  have hunderscore : '_' ∉ Text.numeral n := by
    intro hmem
    rcases Text.mem_numeral hmem with hdigit | hminus
    · exact absurd hdigit (by decide)
    · exact absurd hminus (by decide)
  have hsign : takeSign (Text.numeral n) = (decide (n < 0), Text.digits 10 n.natAbs) := by
    rw [Text.numeral]
    by_cases hneg : n < 0
    · rw [if_pos hneg, decide_eq_true hneg]
      rfl
    · rw [if_neg hneg, decide_eq_false hneg, takeSign]
      · exact Text.digits_ne_minus _
      · intro cs heq
        have hplus : ('+').isDigit = true :=
          Text.isDigit_of_mem_digits (by rw [heq]; exact List.mem_cons_self)
        exact absurd hplus (by decide)
  rw [ofText?, Text.toList_toString, trimNumber_eq_self hblank,
    westernDigits_eq_self fun c hc => Text.mem_numeral hc, dropUnderscores_eq_some hunderscore,
    Option.bind_some, signedDecimal?_digits hsign Nat.toDigits_ne_nil
      fun c hc => Text.isDigit_of_mem_digits hc,
    natOfDigits_digits, roundDecimal_natural h]

end Binary64

end Stepwise
