import Stepwise.Proofs.Binary64.Integers
import Stepwise.Proofs.Condition.Outcomes
import Stepwise.Proofs.Text.Numerals

/-! # Order operators on integers

The order operators compare two integers, each given as an integer or as its decimal text
(`Value.Writes`), by the binary64 numbers nearest to them. Hence `<` holds of them if they are in
order and are not rounded to the same number (`Precedes`); equality does not round.

The main statement is `integers_ordered`, for all integers that have a nearest number. On integers
of at most 53 bits, and these times a power of two, the operators decide the order
(`Binary64.IsExact`); integers in order that are not told apart are close together. -/

namespace Stepwise

/-! ## Integers that are not rounded -/

namespace Binary64

/-- **An integer is a binary64 number**, but for the range: one of at most 53 bits, times a power of
two. -/
def IsExact (n : Int) : Prop := ∃ m k, m ≤ Nat.pow 2 53 ∧ n.natAbs = m * Nat.pow 2 k

/-- An integer that is a binary64 number is not rounded. -/
theorem IsExact.nearestInt_eq {n : Int} (h : IsExact n) : nearestInt n = n := by
  obtain ⟨m, k, hm, hn⟩ := h
  have hnearest : nearest n.natAbs = n.natAbs := by
    rw [hn]
    exact nearest_eq_self hm
  rw [nearestInt, hnearest, signed]
  by_cases hneg : n < 0
  · rw [if_pos (decide_eq_true hneg)]
    omega
  · rw [if_neg (by simpa using hneg)]
    omega

/-- **An integer precedes another one** as a binary64 number: it is less, and not rounded to the
same number. -/
def Precedes (a b : Int) : Prop := a < b ∧ ofInt? a ≠ ofInt? b

/-- Precedence is decided by rounding. -/
instance (a b : Int) : Decidable (Precedes a b) :=
  inferInstanceAs (Decidable (a < b ∧ ofInt? a ≠ ofInt? b))

section

variable {a b : Int} (ha : a.natAbs < overflow) (hb : b.natAbs < overflow)
include ha hb

/-- **An integer precedes another one if it is rounded to a lesser one.** -/
theorem precedes_iff : Precedes a b ↔ nearestInt a < nearestInt b := by
  rw [Precedes, Ne, ofInt?_eq_iff ha hb]
  constructor
  · rintro ⟨hlt, hne⟩
    exact lt_of_le_of_ne (nearestInt_mono (Int.le_of_lt hlt)) hne
  · intro hlt
    refine ⟨?_, Int.ne_of_lt hlt⟩
    by_contra hge
    exact absurd (nearestInt_mono (Int.not_lt.mp hge)) (Int.not_le.mpr hlt)

/-- An integer that does not precede another one is not rounded to a lesser one. -/
theorem not_precedes_iff : ¬ Precedes a b ↔ nearestInt b ≤ nearestInt a := by
  rw [precedes_iff ha hb, Int.not_lt]

/-- **Integers that are not rounded are told apart.** -/
theorem IsExact.precedes_iff (hexact : IsExact a) (hexact' : IsExact b) :
    Precedes a b ↔ a < b := by
  rw [Binary64.precedes_iff ha hb, hexact.nearestInt_eq, hexact'.nearestInt_eq]

/-- **Integers that are not told apart are close together**: they differ by one part in `2 ^ 53` at
most. -/
theorem dist_le_of_not_precedes (hlt : a < b) (hnot : ¬ Precedes a b) :
    Nat.pow 2 53 * (b - a).natAbs ≤ a.natAbs + b.natAbs := by
  have heq : nearestInt a = nearestInt b := by
    have hround := (not_precedes_iff ha hb).mp hnot
    exact Int.le_antisymm (nearestInt_mono (Int.le_of_lt hlt)) hround
  have hdist := dist_nearestInt_le a
  have hdist' := dist_nearestInt_le b
  rw [heq] at hdist
  have htriangle : (b - a).natAbs ≤ (a - nearestInt b).natAbs + (b - nearestInt b).natAbs := by
    omega
  calc Nat.pow 2 53 * (b - a).natAbs
      ≤ Nat.pow 2 53 * ((a - nearestInt b).natAbs + (b - nearestInt b).natAbs) :=
        Nat.mul_le_mul_left _ htriangle
    _ = Nat.pow 2 53 * (a - nearestInt b).natAbs + Nat.pow 2 53 * (b - nearestInt b).natAbs :=
        Nat.mul_add _ _ _
    _ ≤ a.natAbs + b.natAbs := Nat.add_le_add hdist hdist'

end

/-- A magnitude in the range of the binary64 numbers has at most 400 digits. -/
theorem length_digits_of_lt_overflow {n : Nat} (h : n < overflow) :
    (Text.digits 10 n).length ≤ 400 := by
  have hlimit : ∀ k, 0 < k → overflow ≤ Nat.pow 10 k → (Text.digits 10 n).length ≤ k :=
    fun k hk hk' => Text.length_digits_le hk (Nat.lt_of_lt_of_le h hk')
  exact hlimit 400 (by decide) (by decide +kernel)

/-- Numbers that are integers are less if these are. -/
theorem IsInteger.lt_eq {x y : Binary64} {u v : Int} (hx : IsInteger x u) (hy : IsInteger y v) :
    lt x y = decide (u < v) := by
  rw [lt, hx.compare?_eq hy, Bool.eq_iff_iff, beq_iff_eq, decide_eq_true_iff, Option.some_inj,
    compare_lt_iff_lt]

/-- Numbers that are integers are less or equal if these are. -/
theorem IsInteger.le_eq {x y : Binary64} {u v : Int} (hx : IsInteger x u) (hy : IsInteger y v) :
    le x y = decide (u ≤ v) := by
  rw [le, hx.compare?_eq hy, Bool.eq_iff_iff, Bool.or_eq_true, beq_iff_eq, beq_iff_eq,
    decide_eq_true_iff, Option.some_inj, Option.some_inj, compare_lt_iff_lt, compare_eq_iff_eq]
  exact le_iff_lt_or_eq.symm

/-- What an integer is read as is its rounded magnitude with the sign. -/
theorem roundRatio_of_ofInt? {n : Int} {x : Binary64} (h : ofInt? n = some x) :
    roundRatio (n < 0) n.natAbs 1 = x := by
  unfold ofInt? at h
  split at h
  next => cases h
  next => exact Option.some.inj h

end Binary64

/-! ## Values that write integers -/

namespace Value

/-- **A value writes an integer**: it is the integer, or its decimal text. -/
inductive Writes (n : Int) : Value → Prop
  /-- The integer. -/
  | int : Writes n (.int n)
  /-- Its decimal text. -/
  | text : Writes n (.text (toString n))

variable {n : Int} {value : Value}

/-- A value that writes an integer is not null. -/
theorem Writes.ne_null (h : value.Writes n) : value ≠ .null := by
  cases h with
  | int => exact Value.noConfusion
  | text => exact Value.noConfusion

/-- **A value that writes an integer is read as the nearest binary64 number.** -/
theorem Writes.exists_readNumber (h : value.Writes n) (hn : n.natAbs < Binary64.overflow) :
    ∃ x, value.readNumber = .number x ∧ Binary64.IsInteger x (Binary64.nearestInt n) := by
  obtain ⟨x, hx⟩ := Option.ne_none_iff_exists'.mp fun hnone =>
    Nat.not_lt.mpr (Binary64.ofInt?_eq_none_iff.mp hnone) hn
  refine ⟨x, ?_, Binary64.isInteger_of_ofInt? hx⟩
  cases h with
  | int => rw [readNumber, hx]
  | text =>
    have htext := Binary64.ofText?_toString (Binary64.length_digits_of_lt_overflow hn)
    rw [Binary64.roundRatio_of_ofInt? hx] at htext
    rw [readNumber, htext]

/-- The text of a value that writes an integer is the decimal one. -/
theorem Writes.toText_eq (h : value.Writes n) : value.toText = toString n := by
  cases h with
  | int => rfl
  | text => rfl

end Value

/-! ## The comparisons -/

namespace Condition

open Binary64

variable {a b : Int} {actual expected : Value}

/-- **Two values are ordered as two integers**, under every name of an operator: as far as the order
operators tell the integers apart, and exactly by equality. -/
structure OrderedAs (a b : Int) (actual expected : Value) : Prop where
  /-- Less: precedes. -/
  less : ∀ name, Operator.ofName? name = some .less →
    compare actual (.text name) expected = .ok (decide (Precedes a b))
  /-- Greater: is preceded. -/
  greater : ∀ name, Operator.ofName? name = some .greater →
    compare actual (.text name) expected = .ok (decide (Precedes b a))
  /-- Less or equal: is not preceded. -/
  lessOrEqual : ∀ name, Operator.ofName? name = some .lessOrEqual →
    compare actual (.text name) expected = .ok (decide ¬ Precedes b a)
  /-- Greater or equal: does not precede. -/
  greaterOrEqual : ∀ name, Operator.ofName? name = some .greaterOrEqual →
    compare actual (.text name) expected = .ok (decide ¬ Precedes a b)
  /-- Equal: is the same integer. -/
  equal : ∀ name, Operator.ofName? name = some .equal →
    compare actual (.text name) expected = .ok (decide (a = b))
  /-- Not equal: is another integer. -/
  notEqual : ∀ name, Operator.ofName? name = some .notEqual →
    compare actual (.text name) expected = .ok (decide (a ≠ b))

/-- **Values that write integers are the same** if the integers are. -/
theorem same_of_writes (hactual : actual.Writes a) (hexpected : expected.Writes b) :
    same actual expected = decide (a = b) := by
  have htext : (toString a == toString b) = decide (a = b) := by
    rw [Bool.eq_iff_iff, beq_iff_eq, decide_eq_true_iff]
    exact Text.toString_int_inj
  rw [same, hactual.toText_eq, hexpected.toText_eq, htext]
  -- as far as the values are of one type, they are equal if the integers are
  suffices hequals : actual.equals expected = true → a = b by
    rw [Bool.eq_iff_iff, Bool.or_eq_true, decide_eq_true_iff]
    exact or_iff_right_of_imp hequals
  intro hequals
  cases hactual with
  | int =>
    cases hexpected with
    | int =>
      have hcompare : some (Ord.compare a b) = some Ordering.eq := beq_iff_eq.mp hequals
      exact Int.compare_eq_eq.mp (Option.some.inj hcompare)
    | text => cases hequals
  | text =>
    cases hexpected with
    | int => cases hequals
    | text =>
      rw [Value.equals] at hequals
      exact Text.toString_int_inj.mp (beq_iff_eq.mp hequals)

/-- **The order of two integers is compared** as that of the binary64 numbers nearest to them. -/
theorem exists_compareNumbers_of_writes (ha : a.natAbs < overflow) (hb : b.natAbs < overflow)
    (hactual : actual.Writes a) (hexpected : expected.Writes b) :
    ∃ x y, IsInteger x (nearestInt a) ∧ IsInteger y (nearestInt b) ∧
      ∀ test, compareNumbers test actual expected = .ok (test x y) := by
  obtain ⟨x, hx, hvalue⟩ := hactual.exists_readNumber ha
  obtain ⟨y, hy, hvalue'⟩ := hexpected.exists_readNumber hb
  refine ⟨x, y, hvalue, hvalue', fun test => ?_⟩
  rw [compareNumbers, hx, hy]

/-- **Values that write integers are ordered as these**, if they have a nearest binary64 number. -/
theorem orderedAs (ha : a.natAbs < overflow) (hb : b.natAbs < overflow)
    (hactual : actual.Writes a) (hexpected : expected.Writes b) :
    OrderedAs a b actual expected := by
  obtain ⟨x, y, hx, hy, hcompare⟩ := exists_compareNumbers_of_writes ha hb hactual hexpected
  have hsame := same_of_writes hactual hexpected
  constructor
  · intro name hname
    rw [compare_of_named hname hactual.ne_null, Operator.holdsOf, hcompare, hx.lt_eq hy,
      decide_eq_decide.mpr (precedes_iff ha hb)]
  · intro name hname
    rw [compare_of_named hname hactual.ne_null, Operator.holdsOf, hcompare, hy.lt_eq hx,
      decide_eq_decide.mpr (precedes_iff hb ha)]
  · intro name hname
    rw [compare_of_named hname hactual.ne_null, Operator.holdsOf, hcompare, hx.le_eq hy,
      decide_eq_decide.mpr (not_precedes_iff hb ha)]
  · intro name hname
    rw [compare_of_named hname hactual.ne_null, Operator.holdsOf, hcompare, hy.le_eq hx,
      decide_eq_decide.mpr (not_precedes_iff ha hb)]
  · intro name hname
    rw [compare_of_named hname hactual.ne_null, Operator.holdsOf, hsame]
  · intro name hname
    rw [compare_of_named hname hactual.ne_null, Operator.holdsOf, hsame, ← decide_not]

/-- **Order operators on integers.** Two integers of a magnitude in the range of the binary64
numbers, each given as itself or as its decimal text, are compared as the nearest binary64 numbers,
and for equality as themselves. The order that is found is that of the integers if these are not
rounded; integers that it does not tell apart differ by one part in `2 ^ 53` at most. -/
theorem integers_ordered (ha : a.natAbs < overflow) (hb : b.natAbs < overflow)
    (hactual : actual.Writes a) (hexpected : expected.Writes b) :
    OrderedAs a b actual expected ∧ (IsExact a → IsExact b → (Precedes a b ↔ a < b)) ∧
      (a < b → ¬ Precedes a b → Nat.pow 2 53 * (b - a).natAbs ≤ a.natAbs + b.natAbs) :=
  ⟨orderedAs ha hb hactual hexpected, IsExact.precedes_iff ha hb, dist_le_of_not_precedes ha hb⟩

/-- The first two integers that are not told apart, the one as an integer and the other as a
text. -/
theorem integers_ordered_consecutive :
    (9007199254740993 : Int).natAbs < overflow ∧
      (Value.text "9007199254740993").Writes 9007199254740993 ∧
      OrderedAs 9007199254740992 9007199254740993 (.int 9007199254740992)
        (.text "9007199254740993") :=
  ⟨by decide +kernel, .text,
    (integers_ordered (by decide +kernel) (by decide +kernel) .int .text).1⟩

/-- **Two integers that are rounded to one number** are less or equal and greater or equal to each
other, but not equal; nor is the first one less. -/
theorem consecutive_not_ordered :
    compare (.int 9007199254740992) (.text "<") (.int 9007199254740993) = .ok false ∧
      compare (.int 9007199254740992) (.text "<=") (.int 9007199254740993) = .ok true ∧
      compare (.int 9007199254740992) (.text ">=") (.int 9007199254740993) = .ok true ∧
      compare (.int 9007199254740992) (.text "==") (.int 9007199254740993) = .ok false := by
  decide +kernel

end Condition

end Stepwise
