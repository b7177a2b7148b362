import Stepwise.Condition
import Stepwise.Proofs.Binary64.Integers

/-! # When a comparison has an outcome

A comparison of two values under the name of an operator is true or false, whatever the values and
the name are, unless it oversteps one of two limits (`Oversteps`). An order operator reads its two
values as binary64 numbers, the actual one first, and an integer that is too large for that is a
fault. And where a comparison writes its values out (`Operator.writesOut`), their integers must have
no more digits than are written.

The main statement is `compare_unless_oversteps`. It also says that an order operator is false of
values that are no numbers, NaN being none. -/

namespace Stepwise

namespace Value

/-- **An integer beyond the binary64 numbers.** -/
def IsBeyond (value : Value) : Prop := ∃ n, value = .int n ∧ Binary64.overflow ≤ n.natAbs

/-- An integer is too large to be read exactly if it is beyond the binary64 numbers; no other value
is too large. -/
theorem readNumber_eq_tooLarge_iff {value : Value} :
    value.readNumber = .tooLarge ↔ value.IsBeyond := by
  cases value with
  | int n =>
    have hnone : (int n).readNumber = .tooLarge ↔ Binary64.ofInt? n = none := by
      rw [readNumber]
      cases Binary64.ofInt? n with
      | none => exact ⟨fun _ => rfl, fun _ => rfl⟩
      | some x => exact ⟨nofun, nofun⟩
    rw [hnone, Binary64.ofInt?_eq_none_iff]
    constructor
    · intro hlarge
      exact ⟨n, rfl, hlarge⟩
    · rintro ⟨_, ⟨⟩, hlarge⟩
      exact hlarge
  | text s =>
    rw [readNumber]
    cases Binary64.ofText? s with
    | none => exact ⟨nofun, nofun⟩
    | some x => exact ⟨nofun, nofun⟩
  | null => exact ⟨nofun, nofun⟩
  | bool => exact ⟨nofun, nofun⟩
  | float => exact ⟨nofun, nofun⟩
  | list => exact ⟨nofun, nofun⟩
  | object => exact ⟨nofun, nofun⟩

end Value

namespace Condition

variable {actual expected : Value} {name : String}

/-- **An operator that orders numbers** has the name. -/
def NamesOrder (name : String) : Prop := ∃ op, Operator.ofName? name = some op ∧ op.isOrder = true

/-- **Reading two values as numbers comes to an integer beyond them.** The expected one is not read
if the actual one is no number. -/
inductive ReadsBeyond (actual expected : Value) : Prop
  /-- The actual value is too large. -/
  | actual (beyond : actual.IsBeyond)
  /-- The actual value is a number, and the expected one is too large. -/
  | expected {x : Binary64} (number : actual.readNumber = .number x) (beyond : expected.IsBeyond)

end Condition

/-- **Whether an operator writes its two values out**: to compare the texts, which equality does if
the values do not mean the same, or to say that they are no numbers. -/
def Operator.writesOut (op : Operator) (actual expected : Value) : Bool :=
  match op with
  | .exists | notExists => false
  | equal | notEqual => !actual.equals expected
  | contains | notContains | startsWith | endsWith => true
  | less | greater | lessOrEqual | greaterOrEqual =>
    actual.readNumber = .notNumber ||
      (expected.readNumber = .notNumber && actual.readNumber ≠ .tooLarge)

namespace Condition

variable {actual expected : Value} {name : String}

/-- An order operator writes its values out exactly if there is something to say about them. -/
theorem writesOut_eq_isSome {op : Operator} (hname : Operator.ofName? name = some op)
    (horder : op.isOrder = true) (hnull : actual ≠ .null) :
    op.writesOut actual expected = (warning? actual (.text name) expected).isSome := by
  have hpresent : actual.isNull = false := by
    cases actual with
    | null => exact absurd rfl hnull
    | _ => rfl
  have hwrites : op.writesOut actual expected = (actual.readNumber = .notNumber ||
      (expected.readNumber = .notNumber && actual.readNumber ≠ .tooLarge) : Bool) := by
    cases op with
    | less => rfl
    | greater => rfl
    | lessOrEqual => rfl
    | greaterOrEqual => rfl
    | _ => cases horder
  rw [hwrites]
  simp only [warning?, hpresent, hname, horder, Bool.true_and, Bool.false_eq_true, if_false]
  split
  next hwarns => exact hwarns
  next hquiet => exact Bool.eq_false_iff.mpr hquiet

/-- **A comparison oversteps a limit.** -/
inductive Oversteps (actual : Value) (name : String) (expected : Value) : Prop
  /-- It orders numbers, and comes to an integer beyond the binary64 numbers. -/
  | number (order : NamesOrder name) (beyond : ReadsBeyond actual expected)
  /-- It writes its two values out, one of which has too many digits for that. -/
  | text {op : Operator} (present : actual ≠ .null) (named : Operator.ofName? name = some op)
      (writes : op.writesOut actual expected = true)
      (long : actual.isShowable = false ∨ expected.isShowable = false)

/-- **Two values can be compared as numbers**: they stand for numbers, neither of which is NaN. -/
def AreNumbers (actual expected : Value) : Prop :=
  ∃ x y, actual.readNumber = .number x ∧ expected.readNumber = .number y ∧ x ≠ .nan ∧ y ≠ .nan

/-! ## Order operators -/

/-- **Comparing numbers** ends with a fault exactly if one of the values is too large when it is
read. -/
theorem compareNumbers_eq_error_iff {test : Binary64 → Binary64 → Bool} {fault : Fault} :
    compareNumbers test actual expected = .error fault ↔
      fault = .integerTooLarge ∧ ReadsBeyond actual expected := by
  have hreads : ReadsBeyond actual expected ↔ actual.readNumber = .tooLarge ∨
      (∃ x, actual.readNumber = .number x) ∧ expected.readNumber = .tooLarge := by
    rw [Value.readNumber_eq_tooLarge_iff, Value.readNumber_eq_tooLarge_iff]
    constructor
    · rintro (hbeyond | ⟨hnumber, hbeyond⟩)
      · exact .inl hbeyond
      · exact .inr ⟨⟨_, hnumber⟩, hbeyond⟩
    · rintro (hbeyond | ⟨⟨x, hnumber⟩, hbeyond⟩)
      · exact .actual hbeyond
      · exact .expected hnumber hbeyond
  rw [hreads, compareNumbers]
  cases actual.readNumber with
  | notNumber => simp
  | tooLarge => simp [eq_comm]
  | number x =>
    cases expected.readNumber with
    | notNumber => simp
    | tooLarge => simp [eq_comm]
    | number y => simp

/-- **A comparison of numbers that holds** is one of two numbers, if nothing precedes or follows
NaN. -/
theorem areNumbers_of_compareNumbers {test : Binary64 → Binary64 → Bool}
    (htest : ∀ x y, test x y = true → x ≠ .nan ∧ y ≠ .nan)
    (h : compareNumbers test actual expected = .ok true) : AreNumbers actual expected := by
  unfold compareNumbers at h
  split at h
  next => cases h
  next => cases h
  next => cases h
  next => cases h
  next x y hx hy =>
    obtain ⟨hx', hy'⟩ := htest x y (Except.ok.inj h)
    exact ⟨x, y, hx, hy, hx', hy'⟩

end Condition

namespace Binary64

/-- NaN is not less than anything, nor is anything less than NaN. -/
theorem ne_nan_of_lt {x y : Binary64} (h : lt x y = true) : x ≠ nan ∧ y ≠ nan := by
  constructor
  · rintro rfl
    rw [lt, compare?_nan_left] at h
    cases h
  · rintro rfl
    rw [lt, compare?_nan_right] at h
    cases h

/-- Nor is it equal to anything in the order. -/
theorem ne_nan_of_le {x y : Binary64} (h : le x y = true) : x ≠ nan ∧ y ≠ nan := by
  constructor
  · rintro rfl
    rw [le, compare?_nan_left] at h
    cases h
  · rintro rfl
    rw [le, compare?_nan_right] at h
    cases h

end Binary64

namespace Condition

variable {actual expected : Value} {name : String}

/-- **What an order operator comes to** on an actual value that is there: a comparison of numbers
that holds of numbers only. -/
theorem exists_compareNumbers {op : Operator} (horder : op.isOrder = true) :
    ∃ test : Binary64 → Binary64 → Bool, (∀ x y, test x y = true → x ≠ .nan ∧ y ≠ .nan) ∧
      ∀ actual expected, op.holdsOf actual expected = compareNumbers test actual expected := by
  cases op with
  | less => exact ⟨Binary64.lt, fun _ _ => Binary64.ne_nan_of_lt, fun _ _ => rfl⟩
  | greater =>
    exact ⟨fun x y => y.lt x, fun _ _ h => (Binary64.ne_nan_of_lt h).symm, fun _ _ => rfl⟩
  | lessOrEqual => exact ⟨Binary64.le, fun _ _ => Binary64.ne_nan_of_le, fun _ _ => rfl⟩
  | greaterOrEqual =>
    exact ⟨fun x y => y.le x, fun _ _ h => (Binary64.ne_nan_of_le h).symm, fun _ _ => rfl⟩
  | _ => cases horder

/-- An operator that does not order numbers is true or false of all values. -/
theorem exists_holdsOf {op : Operator} (horder : op.isOrder = false) (actual expected : Value) :
    ∃ met, op.holdsOf actual expected = .ok met := by
  cases op with
  | less => cases horder
  | greater => cases horder
  | lessOrEqual => cases horder
  | greaterOrEqual => cases horder
  | _ => exact ⟨_, rfl⟩

/-- Null is no number, and the value that it is compared with is not read. -/
theorem not_readsBeyond_null : ¬ ReadsBeyond .null expected := by
  rintro (⟨n, hn, -⟩ | ⟨hnumber, -⟩)
  · cases hn
  · cases hnumber

/-! ## All operators -/

/-- The name of an operator is one that orders numbers if the operator does. -/
theorem namesOrder_iff {op : Operator} (hname : Operator.ofName? name = some op) :
    NamesOrder name ↔ op.isOrder = true := by
  constructor
  · rintro ⟨op', hname', horder⟩
    obtain rfl : op = op' := Option.some.inj (hname.symm.trans hname')
    exact horder
  · intro horder
    exact ⟨op, hname, horder⟩

/-- The comparison under a name is that of the operator, on an actual value that is there. -/
theorem compare_of_named {op : Operator} (hname : Operator.ofName? name = some op)
    (hnull : actual ≠ .null) :
    compare actual (.text name) expected = op.holdsOf actual expected := by
  have hpresent : actual.isNull = false := by
    cases actual with
    | null => exact absurd rfl hnull
    | _ => rfl
  rw [compare, hname]
  dsimp only
  rw [Operator.holds, hpresent]
  rfl

/-- **An order operator has an outcome**, unless reading the values comes to an integer beyond the
binary64 numbers; it is false of values that cannot be compared as numbers. -/
theorem holdsOf_of_isOrder {op : Operator} (horder : op.isOrder = true)
    (actual expected : Value) :
    (ReadsBeyond actual expected → op.holdsOf actual expected = .error .integerTooLarge) ∧
    (¬ ReadsBeyond actual expected → ∃ met, op.holdsOf actual expected = .ok met ∧
      (¬ AreNumbers actual expected → met = false)) := by
  obtain ⟨test, htest, hholds⟩ := exists_compareNumbers horder
  rw [hholds]
  refine ⟨fun hbeyond => compareNumbers_eq_error_iff.mpr ⟨rfl, hbeyond⟩, fun hfree => ?_⟩
  cases hcompare : compareNumbers test actual expected with
  | error fault => exact absurd (compareNumbers_eq_error_iff.mp hcompare).2 hfree
  | ok met =>
    refine ⟨met, rfl, fun hnumbers => ?_⟩
    cases met with
    | false => rfl
    | true => exact absurd (areNumbers_of_compareNumbers htest hcompare) hnumbers

/-- Null satisfies no order operator. -/
theorem compare_null (name : String) (expected : Value) :
    ∃ met, compare .null (.text name) expected = .ok met ∧ (NamesOrder name → met = false) := by
  cases hname : Operator.ofName? name with
  | none => exact ⟨false, by rw [compare, hname], fun _ => rfl⟩
  | some op =>
    refine ⟨op == .notExists, by rw [compare, hname]; exact holds_null op expected, ?_⟩
    intro hnames
    have horder := (namesOrder_iff hname).mp hnames
    cases op with
    | notExists => cases horder
    | _ => rfl

/-- **A comparison has an outcome, unless it oversteps a limit.** Under every name, of an operator
or not, two values compare as true or false; an order operator fails on an integer beyond the
binary64 numbers, and is false of values that cannot be compared as numbers. Nothing is said of
values that are to be written out with too many digits. -/
theorem compare_unless_oversteps (actual : Value) (name : String) (expected : Value) :
    (NamesOrder name → ReadsBeyond actual expected →
      compare actual (.text name) expected = .error .integerTooLarge) ∧
    (¬ Oversteps actual name expected →
      ∃ met, compare actual (.text name) expected = .ok met ∧
        (NamesOrder name → ¬ AreNumbers actual expected → met = false)) := by
  by_cases hnull : actual = .null
  · subst hnull
    obtain ⟨met, hmet, hfalse⟩ := compare_null name expected
    exact ⟨fun _ hbeyond => absurd hbeyond not_readsBeyond_null,
      fun _ => ⟨met, hmet, fun hnames _ => hfalse hnames⟩⟩
  cases hname : Operator.ofName? name with
  | none =>
    -- an unknown name is false of everything
    refine ⟨?_, fun _ => ⟨false, by rw [compare, hname], fun _ _ => rfl⟩⟩
    rintro ⟨op, hop, -⟩
    rw [hname] at hop
    cases hop
  | some op =>
    rw [compare_of_named hname hnull]
    by_cases horder : NamesOrder name
    · obtain ⟨hfault, hmet⟩ :=
        holdsOf_of_isOrder ((namesOrder_iff hname).mp horder) actual expected
      refine ⟨fun _ => hfault, fun hfree => ?_⟩
      obtain ⟨met, hholds, hfalse⟩ := hmet fun hbeyond => hfree (.number horder hbeyond)
      exact ⟨met, hholds, fun _ => hfalse⟩
    · have hother : op.isOrder = false :=
        Bool.eq_false_iff.mpr fun hop => horder ((namesOrder_iff hname).mpr hop)
      obtain ⟨met, hmet⟩ := exists_holdsOf hother actual expected
      exact ⟨fun hnames => absurd hnames horder,
        fun _ => ⟨met, hmet, fun hnames => absurd hnames horder⟩⟩

/-- **An integer of 401 digits is compared with one by a fault**, on either side. -/
theorem faults_on_beyond :
    compare (.int (Nat.pow 10 400)) (.text "<") (.int 1) = .error .integerTooLarge ∧
      compare (.int 1) (.text ">=") (.int (Nat.pow 10 400)) = .error .integerTooLarge := by
  have hbeyond : (Value.int (Nat.pow 10 400)).IsBeyond := ⟨_, rfl, by decide +kernel⟩
  have hone : (Value.int 1).readNumber = .number (.roundRatio false 1 1) := by decide +kernel
  have hpresent : ∀ n : Int, Value.int n ≠ .null := fun n h => Value.noConfusion h
  have hless : Operator.ofName? "<" = some .less := rfl
  have hgreater : Operator.ofName? ">=" = some .greaterOrEqual := rfl
  rw [compare_of_named hless (hpresent _), compare_of_named hgreater (hpresent _)]
  exact ⟨(holdsOf_of_isOrder rfl _ _).1 (.actual hbeyond),
    (holdsOf_of_isOrder rfl _ _).1 (.expected hone hbeyond)⟩

end Condition

end Stepwise
