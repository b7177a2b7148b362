import Stepwise.Binary64
import Mathlib.Algebra.Order.Ring.Int
import Mathlib.Tactic.Linarith
import Mathlib.Tactic.Ring

/-! # Integers as binary64 numbers

An integer is read as the binary64 number nearest to it. That number is an integer again, as long as
it is finite: `Binary64.nearest` gives it for a natural number, on the grid of the numbers that have
the same number of bits (`gap`), and `nearestInt` for an integer.

* `ofInt?_eq_none_iff`: an integer has a nearest binary64 number if its magnitude is below
  `overflow`, and none from there on.
* `isInteger_of_ofInt?`: what an integer is read as has the value of the rounded integer, and such
  numbers compare as these (`IsInteger.compare?_eq`).
* `nearestInt_mono`: rounding keeps the order, though not strictly; integers of at most 53 bits,
  and these times a power of two, are not rounded at all (`nearest_eq_self`), and no integer is
  moved by more than one part in `2 ^ 53` (`dist_nearestInt_le`). -/

namespace Stepwise.Binary64

/-! ## Comparing by value -/

/-- **A binary64 number is an integer**: the finite number with the value of the integer. -/
def IsInteger (x : Binary64) (value : Int) : Prop :=
  ∃ negative mantissa exponent, x = finite negative mantissa exponent ∧
    signed negative mantissa * powTwo exponent = value * powTwo (-exponent)

/-- A power of two is positive. -/
theorem powTwo_pos (e : Int) : 0 < powTwo e := Nat.two_pow_pos e.toNat

/-- Powers of two grow with the exponent. -/
theorem powTwo_mono {p q : Int} (h : p ≤ q) : powTwo p ≤ powTwo q :=
  Nat.pow_le_pow_right Nat.two_pos (Int.toNat_le_toNat h)

/-- A number brought to a smaller exponent keeps its value. -/
theorem scaled_eq {m p least value : Int} (h : m * powTwo p = value * powTwo (-p))
    (hle : least ≤ p) : m * powTwo (p - least) * powTwo least = value * powTwo (-least) := by
  -- the exponents on both sides differ by as much as those of `p` itself
  have hexponents : powTwo (p - least) * powTwo least * powTwo (-p) =
      powTwo (-least) * powTwo p := by
    simp only [powTwo, Nat.pow_eq, ← Nat.pow_add]
    congr 1
    omega
  have hexponents' : (powTwo (p - least) * powTwo least * powTwo (-p) : Int) =
      powTwo (-least) * powTwo p := by
    exact_mod_cast hexponents
  have hpos : (powTwo (-p) : Int) ≠ 0 := by
    have := powTwo_pos (-p)
    omega
  refine mul_right_cancel₀ hpos ?_
  calc m * powTwo (p - least) * powTwo least * powTwo (-p)
      = m * (powTwo (p - least) * powTwo least * powTwo (-p)) := by ring
    _ = m * powTwo p * powTwo (-least) := by rw [hexponents']; ring
    _ = value * powTwo (-least) * powTwo (-p) := by rw [h]; ring

/-- **Binary64 numbers that are integers compare as these.** -/
theorem IsInteger.compare?_eq {x y : Binary64} {u v : Int} (hx : IsInteger x u)
    (hy : IsInteger y v) : compare? x y = some (compare u v) := by
  obtain ⟨a, m, p, rfl, hu⟩ := hx
  obtain ⟨b, n, q, rfl, hv⟩ := hy
  have hu' := scaled_eq hu (min_le_left p q)
  have hv' := scaled_eq hv (min_le_right p q)
  have hleast : (0 : Int) < powTwo (min p q) := by exact_mod_cast powTwo_pos _
  have hvalue : (0 : Int) < powTwo (-min p q) := by exact_mod_cast powTwo_pos _
  rw [compare?, compareDyadic, ← cmp_eq_compare, ← cmp_eq_compare, ← cmp_mul_pos_right hleast, hu',
    hv', cmp_mul_pos_right hvalue]

/-! ## Dividing to the even quotient -/

/-- **A quotient is rounded down or up**, up only from one half on. -/
theorem divideToEven_cases (n d : Nat) :
    (divideToEven n d = n / d ∧ 2 * (n % d) ≤ d) ∨
      (divideToEven n d = n / d + 1 ∧ d ≤ 2 * (n % d)) := by
  unfold divideToEven
  dsimp only
  split
  next hup =>
    simp only [Bool.or_eq_true, Bool.and_eq_true, decide_eq_true_eq, beq_iff_eq] at hup
    exact .inr ⟨rfl, by omega⟩
  next hdown =>
    simp only [Bool.or_eq_true, Bool.and_eq_true, decide_eq_true_eq, beq_iff_eq] at hdown
    exact .inl ⟨rfl, by omega⟩

/-- A multiple is divided exactly. -/
theorem divideToEven_mul (k : Nat) {d : Nat} (hd : 0 < d) : divideToEven (k * d) d = k := by
  have hquotient : k * d / d = k := Nat.mul_div_cancel k hd
  have hremainder : k * d % d = 0 := Nat.mul_mod_left k d
  rcases divideToEven_cases (k * d) d with ⟨heq, -⟩ | ⟨-, hhalf⟩
  · rw [heq, hquotient]
  · omega

/-- Dividing by one changes nothing. -/
@[simp] theorem divideToEven_one (n : Nat) : divideToEven n 1 = n := by
  have hexact := divideToEven_mul n Nat.one_pos
  rwa [Nat.mul_one] at hexact

/-- **Dividing to the even quotient keeps the order.** -/
theorem divideToEven_mono {m n : Nat} (h : m ≤ n) (d : Nat) :
    divideToEven m d ≤ divideToEven n d := by
  have hquotients : m / d ≤ n / d := Nat.div_le_div_right h
  rcases Nat.lt_or_eq_of_le hquotients with hlt | heq
  · -- the lower quotient is rounded up at most to the other one
    rcases divideToEven_cases m d with ⟨hm, -⟩ | ⟨hm, -⟩ <;>
      rcases divideToEven_cases n d with ⟨hn, -⟩ | ⟨hn, -⟩ <;> omega
  · -- with one quotient, the greater remainder is rounded up if the lower one is
    have hm := Nat.div_add_mod m d
    have hn := Nat.div_add_mod n d
    rw [heq] at hm
    have hremainders : m % d ≤ n % d := by omega
    unfold divideToEven
    dsimp only
    rw [heq]
    split
    next hup =>
      rw [if_pos]
      simp only [Bool.or_eq_true, Bool.and_eq_true, decide_eq_true_eq, beq_iff_eq] at hup ⊢
      omega
    next => split <;> omega

/-- **The rounded quotient is off by half a divisor at most.** -/
theorem dist_divideToEven_le (n : Nat) {d : Nat} (hd : 0 < d) :
    2 * ((n : Int) - (divideToEven n d * d : Nat)).natAbs ≤ d := by
  have hn := Nat.div_add_mod n d
  have hlt := Nat.mod_lt n hd
  rw [Nat.mul_comm] at hn
  rcases divideToEven_cases n d with ⟨heq, hhalf⟩ | ⟨heq, hhalf⟩
  · rw [heq]
    omega
  · have hsucc : (n / d + 1) * d = n / d * d + d := Nat.succ_mul _ _
    rw [heq, hsucc]
    omega

/-! ## The nearest number on the grid -/

/-- How far apart the binary64 numbers are that have as many bits as `n`. -/
def gap (n : Nat) : Nat := Nat.pow 2 (n.log2 - 52)

/-- The multiple of the gap that is nearest to `n`, a tie going to the even one. -/
def nearest (n : Nat) : Nat := divideToEven n (gap n) * gap n

/-- Neighbours are apart. -/
theorem gap_pos (n : Nat) : 0 < gap n := Nat.two_pow_pos _

/-- Below `2 ^ 53` the gap is one. -/
theorem gap_eq_one {n : Nat} (h : n.log2 ≤ 52) : gap n = 1 := by
  rw [gap, Nat.sub_eq_zero_of_le h]

/-- **Below `2 ^ 53` nothing is rounded.** -/
theorem nearest_eq_self_of_log2_le {n : Nat} (h : n.log2 ≤ 52) : nearest n = n := by
  rw [nearest, gap_eq_one h, divideToEven_one, Nat.mul_one]

/-- The powers of two around a number, counted in gaps. -/
theorem pow_log2_eq {n : Nat} (h : 52 ≤ n.log2) :
    Nat.pow 2 n.log2 = Nat.pow 2 52 * gap n ∧
      Nat.pow 2 (n.log2 + 1) = Nat.pow 2 53 * gap n := by
  have hsplit : n.log2 = 52 + (n.log2 - 52) := by omega
  have hsplit' : n.log2 + 1 = 53 + (n.log2 - 52) := by omega
  constructor
  · conv_lhs => rw [hsplit]
    exact Nat.pow_add 2 52 _
  · rw [hsplit']
    exact Nat.pow_add 2 53 _

/-- From `2 ^ 53` on, a number lies between `2 ^ 52` and `2 ^ 53` gaps. -/
theorem gap_bounds {n : Nat} (h : 52 ≤ n.log2) :
    Nat.pow 2 52 * gap n ≤ n ∧ n < Nat.pow 2 53 * gap n := by
  have hne : n ≠ 0 := by
    rintro rfl
    exact absurd h (by decide)
  obtain ⟨hlow, hhigh⟩ := pow_log2_eq h
  rw [← hlow, ← hhigh]
  exact ⟨Nat.log2_self_le hne, Nat.lt_log2_self⟩

/-- **The rounded mantissa** has 53 bits, or is the power of two behind them. -/
theorem divideToEven_gap_bounds {n : Nat} (h : 52 ≤ n.log2) :
    Nat.pow 2 52 ≤ divideToEven n (gap n) ∧ divideToEven n (gap n) ≤ Nat.pow 2 53 := by
  obtain ⟨hlow, hhigh⟩ := gap_bounds h
  have hlow' := divideToEven_mono hlow (gap n)
  have hhigh' := divideToEven_mono (Nat.le_of_lt hhigh) (gap n)
  rw [divideToEven_mul _ (gap_pos n)] at hlow' hhigh'
  exact ⟨hlow', hhigh'⟩

/-- A rounded number has as many bits as before, or is the power of two behind them. -/
theorem nearest_bounds {n : Nat} (h : n ≠ 0) :
    Nat.pow 2 n.log2 ≤ nearest n ∧ nearest n ≤ Nat.pow 2 (n.log2 + 1) := by
  by_cases hlog : n.log2 ≤ 52
  · rw [nearest_eq_self_of_log2_le hlog]
    exact ⟨Nat.log2_self_le h, Nat.le_of_lt Nat.lt_log2_self⟩
  · obtain ⟨hlow, hhigh⟩ := divideToEven_gap_bounds (n := n) (by omega)
    obtain ⟨hpow, hpow'⟩ := pow_log2_eq (n := n) (by omega)
    rw [hpow, hpow']
    exact ⟨Nat.mul_le_mul_right _ hlow, Nat.mul_le_mul_right _ hhigh⟩

/-- **Rounding keeps the order.** -/
theorem nearest_mono {m n : Nat} (h : m ≤ n) : nearest m ≤ nearest n := by
  by_cases hm : m = 0
  · rw [hm, nearest_eq_self_of_log2_le (by decide)]
    exact Nat.zero_le _
  have hn : n ≠ 0 := by omega
  have hlog : m.log2 ≤ n.log2 := (Nat.le_log2 hn).mpr (Nat.le_trans (Nat.log2_self_le hm) h)
  rcases Nat.lt_or_eq_of_le hlog with hlt | heq
  · -- a power of two stands between the two
    calc nearest m ≤ Nat.pow 2 (m.log2 + 1) := (nearest_bounds hm).2
      _ ≤ Nat.pow 2 n.log2 := Nat.pow_le_pow_right (by decide) hlt
      _ ≤ nearest n := (nearest_bounds hn).1
  · -- both are on one grid
    have hgap : gap m = gap n := by rw [gap, gap, heq]
    rw [nearest, nearest, hgap]
    exact Nat.mul_le_mul_right _ (divideToEven_mono h _)

/-- A multiple of the gap is not rounded. -/
theorem nearest_eq_self_of_dvd {n : Nat} (h : gap n ∣ n) : nearest n = n := by
  have hexact : divideToEven n (gap n) = n / gap n := by
    have hmul := divideToEven_mul (n / gap n) (gap_pos n)
    rwa [Nat.div_mul_cancel h] at hmul
  rw [nearest, hexact, Nat.div_mul_cancel h]

/-- **A number of 53 bits, times a power of two, is not rounded**, and neither is `2 ^ 53` times a
power of two. -/
theorem nearest_eq_self {m k : Nat} (h : m ≤ Nat.pow 2 53) :
    nearest (m * Nat.pow 2 k) = m * Nat.pow 2 k := by
  have hpow : ∀ e, nearest (Nat.pow 2 e) = Nat.pow 2 e := by
    intro e
    refine nearest_eq_self_of_dvd ?_
    rw [gap, Nat.pow_eq, Nat.pow_eq, Nat.log2_two_pow]
    exact Nat.pow_dvd_pow 2 (Nat.sub_le e 52)
  rcases Nat.lt_or_eq_of_le h with hlt | rfl
  · by_cases hm : m = 0
    · rw [hm, Nat.zero_mul]
      exact nearest_eq_self_of_log2_le (by decide)
    · refine nearest_eq_self_of_dvd (Dvd.dvd.mul_left ?_ m)
      -- the bits of the product are those of `m` and `k` more
      have hlog : (m * Nat.pow 2 k).log2 < 53 + k := by
        refine (Nat.log2_lt ?_).mpr ?_
        · exact Nat.mul_ne_zero hm (Nat.ne_of_gt (Nat.two_pow_pos k))
        · rw [Nat.pow_add]
          exact Nat.mul_lt_mul_of_pos_right hlt (Nat.two_pow_pos k)
      exact Nat.pow_dvd_pow 2 (by omega)
  · have hproduct : Nat.pow 2 53 * Nat.pow 2 k = Nat.pow 2 (53 + k) := (Nat.pow_add 2 53 k).symm
    rw [hproduct, hpow]

/-- **No number is moved by more than one part in `2 ^ 53`.** -/
theorem dist_nearest_le (n : Nat) :
    Nat.pow 2 53 * ((n : Int) - nearest n).natAbs ≤ n := by
  by_cases hlog : n.log2 ≤ 52
  · rw [nearest_eq_self_of_log2_le hlog]
    simp
  · have hlow := (gap_bounds (n := n) (by omega)).1
    have hdist := dist_divideToEven_le n (gap_pos n)
    have hdouble : Nat.pow 2 53 = Nat.pow 2 52 * 2 := rfl
    calc Nat.pow 2 53 * ((n : Int) - nearest n).natAbs
        = Nat.pow 2 52 * (2 * ((n : Int) - nearest n).natAbs) := by rw [hdouble, Nat.mul_assoc]
      _ ≤ Nat.pow 2 52 * gap n := Nat.mul_le_mul_left _ hdist
      _ ≤ n := hlow

/-! ## Mantissas -/

/-- A power of two with an exponent that is not positive counts as one. -/
theorem powTwo_of_nonpos {e : Int} (h : e ≤ 0) : powTwo e = 1 := by
  rw [powTwo, Int.toNat_of_nonpos h]

/-- The next power of two is the double. -/
theorem powTwo_succ {e : Int} (h : 0 ≤ e) : powTwo (e + 1) = 2 * powTwo e := by
  have hnat : (e + 1).toNat = e.toNat + 1 := by omega
  rw [powTwo, powTwo, hnat, Nat.mul_comm]
  rfl

/-- Half the mantissa with the next exponent has the same value. -/
theorem value_succ {m v : Nat} {e : Int} (h : 2 * m * powTwo e = v * powTwo (-e)) :
    m * powTwo (e + 1) = v * powTwo (-(e + 1)) := by
  by_cases hpos : 0 ≤ e
  · have hone : powTwo (-e) = 1 := powTwo_of_nonpos (by omega)
    have hone' : powTwo (-(e + 1)) = 1 := powTwo_of_nonpos (by omega)
    rw [hone, Nat.mul_one] at h
    rw [hone', Nat.mul_one, powTwo_succ hpos, ← h]
    ring
  · have hdouble : powTwo (-e) = 2 * powTwo (-(e + 1)) := by
      have hsucc : -e = -(e + 1) + 1 := by omega
      rw [hsucc, powTwo_succ (by omega)]
    have hone : powTwo e = 1 := powTwo_of_nonpos (by omega)
    have hone' : powTwo (e + 1) = 1 := powTwo_of_nonpos (by omega)
    rw [hone, hdouble, Nat.mul_one] at h
    rw [hone', Nat.mul_one]
    linarith

/-- The mantissa of an integer as it is rounded: 53 bits, or the power of two behind them. -/
def roundedMantissa (n : Nat) : Nat := divideToEven (n * Nat.pow 2 (52 - n.log2)) (gap n)

/-- What the mantissa of an integer is worth. -/
theorem roundedMantissa_mul_gap (n : Nat) :
    roundedMantissa n * gap n = nearest n * Nat.pow 2 (52 - n.log2) := by
  by_cases hlog : n.log2 ≤ 52
  · rw [roundedMantissa, gap_eq_one hlog, divideToEven_one, nearest_eq_self_of_log2_le hlog,
      Nat.mul_one]
  · have hscale : Nat.pow 2 (52 - n.log2) = 1 := by
      rw [Nat.sub_eq_zero_of_le (by omega)]
    rw [roundedMantissa, hscale, Nat.mul_one, Nat.mul_one, nearest]

/-- **The mantissa of an integer as it is rounded** lies between `2 ^ 52` and `2 ^ 53`. -/
theorem roundedMantissa_bounds {n : Nat} (h : n ≠ 0) :
    Nat.pow 2 52 ≤ roundedMantissa n ∧ roundedMantissa n ≤ Nat.pow 2 53 := by
  by_cases hlog : n.log2 ≤ 52
  · have hlow : Nat.pow 2 52 = Nat.pow 2 n.log2 * Nat.pow 2 (52 - n.log2) := by
      simp only [Nat.pow_eq, ← Nat.pow_add]
      congr 1
      omega
    have hhigh : Nat.pow 2 53 = Nat.pow 2 (n.log2 + 1) * Nat.pow 2 (52 - n.log2) := by
      simp only [Nat.pow_eq, ← Nat.pow_add]
      congr 1
      omega
    rw [roundedMantissa, gap_eq_one hlog, divideToEven_one, hlow, hhigh]
    exact ⟨Nat.mul_le_mul_right _ (Nat.log2_self_le h),
      Nat.mul_le_mul_right _ (Nat.le_of_lt Nat.lt_log2_self)⟩
  · have hscale : Nat.pow 2 (52 - n.log2) = 1 := by
      rw [Nat.sub_eq_zero_of_le (by omega)]
    rw [roundedMantissa, hscale, Nat.mul_one]
    exact divideToEven_gap_bounds (by omega)

/-- **The mantissa and the exponent** of the binary64 number nearest to `n`, whether or not the
exponent is one of the format. -/
structure Shape (n mantissa : Nat) (exponent : Int) : Prop where
  /-- The mantissa uses all of its bits. -/
  low : Nat.pow 2 52 ≤ mantissa
  /-- The mantissa fits 53 bits. -/
  high : mantissa < Nat.pow 2 53
  /-- Its value is the nearest number. -/
  value : mantissa * powTwo exponent = nearest n * powTwo (-exponent)

/-- The exponent of an integer is the place of its highest bit. -/
theorem ratioLog2_one {n : Nat} (h : n ≠ 0) : ratioLog2 n 1 = n.log2 := by
  have hone : Nat.log2 1 = 0 := by decide
  have hpow : ¬ n < powTwo n.log2 := Nat.not_lt.mpr (Nat.log2_self_le h)
  rw [ratioLog2, hone]
  simp only [Nat.cast_zero, sub_zero, powTwo_of_nonpos (Int.neg_nonpos_of_nonneg
    (Int.natCast_nonneg n.log2)), Nat.mul_one, Nat.one_mul]
  rw [if_neg hpow]

/-- **A positive integer is rounded to the nearest number**, or to infinity if the exponent of that
is too large. -/
theorem exists_shape {n : Nat} (h : n ≠ 0) : ∃ mantissa exponent, Shape n mantissa exponent ∧
    ∀ negative, roundRatio negative n 1 =
      if maxExponent < exponent then infinite negative
      else finite negative mantissa exponent := by
  obtain ⟨e, he⟩ : ∃ e : Int, e = n.log2 - 52 := ⟨_, rfl⟩
  have hexponent : max (ratioLog2 n 1 - 52) minExponent = e := by
    rw [ratioLog2_one h, minExponent]
    omega
  have hgap : powTwo e = gap n := by
    rw [powTwo, gap]
    congr 1
    omega
  have hscale : powTwo (-e) = Nat.pow 2 (52 - n.log2) := by
    rw [powTwo]
    congr 1
    omega
  have hvalue : roundedMantissa n * powTwo e = nearest n * powTwo (-e) := by
    rw [hgap, hscale, roundedMantissa_mul_gap]
  have hround : ∀ negative, roundRatio negative n 1 =
      if maxExponent < (if roundedMantissa n = Nat.pow 2 53 then e + 1 else e) then
        infinite negative
      else finite negative
        (if roundedMantissa n = Nat.pow 2 53 then Nat.pow 2 52 else roundedMantissa n)
        (if roundedMantissa n = Nat.pow 2 53 then e + 1 else e) := by
    intro negative
    rw [roundRatio, if_neg h]
    dsimp only
    rw [hexponent, hscale, hgap, Nat.one_mul, ← roundedMantissa]
    split <;> rfl
  obtain ⟨hlow, hhigh⟩ := roundedMantissa_bounds h
  by_cases hcarry : roundedMantissa n = Nat.pow 2 53
  · -- the carry halves the mantissa and raises the exponent
    rw [hcarry] at hvalue
    refine ⟨Nat.pow 2 52, e + 1, ⟨Nat.le_refl _, by decide, value_succ hvalue⟩, ?_⟩
    intro negative
    rw [hround, if_pos hcarry, if_pos hcarry]
  · refine ⟨roundedMantissa n, e, ⟨hlow, by omega, hvalue⟩, ?_⟩
    intro negative
    rw [hround, if_neg hcarry, if_neg hcarry]

/-- The exponent of a shape is no greater than that of another one of the same value. -/
theorem Shape.exponent_le {n n' m m' : Nat} {e e' : Int} (h : Shape n m e) (h' : Shape n' m' e')
    (heq : nearest n = nearest n') : e ≤ e' := by
  by_contra hlt
  have hvalue : (m * powTwo e : Int) = nearest n' * powTwo (-e) := by
    exact_mod_cast heq ▸ h.value
  have hvalue' : (m' * powTwo e' : Int) = nearest n' * powTwo (-e') := by
    exact_mod_cast h'.value
  -- with the smaller exponent, the other mantissa would need a bit more
  have hscaled := scaled_eq hvalue (Int.le_of_lt (Int.not_le.mp hlt))
  have hmantissas : (m * powTwo (e - e') : Int) = m' := by
    refine mul_right_cancel₀ (b := (powTwo e' : Int)) ?_ (hscaled.trans hvalue'.symm)
    exact_mod_cast Nat.ne_of_gt (powTwo_pos e')
  have hmantissas' : m * powTwo (e - e') = m' := by exact_mod_cast hmantissas
  have htwo : powTwo 1 ≤ powTwo (e - e') := powTwo_mono (by omega)
  have hbig : Nat.pow 2 52 * powTwo 1 ≤ m * powTwo (e - e') := Nat.mul_le_mul h.low htwo
  have hhigh := h'.high
  rw [hmantissas'] at hbig
  exact absurd hhigh (Nat.not_lt.mpr hbig)

/-- **A number has one shape**: numbers that are rounded alike have the same one. -/
theorem Shape.unique {n n' m m' : Nat} {e e' : Int} (h : Shape n m e) (h' : Shape n' m' e')
    (heq : nearest n = nearest n') : m = m' ∧ e = e' := by
  obtain rfl : e = e' := le_antisymm (h.exponent_le h' heq) (h'.exponent_le h heq.symm)
  refine ⟨?_, rfl⟩
  refine Nat.eq_of_mul_eq_mul_right (powTwo_pos e) ?_
  rw [h.value, h'.value, heq]

/-- **The exponent is too large** if the nearest number is a power of two that has no place in the
format, or greater. -/
theorem Shape.maxExponent_lt_iff {n m : Nat} {e : Int} (h : Shape n m e) :
    maxExponent < e ↔ powTwo 1024 ≤ nearest n := by
  have hvalue := h.value
  constructor
  · intro hlarge
    have hpow : powTwo 972 ≤ powTwo e := by
      rw [maxExponent] at hlarge
      exact powTwo_mono (by omega)
    have hone : powTwo (-e) = 1 := by
      refine powTwo_of_nonpos ?_
      rw [maxExponent] at hlarge
      omega
    have hsplit : powTwo 1024 = Nat.pow 2 52 * powTwo 972 := by decide +kernel
    rw [hone, Nat.mul_one] at hvalue
    rw [← hvalue, hsplit]
    exact Nat.mul_le_mul h.low hpow
  · intro hbig
    by_contra hsmall
    have hpow : powTwo e ≤ powTwo 971 := by
      rw [maxExponent] at hsmall
      exact powTwo_mono (by omega)
    have hsplit : powTwo 1024 = Nat.pow 2 53 * powTwo 971 := by decide +kernel
    have hlt : nearest n < powTwo 1024 := by
      calc nearest n = nearest n * 1 := (Nat.mul_one _).symm
        _ ≤ nearest n * powTwo (-e) := Nat.mul_le_mul_left _ (powTwo_pos _)
        _ = m * powTwo e := hvalue.symm
        _ < Nat.pow 2 53 * powTwo e := Nat.mul_lt_mul_of_pos_right h.high (powTwo_pos e)
        _ ≤ Nat.pow 2 53 * powTwo 971 := Nat.mul_le_mul_left _ hpow
        _ = powTwo 1024 := hsplit.symm
    exact absurd hbig (Nat.not_le.mpr hlt)

/-! ## The end of the range -/

/-- The least magnitude whose nearest number is beyond the binary64 numbers: half way between the
greatest of them and the next power of two. -/
def overflow : Nat := Nat.pow 2 1024 - Nat.pow 2 970

/-- **The nearest number is beyond the binary64 numbers** from the overflow on. -/
theorem overflow_le_iff {n : Nat} : overflow ≤ n ↔ powTwo 1024 ≤ nearest n := by
  constructor
  · intro h
    have hlimit : powTwo 1024 ≤ nearest overflow := by decide +kernel
    exact Nat.le_trans hlimit (nearest_mono h)
  · intro h
    by_contra hlt
    have hbelow : nearest (overflow - 1) < powTwo 1024 := by decide +kernel
    have hmono : nearest n ≤ nearest (overflow - 1) := nearest_mono (by omega)
    omega

/-! ## Integers with a sign -/

/-- The integer that is nearest to `n` among those that are binary64 numbers, but for their
range. -/
def nearestInt (n : Int) : Int := signed (n < 0) (nearest n.natAbs)

/-- **What reading an integer comes to**: zero, or a number of the shape that its magnitude has,
unless it is too large. -/
theorem ofInt?_eq {n : Int} (h : n ≠ 0) : ∃ m e, Shape n.natAbs m e ∧
    ofInt? n = if overflow ≤ n.natAbs then none else some (finite (n < 0) m e) := by
  obtain ⟨m, e, hshape, hround⟩ := exists_shape (n := n.natAbs) (by omega)
  refine ⟨m, e, hshape, ?_⟩
  rw [ofInt?, hround]
  by_cases hlarge : overflow ≤ n.natAbs
  · rw [if_pos hlarge, if_pos (hshape.maxExponent_lt_iff.mpr (overflow_le_iff.mp hlarge))]
  · rw [if_neg hlarge,
      if_neg fun hexponent => hlarge (overflow_le_iff.mpr (hshape.maxExponent_lt_iff.mp hexponent))]

/-- **An integer is too large to be read** from the overflow on. -/
theorem ofInt?_eq_none_iff {n : Int} : ofInt? n = none ↔ overflow ≤ n.natAbs := by
  by_cases hzero : n = 0
  · subst hzero
    have hpos : ¬ overflow ≤ 0 := by decide +kernel
    exact ⟨nofun, fun hlarge => absurd hlarge hpos⟩
  · obtain ⟨m, e, -, heq⟩ := ofInt?_eq hzero
    rw [heq]
    split
    next hlarge => exact ⟨fun _ => hlarge, fun _ => rfl⟩
    next hsmall => exact ⟨nofun, fun hlarge => absurd hlarge hsmall⟩

/-- **An integer is read as the nearest one.** -/
theorem isInteger_of_ofInt? {n : Int} {x : Binary64} (h : ofInt? n = some x) :
    IsInteger x (nearestInt n) := by
  by_cases hzero : n = 0
  · subst hzero
    obtain rfl : zero false = x := Option.some.inj h
    exact ⟨false, 0, minExponent, rfl, by decide +kernel⟩
  · obtain ⟨m, e, hshape, heq⟩ := ofInt?_eq hzero
    rw [heq] at h
    split at h
    next => cases h
    next =>
      obtain rfl := Option.some.inj h
      refine ⟨_, m, e, rfl, ?_⟩
      have hvalue : (m * powTwo e : Int) = nearest n.natAbs * powTwo (-e) := by
        exact_mod_cast hshape.value
      rw [nearestInt]
      by_cases hneg : n < 0
      · simp only [signed, decide_eq_true hneg, if_true, neg_mul, hvalue]
      · simp only [signed, decide_eq_false hneg, Bool.false_eq_true, if_false, hvalue]

/-- **Rounding integers keeps the order.** -/
theorem nearestInt_mono {m n : Int} (h : m ≤ n) : nearestInt m ≤ nearestInt n := by
  rw [nearestInt, nearestInt, signed, signed]
  by_cases hm : m < 0
  · by_cases hn : n < 0
    · have hmono := nearest_mono (m := n.natAbs) (n := m.natAbs) (by omega)
      rw [if_pos (decide_eq_true hm), if_pos (decide_eq_true hn)]
      omega
    · rw [if_pos (decide_eq_true hm), if_neg (by simpa using hn)]
      omega
  · have hmono := nearest_mono (m := m.natAbs) (n := n.natAbs) (by omega)
    rw [if_neg (by simpa using hm), if_neg (by simpa using (by omega : 0 ≤ n))]
    omega

/-- **No integer is moved by more than one part in `2 ^ 53`.** -/
theorem dist_nearestInt_le (n : Int) :
    Nat.pow 2 53 * (n - nearestInt n).natAbs ≤ n.natAbs := by
  have hdist : (n - nearestInt n).natAbs = ((n.natAbs : Int) - nearest n.natAbs).natAbs := by
    rw [nearestInt, signed]
    by_cases hneg : n < 0
    · rw [if_pos (decide_eq_true hneg)]
      omega
    · rw [if_neg (by simpa using hneg)]
      omega
  rw [hdist]
  exact dist_nearest_le n.natAbs

/-- A number that is an integer is a certain one. -/
theorem IsInteger.unique {x : Binary64} {u v : Int} (hu : IsInteger x u) (hv : IsInteger x v) :
    u = v := by
  obtain ⟨a, m, e, rfl, hu⟩ := hu
  obtain ⟨_, _, _, heq, hv⟩ := hv
  obtain ⟨rfl, rfl, rfl⟩ := finite.inj heq
  refine mul_right_cancel₀ (b := (powTwo (-e) : Int)) ?_ (hu.symm.trans hv)
  exact_mod_cast Nat.ne_of_gt (powTwo_pos (-e))

/-- What is not zero is not rounded to zero. -/
theorem nearest_pos {n : Nat} (h : n ≠ 0) : 0 < nearest n :=
  Nat.lt_of_lt_of_le (Nat.two_pow_pos _) (nearest_bounds h).1

/-- Rounding keeps the sign, and rounds the magnitude. -/
theorem nearestInt_eq_iff {m n : Int} :
    nearestInt m = nearestInt n ↔
      (m < 0 ↔ n < 0) ∧ nearest m.natAbs = nearest n.natAbs := by
  have hsign : ∀ k : Int, nearestInt k < 0 ↔ k < 0 := by
    intro k
    rw [nearestInt, signed]
    by_cases hneg : k < 0
    · have hpos := nearest_pos (n := k.natAbs) (by omega)
      rw [if_pos (decide_eq_true hneg)]
      omega
    · rw [if_neg (by simpa using hneg)]
      omega
  have hmagnitude : ∀ k : Int, (nearestInt k).natAbs = nearest k.natAbs := by
    intro k
    rw [nearestInt, signed]
    split <;> omega
  have hm := hsign m
  have hn := hsign n
  have hm' := hmagnitude m
  have hn' := hmagnitude n
  constructor
  · intro heq
    rw [heq] at hm hm'
    exact ⟨hm.symm.trans hn, hm'.symm.trans hn'⟩
  · rintro ⟨hsigns, hmagnitudes⟩
    omega

/-- **Integers that are rounded alike are read alike**, and no others. -/
theorem ofInt?_eq_iff {m n : Int} (hm : m.natAbs < overflow) (hn : n.natAbs < overflow) :
    ofInt? m = ofInt? n ↔ nearestInt m = nearestInt n := by
  constructor
  · intro heq
    obtain ⟨x, hx⟩ := Option.ne_none_iff_exists'.mp fun hnone =>
      Nat.not_lt.mpr (ofInt?_eq_none_iff.mp hnone) hm
    exact (isInteger_of_ofInt? hx).unique (isInteger_of_ofInt? (heq ▸ hx))
  · intro heq
    obtain ⟨hsigns, hmagnitudes⟩ := nearestInt_eq_iff.mp heq
    by_cases hzero : m = 0
    · -- only zero is rounded to zero
      have hn : n = 0 := by
        by_contra hne
        have hpos := nearest_pos (n := n.natAbs) (by omega)
        rw [← hmagnitudes, hzero] at hpos
        exact absurd hpos (by decide +kernel)
      rw [hzero, hn]
    · have hzero' : n ≠ 0 := by
        rintro rfl
        have hpos := nearest_pos (n := m.natAbs) (by omega)
        rw [hmagnitudes] at hpos
        exact absurd hpos (by decide +kernel)
      obtain ⟨k, e, hshape, hread⟩ := ofInt?_eq hzero
      obtain ⟨k', e', hshape', hread'⟩ := ofInt?_eq hzero'
      obtain ⟨rfl, rfl⟩ := hshape.unique hshape' hmagnitudes
      rw [hread, hread', if_neg (by omega), if_neg (by omega), decide_eq_decide.mpr hsigns]

end Stepwise.Binary64
