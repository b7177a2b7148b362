import Stepwise.Proofs.Binary64.Integers
import Mathlib.Algebra.Order.Field.Power
import Mathlib.Algebra.Order.Field.Rat
import Mathlib.Tactic.FieldSimp
import Mathlib.Tactic.Positivity

/-! # Rounding gives normalized numbers

The binary64 numbers that a ratio of naturals is rounded to are normalized (`roundRatio_isNormal`):
the mantissa fits 53 bits, and uses all of them unless the exponent is the least one.

`ratioLog2` finds the power of two just below the ratio (`ratioLog2_bounds`). The exponent is chosen
by it, so the scaled ratio has 53 bits before the point, or fewer at the least exponent, and
rounding adds one bit at most. All of that is said of rational numbers, where a power of two may
have any exponent (`cast_powTwo`). -/

namespace Stepwise.Binary64

/-! ## Ratios and powers of two -/

/-- The natural parts of a power of two and of its inverse make up the power. -/
theorem cast_powTwo (e : Int) : (powTwo e : ℚ) = 2 ^ e * powTwo (-e) := by
  obtain ⟨k, rfl | rfl⟩ := e.eq_nat_or_neg
  · have hnone : powTwo (-(k : Int)) = 1 := powTwo_of_nonpos (by omega)
    have hpow : powTwo (k : Int) = 2 ^ k := rfl
    rw [hnone, hpow, zpow_natCast]
    norm_num
  · have hnone : powTwo (-(k : Int)) = 1 := powTwo_of_nonpos (by omega)
    have hpow : powTwo (- -(k : Int)) = 2 ^ k := by
      rw [neg_neg]
      rfl
    rw [hnone, hpow, zpow_neg, zpow_natCast]
    push_cast
    rw [inv_mul_cancel₀ (by positivity)]

variable {n d k : Nat} {e : Int}

/-- **A multiple of a power of two is below a ratio** if it is so on the scale of naturals. -/
theorem scaled_le_iff (hd : d ≠ 0) :
    k * (d * powTwo e) ≤ n * powTwo (-e) ↔ (k * 2 ^ e : ℚ) ≤ n / d := by
  have hd' : (0 : ℚ) < d := by exact_mod_cast Nat.pos_of_ne_zero hd
  have hpow : (0 : ℚ) < powTwo (-e) := by exact_mod_cast powTwo_pos (-e)
  rw [le_div_iff₀ hd', ← mul_le_mul_iff_left₀ hpow, ← Nat.cast_le (α := ℚ)]
  push_cast
  rw [cast_powTwo e]
  have hscale : (k * 2 ^ e * d * powTwo (-e) : ℚ) = k * (d * (2 ^ e * powTwo (-e))) := by ring
  rw [hscale]

/-- A natural is between two powers of two. -/
theorem log2_bounds (hn : n ≠ 0) :
    (2 : ℚ) ^ (n.log2 : Int) ≤ n ∧ (n : ℚ) < 2 ^ (n.log2 + 1 : Int) := by
  constructor
  · rw [zpow_natCast]
    exact_mod_cast Nat.log2_self_le hn
  · have hlt : (n : ℚ) < 2 ^ (n.log2 + 1) := by exact_mod_cast Nat.lt_log2_self
    exact_mod_cast hlt

/-- **The power of two just below a ratio.** -/
theorem ratioLog2_bounds (hn : n ≠ 0) (hd : d ≠ 0) :
    (2 : ℚ) ^ ratioLog2 n d ≤ n / d ∧ (n / d : ℚ) < 2 ^ (ratioLog2 n d + 1) := by
  have hd' : (0 : ℚ) < d := by exact_mod_cast Nat.pos_of_ne_zero hd
  have htwo : (2 : ℚ) ≠ 0 := two_ne_zero
  obtain ⟨hn1, hn2⟩ := log2_bounds hn
  obtain ⟨hd1, hd2⟩ := log2_bounds hd
  -- the logarithms alone leave two powers to choose from
  have habove : (n / d : ℚ) < 2 ^ ((n.log2 : Int) - d.log2 + 1) := by
    rw [div_lt_iff₀ hd']
    calc (n : ℚ) < 2 ^ (n.log2 + 1 : Int) := hn2
      _ = 2 ^ ((n.log2 : Int) - d.log2 + 1) * 2 ^ (d.log2 : Int) := by
        rw [← zpow_add₀ htwo]
        congr 1
        ring
      _ ≤ 2 ^ ((n.log2 : Int) - d.log2 + 1) * d := by gcongr
  have hbelow : (2 : ℚ) ^ ((n.log2 : Int) - d.log2 - 1) ≤ n / d := by
    rw [le_div_iff₀ hd']
    calc (2 : ℚ) ^ ((n.log2 : Int) - d.log2 - 1) * d
        ≤ 2 ^ ((n.log2 : Int) - d.log2 - 1) * 2 ^ (d.log2 + 1 : Int) := by gcongr
      _ = 2 ^ (n.log2 : Int) := by
        rw [← zpow_add₀ htwo]
        congr 1
        ring
      _ ≤ n := hn1
  have hchoice : n * powTwo (-((n.log2 : Int) - d.log2)) < d * powTwo ((n.log2 : Int) - d.log2) ↔
      (n / d : ℚ) < 2 ^ ((n.log2 : Int) - d.log2) := by
    have hle := scaled_le_iff (n := n) (k := 1) (e := (n.log2 : Int) - d.log2) hd
    rw [one_mul, Nat.cast_one, one_mul] at hle
    rw [← not_le, hle, not_le]
  unfold ratioLog2
  dsimp only
  split
  next h =>
    rw [sub_add_cancel]
    exact ⟨hbelow, hchoice.mp h⟩
  next h => exact ⟨not_lt.mp (hchoice.not.mp h), habove⟩

/-! ## The rounded number -/

/-- A quotient is rounded to the least bound of the ratio, at least. -/
theorem le_divideToEven (hd : 0 < d) (h : k * d ≤ n) : k ≤ divideToEven n d := by
  have hmono := divideToEven_mono h d
  rwa [divideToEven_mul k hd] at hmono

/-- A quotient is rounded to the greatest bound of the ratio, at most. -/
theorem divideToEven_le (hd : 0 < d) (h : n ≤ k * d) : divideToEven n d ≤ k := by
  have hmono := divideToEven_mono h d
  rwa [divideToEven_mul k hd] at hmono

/-- **The mantissa of a rounded ratio**: at most `2 ^ 53`, and at least `2 ^ 52` unless the exponent
is the least one. -/
theorem mantissa_bounds (hn : n ≠ 0) (hd : d ≠ 0)
    (he : e = max (ratioLog2 n d - 52) minExponent) :
    divideToEven (n * powTwo (-e)) (d * powTwo e) ≤ Nat.pow 2 53 ∧
      (Nat.pow 2 52 ≤ divideToEven (n * powTwo (-e)) (d * powTwo e) ∨ e = minExponent) := by
  obtain ⟨hbelow, habove⟩ := ratioLog2_bounds hn hd
  have hscale : 0 < d * powTwo e := Nat.mul_pos (Nat.pos_of_ne_zero hd) (powTwo_pos e)
  have hpow (j : Nat) : ((Nat.pow 2 j : Nat) * 2 ^ e : ℚ) = 2 ^ (j + e : Int) := by
    have hcast : ((Nat.pow 2 j : Nat) : ℚ) = 2 ^ (j : Int) := by
      rw [zpow_natCast]
      exact_mod_cast rfl
    rw [hcast, ← zpow_add₀ two_ne_zero]
  constructor
  · refine divideToEven_le hscale (Nat.le_of_lt (not_le.mp ?_))
    rw [scaled_le_iff hd, hpow, not_le]
    refine habove.trans_le (zpow_le_zpow_right₀ one_le_two ?_)
    omega
  · rcases le_total minExponent (ratioLog2 n d - 52) with hleast | hleast
    · refine .inl (le_divideToEven hscale ?_)
      rw [scaled_le_iff hd, hpow]
      refine le_trans (zpow_le_zpow_right₀ one_le_two ?_) hbelow
      omega
    · exact .inr (by omega)

/-- **Rounding gives normalized numbers.** -/
theorem roundRatio_isNormal (negative : Bool) (n : Nat) (hd : d ≠ 0) :
    (roundRatio negative n d).IsNormal := by
  unfold roundRatio
  split
  · exact ⟨by decide, le_rfl, by decide, .inr rfl⟩
  next hn =>
    obtain ⟨hfits, hfull⟩ := mantissa_bounds hn hd rfl
    dsimp only
    generalize hexponent : max (ratioLog2 n d - 52) minExponent = exponent at hfits hfull ⊢
    generalize divideToEven _ _ = mantissa at hfits hfull ⊢
    have hleast : minExponent ≤ exponent := by omega
    by_cases hcarry : mantissa = Nat.pow 2 53
    · -- one bit more than fits, which is a power of two, so the exponent takes it over
      rw [if_pos hcarry]
      split
      · trivial
      next hgreatest =>
        have hfew : Nat.pow 2 52 < Nat.pow 2 53 := by decide
        have hmore : minExponent ≤ exponent + 1 := by omega
        exact ⟨hfew, hmore, not_lt.mp hgreatest, .inl le_rfl⟩
    · rw [if_neg hcarry]
      split
      · trivial
      next hgreatest =>
        exact ⟨lt_of_le_of_ne hfits hcarry, hleast, not_lt.mp hgreatest, hfull⟩

end Stepwise.Binary64
