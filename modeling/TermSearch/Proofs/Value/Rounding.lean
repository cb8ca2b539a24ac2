import Mathlib.Algebra.Order.Field.Power
import Mathlib.Data.Rat.Floor
import Mathlib.Tactic.Linarith
import Mathlib.Tactic.Positivity
import TermSearch.Value.Rounding

/-!
# Nearest Numbers

Rounding gives a number that none of those to choose from is nearer than. Among the numbers in
double precision, those that are multiples of the unit in the last place are judged as whole numbers
are. The others lie below the power of two that the fraction is not below, and that one is a
multiple.

## Main definitions

- `Rounding.IsDouble`: a number in double precision.

## Main statements

- `Rounding.toInteger_nearest`: no whole number is nearer.
- `Rounding.order_spec`: the powers of a base that a number lies between.
- `Rounding.isDouble_of_toDouble?_eq_some`, `Rounding.toDouble?_nearest`: rounding gives a number in
  double precision, and none is nearer.
-/

namespace TermSearch.Rounding

/-! ## Whole numbers -/

/-- Rounding changes a number by one half at most. -/
theorem toInteger_error (x : ℚ) : |(toInteger x : ℚ) - x| ≤ 1 / 2 := by
  have hlow : ((x.floor : ℤ) : ℚ) ≤ x := Rat.floor_le x
  have hhigh : x < (x.floor : ℚ) + 1 := by exact_mod_cast Rat.lt_floor_add_one x
  have hparity : x.floor % 2 = 0 ∨ x.floor % 2 = 1 := Int.emod_two_eq x.floor
  unfold toInteger
  dsimp only
  rw [abs_le]
  split_ifs with hbelow habove
  · constructor <;> linarith
  · push_cast
    constructor <;> linarith
  · push_cast
    rcases hparity with h | h <;> rw [h] <;> constructor <;> push_cast <;> linarith

/-- No whole number is nearer to a number than the one that it is rounded to. -/
theorem toInteger_nearest (x : ℚ) (k : ℤ) : |(toInteger x : ℚ) - x| ≤ |(k : ℚ) - x| := by
  by_cases hk : toInteger x = k
  · rw [hk]
  · have hapart : (1 : ℚ) ≤ |(toInteger x : ℚ) - k| := by
      have : (1 : ℤ) ≤ |toInteger x - k| := Int.one_le_abs (sub_ne_zero.mpr hk)
      exact_mod_cast this
    have herror := toInteger_error x
    have htriangle := abs_sub_le (toInteger x : ℚ) x k
    rw [abs_sub_comm x] at htriangle
    linarith

/-! ## Places -/

/-- The number of digits of a number says which powers of the base it lies between. -/
theorem pow_length_toDigits {base n : ℕ} (hbase : 2 ≤ base) (hn : 0 < n) :
    (base : ℚ) ^ (((Nat.toDigits base n).length : ℤ) - 1) ≤ n ∧
      (n : ℚ) < (base : ℚ) ^ ((Nat.toDigits base n).length : ℤ) := by
  have hpos : 0 < (Nat.toDigits base n).length := Nat.length_toDigits_pos
  have hlow : base ^ ((Nat.toDigits base n).length - 1) ≤ n := by
    rcases Nat.eq_or_lt_of_le (Nat.one_le_iff_ne_zero.mpr hpos.ne') with hone | hmore
    · rw [← hone]
      exact hn
    · refine not_lt.mp fun hlt => ?_
      have hle := (Nat.length_toDigits_le_iff (b := base) (n := n) hbase (by omega)).mpr hlt
      omega
  have hhigh : n < base ^ (Nat.toDigits base n).length :=
    (Nat.length_toDigits_le_iff hbase hpos).mp le_rfl
  constructor
  · have hpred : ((Nat.toDigits base n).length : ℤ) - 1 =
        ((Nat.toDigits base n).length - 1 : ℕ) := by omega
    rw [hpred, zpow_natCast]
    exact_mod_cast hlow
  · rw [zpow_natCast]
    exact_mod_cast hhigh

/-- The digits of the numerator and of the denominator leave two powers of the base that a positive
number may reach. -/
theorem between_pow_sizes {base : ℕ} (hbase : 2 ≤ base) {x : ℚ} (hx : 0 < x) :
    (base : ℚ) ^ (((Nat.toDigits base x.num.natAbs).length : ℤ) -
        (Nat.toDigits base x.den).length - 1) ≤ x ∧
      x < (base : ℚ) ^ (((Nat.toDigits base x.num.natAbs).length : ℤ) -
        (Nat.toDigits base x.den).length + 1) := by
  have hbase' : (base : ℚ) ≠ 0 := by exact_mod_cast (by omega : base ≠ 0)
  have hpos : (0 : ℚ) < base := by exact_mod_cast (by omega : 0 < base)
  have hnum : 0 < x.num.natAbs := Int.natAbs_pos.mpr (Rat.num_pos.mpr hx).ne'
  have hden : (0 : ℚ) < x.den := by exact_mod_cast x.den_pos
  have hfraction : x = (x.num.natAbs : ℚ) / x.den := by
    have hcast : ((x.num.natAbs : ℤ) : ℚ) = x.num := by
      rw [Int.natAbs_of_nonneg (Rat.num_pos.mpr hx).le]
    rw [← Int.cast_natCast, hcast, Rat.num_div_den]
  obtain ⟨hnumLow, hnumHigh⟩ := pow_length_toDigits hbase hnum
  obtain ⟨hdenLow, hdenHigh⟩ := pow_length_toDigits hbase x.den_pos
  generalize ((Nat.toDigits base x.num.natAbs).length : ℤ) = a at *
  generalize ((Nat.toDigits base x.den).length : ℤ) = b at *
  constructor
  · rw [hfraction, le_div_iff₀ hden]
    calc (base : ℚ) ^ (a - b - 1) * x.den
        ≤ (base : ℚ) ^ (a - b - 1) * (base : ℚ) ^ b := by gcongr
      _ = (base : ℚ) ^ (a - 1) := by
          rw [← zpow_add₀ hbase']
          congr 1
          omega
      _ ≤ x.num.natAbs := hnumLow
  · rw [hfraction, div_lt_iff₀ hden]
    calc (x.num.natAbs : ℚ) < (base : ℚ) ^ a := hnumHigh
      _ = (base : ℚ) ^ (a - b + 1) * (base : ℚ) ^ (b - 1) := by
          rw [← zpow_add₀ hbase']
          congr 1
          omega
      _ ≤ (base : ℚ) ^ (a - b + 1) * x.den := by gcongr

/-- The places of a positive number in front of the point say which powers of the base it lies
between. -/
theorem order_spec {base : ℕ} (hbase : 2 ≤ base) {x : ℚ} (hx : 0 < x) :
    (base : ℚ) ^ (order base x - 1) ≤ x ∧ x < (base : ℚ) ^ order base x := by
  obtain ⟨hlow, hhigh⟩ := between_pow_sizes hbase hx
  unfold order
  dsimp only
  split_ifs with hle
  · rw [add_sub_cancel_right]
    exact ⟨hle, hhigh⟩
  · exact ⟨hlow, not_le.mp hle⟩

/-! ## Double precision -/

/-- A number in double precision: a whole number of at most 53 binary digits, times a power of two
that is not too small. -/
def IsDouble (y : ℚ) : Prop :=
  ∃ m : ℕ, ∃ e : ℤ, m < 2 ^ 53 ∧ -1074 ≤ e ∧ y = m * 2 ^ e

/-- The exponent of the unit in the last place. -/
def unitExponent (x : ℚ) : ℤ :=
  max (order 2 x - 53) (-1074)

/-- A positive number is rounded to a multiple of the unit in the last place. -/
theorem eq_of_toDouble?_eq_some {x y : ℚ} (hx : 0 < x) (h : toDouble? x = some y) :
    y = toInteger (x / 2 ^ unitExponent x) * 2 ^ unitExponent x := by
  rw [toDouble?, if_neg hx.ne'] at h
  dsimp only at h
  split_ifs at h
  exact (Option.some.inj h).symm

/-- Among the multiples of the unit in the last place, none is nearer. -/
theorem multiple_nearest {x y : ℚ} (hx : 0 < x) (h : toDouble? x = some y) (k : ℤ) :
    |y - x| ≤ |(k : ℚ) * 2 ^ unitExponent x - x| := by
  have hunit : (0 : ℚ) < 2 ^ unitExponent x := by positivity
  have hscale : ∀ j : ℤ, |(j : ℚ) * 2 ^ unitExponent x - x| =
      |(j : ℚ) - x / 2 ^ unitExponent x| * 2 ^ unitExponent x := by
    intro j
    rw [← abs_of_pos hunit, ← abs_mul, abs_of_pos hunit, sub_mul, div_mul_cancel₀ _ hunit.ne']
  rw [eq_of_toDouble?_eq_some hx h, hscale, hscale]
  exact mul_le_mul_of_nonneg_right (toInteger_nearest _ k) hunit.le

/-- The unit is so great that at most 53 binary digits, or one more with zeros, are kept. -/
theorem toInteger_quotient_le {x : ℚ} (hx : 0 < x) :
    0 ≤ toInteger (x / 2 ^ unitExponent x) ∧ toInteger (x / 2 ^ unitExponent x) ≤ 2 ^ 53 := by
  have hunit : (0 : ℚ) < 2 ^ unitExponent x := by positivity
  have hpos : 0 < x / 2 ^ unitExponent x := by positivity
  have hquotient : x / 2 ^ unitExponent x < 2 ^ 53 := by
    rw [div_lt_iff₀ hunit]
    calc x < (2 : ℚ) ^ order 2 x := (order_spec le_rfl hx).2
      _ ≤ (2 : ℚ) ^ (53 + unitExponent x) :=
          zpow_le_zpow_right₀ one_le_two (by rw [unitExponent]; omega)
      _ = 2 ^ 53 * 2 ^ unitExponent x := zpow_add₀ two_ne_zero 53 _
  obtain ⟨hbelow, habove⟩ := abs_le.mp (toInteger_error (x / 2 ^ unitExponent x))
  have hlow : (-1 : ℚ) < toInteger (x / 2 ^ unitExponent x) := by linarith
  have hhigh : (toInteger (x / 2 ^ unitExponent x) : ℚ) < 2 ^ 53 + 1 := by linarith
  exact ⟨by exact_mod_cast hlow, Int.lt_add_one_iff.mp (by exact_mod_cast hhigh)⟩

/-- What a number that is not negative is rounded to is a number in double precision. -/
theorem isDouble_of_toDouble?_eq_some {x y : ℚ} (hx : 0 ≤ x) (h : toDouble? x = some y) :
    IsDouble y := by
  rcases hx.eq_or_lt with rfl | hx
  · obtain rfl : 0 = y := Option.some.inj h
    exact ⟨0, 0, by norm_num, by norm_num, by simp⟩
  · have hlow : -1074 ≤ unitExponent x := le_max_right _ _
    obtain ⟨hnonneg, hle⟩ := toInteger_quotient_le hx
    rw [eq_of_toDouble?_eq_some hx h]
    obtain ⟨m, hm⟩ := Int.eq_ofNat_of_zero_le hnonneg
    rw [hm] at hle ⊢
    rcases hle.eq_or_lt with hfull | hless
    · -- the digits were all ones, and one more is half as many of twice the unit
      refine ⟨2 ^ 52, unitExponent x + 1, by norm_num, by omega, ?_⟩
      rw [hfull, zpow_add_one₀ two_ne_zero]
      push_cast
      ring
    · exact ⟨m, unitExponent x, by exact_mod_cast hless, hlow, by push_cast; rfl⟩

/-- A number in double precision with a smaller unit is below a multiple of the greater unit that is
not above the number to be rounded: the power of two in front of it. -/
theorem exists_multiple_between {x : ℚ} (hx : 0 < x) {m : ℕ} {e : ℤ} (hm : m < 2 ^ 53)
    (he : -1074 ≤ e) (hlt : e < unitExponent x) :
    ∃ k : ℤ, (m : ℚ) * 2 ^ e ≤ k * 2 ^ unitExponent x ∧ (k : ℚ) * 2 ^ unitExponent x ≤ x := by
  have hunit : unitExponent x = order 2 x - 53 := by
    rw [unitExponent] at hlt ⊢
    omega
  have hpower : ((2 ^ 52 : ℤ) : ℚ) * 2 ^ unitExponent x = 2 ^ (order 2 x - 1) := by
    rw [Int.cast_pow, Int.cast_ofNat, ← zpow_natCast, ← zpow_add₀ two_ne_zero, hunit]
    congr 1
    push_cast
    ring
  refine ⟨2 ^ 52, ?_, ?_⟩
  · calc (m : ℚ) * 2 ^ e ≤ 2 ^ 53 * 2 ^ (unitExponent x - 1) := by
          gcongr
          · exact_mod_cast hm.le
          · exact one_le_two
          · omega
      _ = (2 ^ 52 : ℤ) * 2 ^ unitExponent x := by
          rw [zpow_sub_one₀ two_ne_zero]
          push_cast
          ring
  · rw [hpower]
    exact (order_spec le_rfl hx).1

/-- No number in double precision is nearer to a number than the one that it is rounded to. -/
theorem toDouble?_nearest {x y z : ℚ} (hx : 0 ≤ x) (h : toDouble? x = some y) (hz : IsDouble z) :
    |y - x| ≤ |z - x| := by
  rcases hx.eq_or_lt with rfl | hx
  · obtain rfl : 0 = y := Option.some.inj h
    simp
  · obtain ⟨m, e, hm, he, rfl⟩ := hz
    rcases le_or_gt (unitExponent x) e with hle | hlt
    · -- the other number is a multiple of the unit as well
      have hmultiple := multiple_nearest hx h (m * 2 ^ (e - unitExponent x).toNat)
      have hpow : (2 : ℚ) ^ e = 2 ^ (e - unitExponent x).toNat * 2 ^ unitExponent x := by
        rw [← zpow_natCast, Int.toNat_of_nonneg (sub_nonneg.mpr hle), ← zpow_add₀ two_ne_zero,
          sub_add_cancel]
      rw [hpow, ← mul_assoc]
      exact_mod_cast hmultiple
    · obtain ⟨k, hbelow, hx'⟩ := exists_multiple_between hx hm he hlt
      calc |y - x| ≤ |k * 2 ^ unitExponent x - x| := multiple_nearest hx h k
        _ = x - k * 2 ^ unitExponent x := by
            rw [abs_sub_comm, abs_of_nonneg (sub_nonneg.mpr hx')]
        _ ≤ x - m * 2 ^ e := by linarith
        _ = |m * 2 ^ e - x| := by
            rw [abs_sub_comm, abs_of_nonneg (sub_nonneg.mpr (hbelow.trans hx'))]

end TermSearch.Rounding
