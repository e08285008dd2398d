import Mathlib.Algebra.Order.Field.Rat
import Mathlib.Data.Int.Log
import Mathlib.Data.Rat.Floor
import Mathlib.Tactic.Linarith
import Mathlib.Tactic.Ring

/-!
# Rounding

Rounding to the nearest integer with ties to even, and from it the rounding of a rational to a
number of significant bits, which is the arithmetic of floating point as long as the exponent stays
in its range.
-/

namespace Framework

/-- The nearest integer, the even one of two. -/
def roundHalfEven (x : ℚ) : ℤ :=
  let below := ⌊x⌋
  if x - below < 1 / 2 then below
  else if 1 / 2 < x - below then below + 1
  else if below % 2 = 0 then below
  else below + 1

theorem abs_roundHalfEven_sub_le (x : ℚ) : |(roundHalfEven x : ℚ) - x| ≤ 1 / 2 := by
  have hlow := Int.floor_le x
  have hhigh := Int.lt_floor_add_one x
  unfold roundHalfEven
  dsimp only
  split_ifs with hbelow habove heven <;> push_cast <;> rw [abs_le] <;> constructor <;> linarith

/-! ## Significant bits -/

/-- The unit in the last of `bits + 1` significant bits. -/
def lastUnit (bits : ℕ) (x : ℚ) : ℚ := (2 : ℚ) ^ (Int.log 2 |x| - bits)

/-- The nearest number of `bits + 1` significant bits, ties to even. -/
def roundBits (bits : ℕ) (x : ℚ) : ℚ := roundHalfEven (x / lastUnit bits x) * lastUnit bits x

theorem lastUnit_pos (bits : ℕ) (x : ℚ) : 0 < lastUnit bits x :=
  zpow_pos (by norm_num) _

theorem lastUnit_le (bits : ℕ) {x : ℚ} (hx : x ≠ 0) : lastUnit bits x ≤ |x| / 2 ^ bits := by
  have hlog : ((2 : ℕ) : ℚ) ^ Int.log 2 |x| ≤ |x| :=
    Int.zpow_log_le_self Nat.one_lt_two (abs_pos.mpr hx)
  have htwo : (2 : ℚ) ≠ 0 := by norm_num
  rw [lastUnit, zpow_sub₀ htwo, zpow_natCast]
  push_cast at hlog
  gcongr

/-- The error is at most half a unit of the last bit. -/
theorem abs_roundBits_sub_le (bits : ℕ) (x : ℚ) :
    |roundBits bits x - x| ≤ |x| / 2 ^ (bits + 1) := by
  by_cases hx : x = 0
  · subst hx
    simp [roundBits, roundHalfEven]
  · have hunit := lastUnit_pos bits x
    have hscaled : roundBits bits x - x =
        ((roundHalfEven (x / lastUnit bits x) : ℚ) - x / lastUnit bits x) * lastUnit bits x := by
      rw [sub_mul, div_mul_cancel₀ _ hunit.ne']
      rfl
    calc |roundBits bits x - x|
        = |(roundHalfEven (x / lastUnit bits x) : ℚ) - x / lastUnit bits x| * lastUnit bits x := by
          rw [hscaled, abs_mul, abs_of_pos hunit]
      _ ≤ 1 / 2 * (|x| / 2 ^ bits) :=
          mul_le_mul (abs_roundHalfEven_sub_le _) (lastUnit_le bits hx) hunit.le (by norm_num)
      _ = |x| / 2 ^ (bits + 1) := by rw [pow_succ]; ring

/-! ## From one scale to another -/

/-- An integer on a scale of `a` steps taken to one of `b` steps: divided, multiplied and rounded,
with the significant bits of a floating-point number in between. -/
def rescale (bits : ℕ) (a b : ℚ) (n : ℤ) : ℤ :=
  roundHalfEven (roundBits bits (roundBits bits (n / a) * b))

/-- The two roundings in between are off by a small part of the exact result, the last one by a
half. -/
theorem abs_rescale_sub_le (bits : ℕ) (a b : ℚ) (n : ℤ) :
    |(rescale bits a b n : ℚ) - n / a * b| ≤ 1 / 2 + |n / a * b| * (3 / 2 ^ (bits + 1)) := by
  set u : ℚ := 1 / 2 ^ (bits + 1) with hu
  have hupos : 0 ≤ u := by positivity
  have hule : u ≤ 1 := by
    rw [hu, div_le_one (by positivity)]
    exact one_le_pow₀ (by norm_num)
  set x : ℚ := n / a
  set y : ℚ := roundBits bits x * b
  have hy : |y - x * b| ≤ |x * b| * u := by
    have hx := mul_le_mul_of_nonneg_right (abs_roundBits_sub_le bits x) (abs_nonneg b)
    rw [← abs_mul, sub_mul] at hx
    calc |y - x * b| ≤ |x| / 2 ^ (bits + 1) * |b| := hx
      _ = |x * b| * u := by rw [abs_mul, hu]; ring
  have hysize : |y| ≤ |x * b| * (1 + u) := by
    calc |y| = |(y - x * b) + x * b| := by rw [sub_add_cancel]
      _ ≤ |y - x * b| + |x * b| := abs_add_le _ _
      _ ≤ |x * b| * (1 + u) := by linarith
  have hround : |roundBits bits y - y| ≤ |x * b| * (1 + u) * u := by
    calc |roundBits bits y - y| ≤ |y| / 2 ^ (bits + 1) := abs_roundBits_sub_le bits y
      _ = |y| * u := by rw [hu]; ring
      _ ≤ |x * b| * (1 + u) * u := mul_le_mul_of_nonneg_right hysize hupos
  have hlast := abs_roundHalfEven_sub_le (roundBits bits y)
  have hsize := abs_nonneg (x * b)
  calc |(rescale bits a b n : ℚ) - x * b|
      = |((roundHalfEven (roundBits bits y) : ℚ) - roundBits bits y) +
          ((roundBits bits y - y) + (y - x * b))| := by
        congr 1
        show (roundHalfEven (roundBits bits y) : ℚ) - x * b = _
        ring
    _ ≤ 1 / 2 + (|x * b| * (1 + u) * u + |x * b| * u) := by
        refine (abs_add_le _ _).trans (add_le_add hlast ?_)
        exact (abs_add_le _ _).trans (add_le_add hround hy)
    _ ≤ 1 / 2 + |x * b| * (3 / 2 ^ (bits + 1)) := by
        have hthree : (3 : ℚ) / 2 ^ (bits + 1) = 3 * u := by rw [hu]; ring
        rw [hthree]
        nlinarith [mul_nonneg hsize hupos]

end Framework
