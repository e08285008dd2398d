import Eisenberg.Framework.Rounding

/-!
# The spotlight's brightness

`SpotlightLight` converts between Arlo's intensity, on a scale of 100, and the brightness of Home
Assistant, on a scale of 255. What it shows and what it sends do not drift apart.
-/

namespace Eisenberg.Entities

open Framework

/-- The nearest double. -/
def double (x : ℚ) : ℚ := roundBits 52 x

/-- `round(state.intensity / 100 * 255)`. -/
def brightnessOf (intensity : ℤ) : ℤ := roundHalfEven (double (double (intensity / 100) * 255))

/-- `round(int(brightness) / 255 * 100)`. -/
def intensityOf (brightness : ℤ) : ℤ := roundHalfEven (double (double (brightness / 255) * 100))

/-- Far inside the range where doubles tell halves apart. -/
def Moderate (n : ℤ) : Prop := |n| ≤ 2 ^ 32

theorem abs_rescale_sub_le_of_small {a b : ℚ} {n : ℤ} (h : |n / a * b| ≤ 2 ^ 40) :
    |(rescale 52 a b n : ℚ) - n / a * b| ≤ 51 / 100 := by
  have herror := abs_rescale_sub_le 52 a b n
  have hsmall : |(n : ℚ) / a * b| * (3 / 2 ^ (52 + 1)) ≤ 2 ^ 40 * (3 / 2 ^ (52 + 1)) :=
    mul_le_mul_of_nonneg_right h (by norm_num)
  have hnumber : (2 : ℚ) ^ 40 * (3 / 2 ^ (52 + 1)) ≤ 1 / 100 := by norm_num
  linarith

section Conversions

variable {n : ℤ}

theorem Moderate.bounds (h : Moderate n) : -(2 ^ 32) ≤ (n : ℚ) ∧ (n : ℚ) ≤ 2 ^ 32 := by
  have hcast : |(n : ℚ)| ≤ 2 ^ 32 := by exact_mod_cast h
  exact abs_le.mp hcast

theorem brightnessOf_near (h : Moderate n) :
    |(brightnessOf n : ℚ) - n / 100 * 255| ≤ 51 / 100 := by
  obtain ⟨hlow, hhigh⟩ := h.bounds
  apply abs_rescale_sub_le_of_small
  rw [abs_le]
  constructor <;> linarith

theorem intensityOf_near (h : |n| ≤ 2 ^ 34) :
    |(intensityOf n : ℚ) - n / 255 * 100| ≤ 51 / 100 := by
  have hcast : |(n : ℚ)| ≤ 2 ^ 34 := by exact_mod_cast h
  obtain ⟨hlow, hhigh⟩ := abs_le.mp hcast
  apply abs_rescale_sub_le_of_small
  rw [abs_le]
  constructor <;> linarith

theorem abs_brightnessOf_le (h : Moderate n) : |brightnessOf n| ≤ 2 ^ 34 := by
  obtain ⟨hlow, hhigh⟩ := h.bounds
  obtain ⟨hbelow, habove⟩ := abs_le.mp (brightnessOf_near h)
  have hcast : |(brightnessOf n : ℚ)| ≤ 2 ^ 34 := by
    rw [abs_le]
    constructor <;> linarith
  exact_mod_cast hcast

theorem Moderate.intensityOf (h : Moderate n) : Moderate (intensityOf n) := by
  obtain ⟨hlow, hhigh⟩ := h.bounds
  obtain ⟨hbelow, habove⟩ := abs_le.mp (intensityOf_near (h.trans (by norm_num)))
  have hcast : |(Entities.intensityOf n : ℚ)| ≤ 2 ^ 32 := by
    rw [abs_le]
    constructor <;> linarith
  exact_mod_cast hcast

/-- The brightness that is shown stands for the intensity it was shown for. -/
theorem intensityOf_brightnessOf (h : Moderate n) : intensityOf (brightnessOf n) = n := by
  obtain ⟨hbelow, habove⟩ := abs_le.mp (brightnessOf_near h)
  obtain ⟨hbelow', habove'⟩ := abs_le.mp (intensityOf_near (abs_brightnessOf_le h))
  have hcast : |((intensityOf (brightnessOf n) - n : ℤ) : ℚ)| < 1 := by
    push_cast
    rw [abs_lt]
    constructor <;> linarith
  have hzero : |intensityOf (brightnessOf n) - n| < 1 := by exact_mod_cast hcast
  exact sub_eq_zero.mp (Int.abs_lt_one_iff.mp hzero)

/-- The brightness that comes back is the one that was picked, or the next. -/
theorem brightnessOf_intensityOf (h : Moderate n) : |brightnessOf (intensityOf n) - n| ≤ 1 := by
  obtain ⟨hbelow, habove⟩ := abs_le.mp (intensityOf_near (h.trans (by norm_num)))
  obtain ⟨hbelow', habove'⟩ := abs_le.mp (brightnessOf_near h.intensityOf)
  have hcast : |((brightnessOf (intensityOf n) - n : ℤ) : ℚ)| < 2 := by
    push_cast
    rw [abs_lt]
    constructor <;> linarith
  have htwo : |brightnessOf (intensityOf n) - n| < 2 := by exact_mod_cast hcast
  exact Int.lt_add_one_iff.mp htwo

/-- A brighter spotlight is shown brighter. -/
theorem brightnessOf_strictMono {m : ℤ} (hm : Moderate m) (hn : Moderate n) (h : m < n) :
    brightnessOf m < brightnessOf n := by
  obtain ⟨-, habove⟩ := abs_le.mp (brightnessOf_near hm)
  obtain ⟨hbelow, -⟩ := abs_le.mp (brightnessOf_near hn)
  have hstep : (m : ℚ) + 1 ≤ n := by exact_mod_cast h
  have hcast : (brightnessOf m : ℚ) < brightnessOf n := by linarith
  exact_mod_cast hcast

theorem intensityOf_mem_scale (hlow : 0 ≤ n) (hhigh : n ≤ 255) :
    0 ≤ intensityOf n ∧ intensityOf n ≤ 100 := by
  have hsize : |n| ≤ 2 ^ 34 := by
    rw [abs_of_nonneg hlow]
    exact hhigh.trans (by norm_num)
  obtain ⟨hbelow, habove⟩ := abs_le.mp (intensityOf_near hsize)
  have hlow' : (0 : ℚ) ≤ n := by exact_mod_cast hlow
  have hhigh' : (n : ℚ) ≤ 255 := by exact_mod_cast hhigh
  have hfrom : ((-1 : ℤ) : ℚ) < intensityOf n := by
    push_cast
    linarith
  have hto : (intensityOf n : ℚ) < ((101 : ℤ) : ℚ) := by
    push_cast
    linarith
  exact ⟨Int.cast_lt.mp hfrom, Int.lt_add_one_iff.mp (Int.cast_lt.mp hto)⟩

end Conversions

/-- Whatever is picked, sent and reported back: the slider moves by one step at most and then stays,
and each intensity keeps its own place on it. -/
theorem spotlight_slider_stable (m n : ℤ) (hm : Moderate m) (hn : Moderate n) :
    intensityOf (brightnessOf n) = n ∧
      |brightnessOf (intensityOf n) - n| ≤ 1 ∧
      intensityOf (brightnessOf (intensityOf n)) = intensityOf n ∧
      (m < n → brightnessOf m < brightnessOf n) ∧
      (0 ≤ n → n ≤ 255 → 0 ≤ intensityOf n ∧ intensityOf n ≤ 100) :=
  ⟨intensityOf_brightnessOf hn, brightnessOf_intensityOf hn,
    intensityOf_brightnessOf hn.intensityOf, brightnessOf_strictMono hm hn,
    intensityOf_mem_scale⟩

theorem spotlight_slider_stable_half :
    intensityOf (brightnessOf 50) = 50 ∧ |brightnessOf (intensityOf 50) - 50| ≤ 1 ∧
      intensityOf (brightnessOf (intensityOf 50)) = intensityOf 50 ∧
      ((10 : ℤ) < 50 → brightnessOf 10 < brightnessOf 50) ∧
      ((0 : ℤ) ≤ 50 → (50 : ℤ) ≤ 255 → 0 ≤ intensityOf 50 ∧ intensityOf 50 ≤ 100) :=
  spotlight_slider_stable 10 50 (by unfold Moderate; norm_num) (by unfold Moderate; norm_num)

end Eisenberg.Entities
