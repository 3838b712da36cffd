import Mathlib
import SavedGames.Binary64

/-!
# Rounding to a whole number, and to a double

A fraction is at most half away from the whole number that it is rounded to. Rounding keeps the
order of fractions and leaves whole numbers alone, so a fraction is never rounded past one. The
double nearest to a number with a significand of 53 bits is this number.
-/
namespace SavedGames

variable {num num' den k : Nat}

theorem twoTo_eq (n : Nat) : twoTo n = 2 ^ n := rfl

theorem tenTo_eq (n : Nat) : tenTo n = 10 ^ n := rfl

theorem div_le_roundHalfEven (num den : Nat) : num / den ≤ roundHalfEven num den := by
  simp only [roundHalfEven]
  split <;> omega

theorem roundHalfEven_le_div (num den : Nat) : roundHalfEven num den ≤ num / den + 1 := by
  simp only [roundHalfEven]
  split <;> omega

theorem roundHalfEven_mul (pos : 0 < den) (k : Nat) : roundHalfEven (k * den) den = k := by
  simp only [roundHalfEven, Nat.mul_div_cancel k pos, Nat.mul_mod_left]
  rw [if_neg (by omega)]

theorem roundHalfEven_near (num : Nat) (pos : 0 < den) :
    |(roundHalfEven num den : ℚ) - num / den| ≤ 1 / 2 := by
  have whole := Nat.div_add_mod' num den
  have rest := Nat.mod_lt num pos
  have above : (num / den + 1) * den = num / den * den + den := Nat.add_one_mul ..
  have near : 2 * (roundHalfEven num den * den) ≤ 2 * num + den ∧
      2 * num ≤ 2 * (roundHalfEven num den * den) + den := by
    simp only [roundHalfEven]
    split <;> omega
  have unit : (0 : ℚ) < den := by exact_mod_cast pos
  have upper : (2 * (roundHalfEven num den * den) : ℚ) ≤ 2 * num + den := by exact_mod_cast near.1
  have lower : (2 * num : ℚ) ≤ 2 * (roundHalfEven num den * den) + den := by exact_mod_cast near.2
  rw [abs_sub_le_iff, sub_le_iff_le_add, sub_le_iff_le_add, div_le_iff₀ unit]
  constructor
  · rw [← mul_le_mul_iff_of_pos_right unit, add_mul, div_mul_cancel₀ _ unit.ne']
    linarith
  · linarith

/-- Rounded to parts of a unit, a number is at most half a part away from what it was. -/
theorem roundHalfEven_scaled_near (num : Nat) {places : Nat} (scale : 0 < places) (pos : 0 < den) :
    |(roundHalfEven (num * places) den : ℚ) / places * den - num| ≤ den / places / 2 := by
  have near := roundHalfEven_near (num * places) pos
  have unit : (0 : ℚ) < den := by exact_mod_cast pos
  have whole : (0 : ℚ) < places := by exact_mod_cast scale
  have step : (0 : ℚ) < den / places := div_pos unit whole
  calc |(roundHalfEven (num * places) den : ℚ) / places * den - num|
      = |(roundHalfEven (num * places) den - (num * places : ℕ) / den) * (den / places : ℚ)| := by
        congr 1
        push_cast
        field_simp
    _ = |(roundHalfEven (num * places) den : ℚ) - (num * places : ℕ) / den| * (den / places) := by
        rw [abs_mul, abs_of_pos step]
    _ ≤ 1 / 2 * (den / places) := by gcongr
    _ = den / places / 2 := by ring

theorem roundHalfEven_mono (le : num ≤ num') : roundHalfEven num den ≤ roundHalfEven num' den := by
  rcases (Nat.div_le_div_right le).lt_or_eq with less | same
  · exact (roundHalfEven_le_div num den).trans (less.trans_le (div_le_roundHalfEven num' den))
  -- of two numbers with the same quotient, the greater one has the greater rest
  · have whole := Nat.div_add_mod' num den
    have whole' := Nat.div_add_mod' num' den
    simp only [roundHalfEven]
    rw [same] at whole ⊢
    split <;> split <;> omega

theorem roundHalfEven_le (pos : 0 < den) (h : num ≤ k * den) : roundHalfEven num den ≤ k :=
  (roundHalfEven_mono h).trans_eq (roundHalfEven_mul pos k)

theorem le_roundHalfEven (pos : 0 < den) (h : k * den ≤ num) : k ≤ roundHalfEven num den :=
  (roundHalfEven_mul pos k).symm.trans_le (roundHalfEven_mono h)

/-- Fractions are rounded up to an even number from half below it on. -/
theorem even_le_roundHalfEven_iff (pos : 0 < den) (even : k % 2 = 0) :
    k ≤ roundHalfEven num den ↔ 2 * (k * den) ≤ 2 * num + den := by
  have whole := Nat.div_add_mod' num den
  have rest := Nat.mod_lt num pos
  have above : (num / den + 1) * den = num / den * den + den := Nat.add_one_mul ..
  rcases lt_trichotomy k (num / den + 1) with less | rfl | more
  · have reached := (Nat.le_of_lt_succ less).trans (div_le_roundHalfEven num den)
    have := Nat.mul_le_mul_right den (Nat.le_of_lt_succ less)
    omega
  · simp only [roundHalfEven]
    split <;> omega
  · have missed := roundHalfEven_le_div num den
    have far : (num / den + 1 + 1) * den ≤ k * den := Nat.mul_le_mul_right den more
    have : (num / den + 1 + 1) * den = (num / den + 1) * den + den := Nat.add_one_mul ..
    omega

namespace Binary64

variable {n : Nat}

/-- A double holds the number exactly: a significand of 53 bits times a power of two. -/
def Holds (n : Nat) : Prop :=
  ∃ m e : Nat, m < 2 ^ 53 ∧ e ≤ greatestExponent ∧ n = m * 2 ^ e

theorem holds_of_lt (h : n < 2 ^ 53) : Holds n := ⟨n, 0, h, by decide, by simp⟩

/-- Of the two powers, one is always `1`. -/
theorem scaled_whole (n : Nat) :
    scaled n 1 (n.log2 - 52) = (n * 2 ^ (52 - n.log2), 2 ^ (n.log2 - 52)) := by
  simp only [scaled, twoTo_eq]
  split
  · have none : 52 - n.log2 = 0 := by omega
    have same : ((n.log2 : Int) - 52).toNat = n.log2 - 52 := by omega
    rw [none, same, pow_zero, Nat.mul_one, Nat.one_mul]
  · have none : n.log2 - 52 = 0 := by omega
    have same : (-((n.log2 : Int) - 52)).toNat = 52 - n.log2 := by omega
    rw [none, same, pow_zero]

theorem le_scaled_whole (some : n ≠ 0) :
    2 ^ (n.log2 - 52) * 2 ^ 52 ≤ n * 2 ^ (52 - n.log2) := by
  have exponents : n.log2 - 52 + 52 = n.log2 + (52 - n.log2) := by omega
  rw [← pow_add, exponents, pow_add]
  exact Nat.mul_le_mul_right _ (Nat.log2_self_le some)

theorem scaled_whole_lt (n : Nat) :
    n * 2 ^ (52 - n.log2) < 2 ^ 53 * 2 ^ (n.log2 - 52) := by
  have exponents : 53 + (n.log2 - 52) = n.log2 + 1 + (52 - n.log2) := by omega
  rw [← pow_add, exponents, pow_add]
  exact Nat.mul_lt_mul_of_pos_right Nat.lt_log2_self (Nat.two_pow_pos _)

theorem exponentFor_whole (some : n ≠ 0) : exponentFor n 1 = n.log2 - 52 := by
  have guess : (n.log2 : Int) - (1 : Nat).log2 - 52 = n.log2 - 52 := by
    rw [show (1 : Nat).log2 = 0 from by decide]
    omega
  have enough := le_scaled_whole some
  simp only [exponentFor, guess, scaled_whole, twoTo_eq]
  rw [if_neg (Nat.not_lt.mpr enough), leastExponent]
  omega

/-- The last of 53 bits is not below the power of two. -/
theorem log2_sub_le {m e : Nat} (some : m * 2 ^ e ≠ 0) (small : m < 2 ^ 53) :
    (m * 2 ^ e).log2 - 52 ≤ e := by
  have size : m * 2 ^ e < 2 ^ (53 + e) := by
    rw [pow_add]
    exact Nat.mul_lt_mul_of_pos_right small (Nat.two_pow_pos e)
  have := (Nat.log2_lt some).mpr size
  omega

theorem numerator_div_denominator {k : Nat}
    (h : n * 2 ^ (52 - n.log2) = k * 2 ^ (n.log2 - 52)) :
    numerator ⟨k, n.log2 - 52⟩ / denominator ⟨k, n.log2 - 52⟩ = n := by
  have up : ((n.log2 : Int) - 52).toNat = n.log2 - 52 := by omega
  have down : (-((n.log2 : Int) - 52)).toNat = 52 - n.log2 := by omega
  rw [numerator, denominator]
  dsimp only
  rw [up, down, twoTo_eq, twoTo_eq, ← h]
  exact Nat.mul_div_cancel n (Nat.two_pow_pos _)

/-- Scaled to 53 bits, the number is still whole. -/
theorem Holds.exists_significand (h : Holds n) (some : n ≠ 0) :
    ∃ k, k < 2 ^ 53 ∧ (n.log2 : Int) - 52 ≤ greatestExponent ∧
      n * 2 ^ (52 - n.log2) = k * 2 ^ (n.log2 - 52) := by
  have bound := scaled_whole_lt n
  obtain ⟨m, e, small, inRange, rfl⟩ := h
  have place := log2_sub_le some small
  have whole : 2 ^ ((m * 2 ^ e).log2 - 52) ∣ m * 2 ^ e * 2 ^ (52 - (m * 2 ^ e).log2) :=
    ((Nat.pow_dvd_pow 2 place).trans (Nat.dvd_mul_left _ m)).mul_right _
  obtain ⟨k, same⟩ := exists_eq_mul_left_of_dvd whole
  rw [same] at bound
  exact ⟨k, Nat.lt_of_mul_lt_mul_right bound, by omega, same⟩

/-- Nothing of such a number is rounded away. -/
theorem nearest_of_holds (h : Holds n) :
    ∃ x, nearest n 1 = some x ∧ x.numerator / x.denominator = n := by
  by_cases zero : n = 0
  · exact ⟨Binary64.zero, if_pos zero, by
      rw [numerator, Binary64.zero, Nat.zero_mul, Nat.zero_div, zero]⟩
  obtain ⟨k, fits, inRange, same⟩ := h.exists_significand zero
  have rounded : roundHalfEven (n * 2 ^ (52 - n.log2)) (2 ^ (n.log2 - 52)) = k := by
    rw [same, roundHalfEven_mul (Nat.two_pow_pos _)]
  refine ⟨⟨k, n.log2 - 52⟩, ?_, numerator_div_denominator same⟩
  rw [nearest, if_neg zero, exponentFor_whole zero]
  dsimp only
  rw [scaled_whole]
  dsimp only
  rw [rounded, twoTo_eq, if_neg fits.ne]
  exact if_neg (Int.not_lt.mpr inRange)

end Binary64

end SavedGames
