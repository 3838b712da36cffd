import Mathlib
import SavedGames.Counter

/-!
# Counters that fit

Two counters have a sum just when the exact one fits into 32 bits, and then it is the exact one. A
natural number that is counted in 32 bits keeps its value as long as it is below `2 ^ 31`.
-/
namespace SavedGames.Counter

variable {m n s : Int32}

theorem fits_iff {n : Int} : fits n = true ↔ -2 ^ 31 ≤ n ∧ n < 2 ^ 31 := by
  simp [fits]

theorem toInt_of_sum? (h : sum? m n = some s) : s.toInt = m.toInt + n.toInt := by
  unfold sum? at h
  split at h
  · rename_i fit
    obtain rfl := Option.some.inj h
    have range := fits_iff.mp fit
    rw [Int32.toInt_add]
    exact Int.bmod_eq_of_le (by omega) (by omega)
  · cases h

theorem exists_sum? (low : -2 ^ 31 ≤ m.toInt + n.toInt) (high : m.toInt + n.toInt < 2 ^ 31) :
    ∃ s, sum? m n = some s :=
  ⟨m + n, if_pos (fits_iff.mpr ⟨low, high⟩)⟩

theorem sum?_eq_none_iff :
    sum? m n = none ↔ m.toInt + n.toInt < -2 ^ 31 ∨ 2 ^ 31 ≤ m.toInt + n.toInt := by
  have fit := fits_iff (n := m.toInt + n.toInt)
  unfold sum?
  split
  · rename_i holds
    have range := fit.mp holds
    simp only [reduceCtorEq, false_iff]
    omega
  · rename_i fails
    have range := mt fit.mpr fails
    simp only [true_iff]
    omega

/-- From half of them on, the numbers of 32 bits turn negative. -/
theorem toInt_ofNat_of_ge {k : Nat} (low : 2 ^ 31 ≤ k) (high : k < 2 ^ 32) :
    (Int32.ofNat k).toInt = k - 2 ^ 32 := by
  rw [Int32.toInt_ofNat', Int.bmod_def, Int32.size]
  split <;> omega

end SavedGames.Counter
