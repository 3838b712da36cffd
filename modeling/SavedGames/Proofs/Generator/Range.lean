import Mathlib
import SavedGames.Proofs.Counter
import SavedGames.Proofs.Generator

/-!
# Numbers that are drawn from a range

A number from a range is the least one and an offset, which never leads past the greatest one. The
offset has 32 bits and a sign: one that needs all of them turns negative, and there is no number.
-/
namespace SavedGames.Generator

variable {lo hi : Int32}

/-- How far above the least number the next one is. -/
def offset (h : lo ≤ hi) (r : Generator) : Nat := ((below (span lo hi) (span_pos h)).run r).1

theorem run_range? (h : lo ≤ hi) (r : Generator) :
    ((range? lo hi h).run r).1 = Counter.sum? lo (Int32.ofNat (offset h r)) := rfl

theorem add_offset_le (h : lo ≤ hi) (r : Generator) : lo.toInt + offset h r ≤ hi.toInt := by
  have below : offset h r < span lo hi := (((below (span lo hi) (span_pos h)).run r).1).isLt
  have order := Int32.le_iff_toInt_le.mp h
  unfold span at below
  omega

/-- An offset below `2 ^ 31` gives the number at this place of the range. With a greater one, the
sum is far below the least number of 32 bits. Bounds that are less than `2 ^ 31` apart have no such
offsets. -/
theorem range?_by_offset (h : lo ≤ hi) (r : Generator) :
    lo.toInt + offset h r ≤ hi.toInt ∧
      (offset h r < 2 ^ 31 →
        (Int32.ofNat (offset h r)).toInt = offset h r ∧
          ∃ n, ((range? lo hi h).run r).1 = some n ∧ n.toInt = lo.toInt + offset h r ∧
            lo ≤ n ∧ n ≤ hi) ∧
      (2 ^ 31 ≤ offset h r →
        (Int32.ofNat (offset h r)).toInt = offset h r - 2 ^ 32 ∧
          lo.toInt + (Int32.ofNat (offset h r)).toInt < -2 ^ 31 ∧
            ((range? lo hi h).run r).1 = none) ∧
      (hi.toInt - lo.toInt < 2 ^ 31 → offset h r < 2 ^ 31) := by
  have inside := add_offset_le h r
  have least := lo.le_toInt
  have greatest := hi.toInt_lt
  rw [run_range?]
  refine ⟨inside, fun small => ?_, fun large => ?_, fun near => by omega⟩
  · have kept : (Int32.ofNat (offset h r)).toInt = offset h r := Int32.toInt_ofNat_of_lt small
    obtain ⟨n, drawn⟩ : ∃ n, Counter.sum? lo (Int32.ofNat (offset h r)) = some n :=
      Counter.exists_sum? (by omega) (by omega)
    have exact := Counter.toInt_of_sum? drawn
    refine ⟨kept, n, drawn, by omega, ?_, ?_⟩
    · rw [Int32.le_iff_toInt_le]
      omega
    · rw [Int32.le_iff_toInt_le]
      omega
  · have turned := Counter.toInt_ofNat_of_ge large (by omega)
    have far : lo.toInt + (Int32.ofNat (offset h r)).toInt < -2 ^ 31 := by omega
    exact ⟨turned, far, Counter.sum?_eq_none_iff.mpr (.inl far)⟩

/-- No negative number is too far from the least one. -/
theorem negative_number_drawn :
    (-2147483648 : Int32) ≤ -1 ∧ ∃ n,
      ((range? (-2147483648) (-1) (by decide)).run (ofSeed 42)).1 = some n ∧
        -2147483648 ≤ n ∧ n ≤ -1 := by
  obtain ⟨-, small, -, near⟩ :=
    range?_by_offset (by decide : (-2147483648 : Int32) ≤ -1) (ofSeed 42)
  obtain ⟨-, n, drawn, -, low, high⟩ := small (near (by decide))
  exact ⟨by decide, n, drawn, low, high⟩

/-- The first offset of this generator needs all 32 bits. -/
theorem no_number_from_full_range :
    offset (by decide : (-2147483648 : Int32) ≤ 2147483647) (ofSeed 0) = 4268361197 ∧
      (Int32.ofNat 4268361197).toInt = -26606099 ∧
      Counter.fits ((-2147483648 : Int32).toInt + (Int32.ofNat 4268361197).toInt) = false ∧
      ((range? (-2147483648) 2147483647 (by decide)).run (ofSeed 0)).1 = none := by
  decide +kernel

end SavedGames.Generator
