import Mathlib
import SavedGames.Proofs.ByteSize

/-!
# Shown sizes keep their order

Between two sizes that are shown with different decimals or in different units lies one that can be
shown exactly both ways, and neither of the two is rounded past it.
-/
namespace SavedGames.ByteSize

variable {a b n k : Nat}

theorem quantity_reading (n : Nat) :
    (reading n).quantity =
      (ofCount n).scaled / 10 ^ (ofCount n).decimals * (Scale.ofCount n).bytes := by
  rw [Printed.quantity, number_reading]
  rfl

theorem halfStep_reading (n : Nat) :
    (reading n).halfStep = (Scale.ofCount n).bytes / 10 ^ (ofCount n).decimals / 2 := by
  rw [Printed.halfStep, length_decimals_reading]
  rfl

theorem quantity_near (n : Nat) : |(reading n).quantity - n| ≤ (reading n).halfStep := by
  have places : 0 < 10 ^ (ofCount n).decimals := Nat.pow_pos (by decide)
  have near := roundHalfEven_scaled_near n places (Scale.ofCount n).bytes_pos
  rw [quantity_reading, halfStep_reading, scaled_ofCount]
  exact_mod_cast near

/-- A size is not rounded up past one that can be written with its decimals. -/
theorem quantity_le
    (below : n * 10 ^ (ofCount n).decimals ≤ k * (Scale.ofCount n).bytes) :
    (reading n).quantity ≤ k / 10 ^ (ofCount n).decimals * (Scale.ofCount n).bytes := by
  have := roundHalfEven_le (Scale.ofCount n).bytes_pos below
  rw [quantity_reading, scaled_ofCount]
  gcongr

/-- A size is not rounded down past one that can be written with its decimals. -/
theorem le_quantity
    (above : k * (Scale.ofCount n).bytes ≤ n * 10 ^ (ofCount n).decimals) :
    k / 10 ^ (ofCount n).decimals * (Scale.ofCount n).bytes ≤ (reading n).quantity := by
  have := le_roundHalfEven (Scale.ofCount n).bytes_pos above
  rw [quantity_reading, scaled_ofCount]
  gcongr

theorem quantity_zero : (reading 0).quantity = 0 := by
  rw [quantity_reading, scaled_ofCount]
  simp [roundHalfEven]

/-- In one unit, the smaller size has at least as many decimals. -/
theorem decimals_anti (some : 0 < a) (le : a ≤ b) (same : Scale.ofCount a = Scale.ofCount b) :
    (ofCount b).decimals ≤ (ofCount a).decimals := by
  have enough := (decimals_le_iff (s := ofCount a) some _).mp le_rfl
  apply (decimals_le_iff (s := ofCount b) (some.trans_le le) _).mpr
  simp only [ofCount, ← same] at enough ⊢
  exact enough.trans (Nat.mul_le_mul_right _ le)

theorem quantity_mono_of_scale (some : 0 < a) (le : a ≤ b)
    (same : Scale.ofCount a = Scale.ofCount b) : (reading a).quantity ≤ (reading b).quantity := by
  rcases (decimals_anti some le same).lt_or_eq with fewer | equal
  -- a hundred units of the last decimal of the greater size lie between the two
  · have missed := (decimals_le_iff (s := ofCount a) some _).not.mp fewer.not_ge
    have reached := (decimals_le_iff (s := ofCount b) (some.trans_le le) _).mp le_rfl
    obtain ⟨more, split⟩ := Nat.exists_eq_add_of_le fewer.le
    have below : a * 10 ^ (ofCount a).decimals ≤ 100 * 10 ^ more * (Scale.ofCount a).bytes :=
      calc a * 10 ^ (ofCount a).decimals = a * 10 ^ (ofCount b).decimals * 10 ^ more := by
            rw [split, pow_add, Nat.mul_assoc]
        _ ≤ 100 * (Scale.ofCount a).bytes * 10 ^ more :=
            Nat.mul_le_mul_right _ (Nat.le_of_not_le missed)
        _ = 100 * 10 ^ more * (Scale.ofCount a).bytes := Nat.mul_right_comm ..
    calc (reading a).quantity
        ≤ (100 * 10 ^ more : ℕ) / 10 ^ (ofCount a).decimals * (Scale.ofCount a).bytes :=
          quantity_le below
      _ = (100 : ℕ) / 10 ^ (ofCount b).decimals * (Scale.ofCount b).bytes := by
          rw [same, split, pow_add]
          push_cast
          field_simp
      _ ≤ (reading b).quantity := le_quantity reached
  · have scaled : (ofCount a).scaled ≤ (ofCount b).scaled := by
      rw [scaled_ofCount, scaled_ofCount, same, ← equal]
      exact roundHalfEven_mono (Nat.mul_le_mul_right _ le)
    rw [quantity_reading, quantity_reading, same, ← equal]
    gcongr

theorem quantity_mono_of_scales (less : a < 2 ^ 30) (ge : 2 ^ 30 ≤ b) :
    (reading a).quantity ≤ (reading b).quantity := by
  have mega : (Scale.ofCount a).bytes = 2 ^ 20 := by
    rw [Scale.ofCount, if_neg (Nat.not_le.mpr less), Scale.bytes]
  have giga : (Scale.ofCount b).bytes = 2 ^ 30 := by
    rw [Scale.ofCount, if_pos ge, Scale.bytes]
  -- one unit of the greater kind is a whole number of the smaller ones
  have below : a * 10 ^ (ofCount a).decimals ≤
      1024 * 10 ^ (ofCount a).decimals * (Scale.ofCount a).bytes := by
    rw [mega, Nat.mul_right_comm]
    exact Nat.mul_le_mul_right _ less.le
  have above : 10 ^ (ofCount b).decimals * (Scale.ofCount b).bytes ≤
      b * 10 ^ (ofCount b).decimals := by
    rw [giga, Nat.mul_comm]
    exact Nat.mul_le_mul_right _ ge
  calc (reading a).quantity
      ≤ (1024 * 10 ^ (ofCount a).decimals : ℕ) / 10 ^ (ofCount a).decimals *
          (Scale.ofCount a).bytes := quantity_le below
    _ = (10 ^ (ofCount b).decimals : ℕ) / 10 ^ (ofCount b).decimals *
          (Scale.ofCount b).bytes := by
        rw [mega, giga]
        push_cast
        field_simp
        norm_num
    _ ≤ (reading b).quantity := le_quantity above

theorem quantity_mono (le : a ≤ b) : (reading a).quantity ≤ (reading b).quantity := by
  rcases Nat.eq_zero_or_pos a with rfl | some
  · rw [quantity_zero, quantity_reading]
    positivity
  by_cases apart : a < 2 ^ 30 ∧ 2 ^ 30 ≤ b
  · exact quantity_mono_of_scales apart.1 apart.2
  · have both : 2 ^ 30 ≤ a ↔ 2 ^ 30 ≤ b := by omega
    exact quantity_mono_of_scale some le (by simp only [Scale.ofCount, both])

/-- Of two numbers of bytes with at most 53 bits, the greater one is not shown as less. What is
shown is at most half a unit of its last decimal place away from the size. -/
theorem shown_in_order (le : a ≤ b) (small : b < 2 ^ 53) :
    ∃ p q : Printed, (∀ r, Shows a r ↔ r = p) ∧ (∀ r, Shows b r ↔ r = q) ∧
      p.quantity ≤ q.quantity ∧ |p.quantity - a| ≤ p.halfStep ∧ |q.quantity - b| ≤ q.halfStep := by
  have holds_a := Binary64.holds_of_lt (le.trans_lt small)
  have holds_b := Binary64.holds_of_lt small
  exact ⟨reading a, reading b, fun r => shows_iff holds_a, fun r => shows_iff holds_b,
    quantity_mono le, quantity_near a, quantity_near b⟩

/-- A byte less than a gigabyte is shown as much as a gigabyte, with other digits. -/
theorem gigabyte_shown_in_order :
    ∃ p q : Printed, Shows (1073741823 : ℕ) p ∧ p.text = "1024 MB" ∧
      Shows (1073741824 : ℕ) q ∧ q.text = "1.00 GB" ∧ p.quantity ≤ q.quantity ∧
      |p.quantity - (1073741823 : ℕ)| ≤ p.halfStep ∧
      |q.quantity - (1073741824 : ℕ)| ≤ q.halfStep := by
  obtain ⟨p, q, shows, shows', bounds⟩ :=
    shown_in_order (a := 1073741823) (b := 1073741824) (by decide) (by decide)
  obtain rfl := (shows (printed 0 1024 .mega)).mp (by decide +kernel)
  obtain rfl := (shows' (printed 2 100 .giga)).mp (by decide +kernel)
  exact ⟨_, _, (shows _).mpr rfl, by decide +kernel, (shows' _).mpr rfl, by decide +kernel, bounds⟩

end SavedGames.ByteSize
