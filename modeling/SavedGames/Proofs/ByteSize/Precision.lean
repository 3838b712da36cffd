import Mathlib
import SavedGames.Proofs.ByteSize

/-!
# How many digits of a size are shown

Below a hundred units a size has three significant digits, and from there on it is shown in whole
units. The decimals are counted before the size is rounded, so a size that is rounded up to a power
of ten has one digit more than that.
-/
namespace SavedGames.ByteSize

variable {n j : Nat}

/-- Three significant digits below a hundred, and whole units from there on. -/
def Printed.Precise (p : Printed) : Prop :=
  (p.number < 100 → p.significant.length = 3) ∧ (100 ≤ p.number → '.' ∉ p.text.toList)

/-- The value is less than a hundred divided by this power of ten, and three of its digits are
rounded up to that. -/
def RoundsUp (j : ℕ) (value : ℚ) : Prop :=
  1999 / 2000 * (100 / 10 ^ j) ≤ value ∧ value < 100 / 10 ^ j

theorem roundsUp_iff {u : ℕ} (pos : 0 < u) :
    RoundsUp j (n / u) ↔ 1999 * u ≤ 2 * (n * 10 ^ (j + 1)) ∧ n * 10 ^ j < 100 * u := by
  have unit : (0 : ℚ) < u := by exact_mod_cast pos
  have power : (0 : ℚ) < 10 ^ j := by positivity
  refine and_congr ?_ ?_
  · rw [← mul_div_assoc, div_le_div_iff₀ power unit, pow_succ]
    constructor
    · intro le
      have : (1999 * u : ℚ) ≤ 2 * (n * (10 ^ j * 10)) := by linarith
      exact_mod_cast this
    · intro le
      have : (1999 * u : ℚ) ≤ 2 * (n * (10 ^ j * 10)) := by exact_mod_cast le
      linarith
  · rw [div_lt_div_iff₀ unit power]
    exact_mod_cast Iff.rfl

theorem le_scaled (some : 0 < n) : 100 ≤ (ofCount n).scaled :=
  le_roundHalfEven (Scale.ofCount n).bytes_pos
    ((decimals_le_iff (s := ofCount n) some _).mp le_rfl)

/-- One decimal less leaves less than a hundred units. -/
theorem lt_of_decimals (some : 0 < n) (more : (ofCount n).decimals = j + 1) :
    n * 10 ^ j < 100 * (Scale.ofCount n).bytes :=
  Nat.lt_of_not_le ((decimals_le_iff (s := ofCount n) some j).not.mp (by omega))

theorem scaled_le (some : 0 < n) (more : (ofCount n).decimals = j + 1) :
    (ofCount n).scaled ≤ 1000 := by
  have few := lt_of_decimals some more
  refine roundHalfEven_le (Scale.ofCount n).bytes_pos ?_
  change n * 10 ^ (ofCount n).decimals ≤ 1000 * (Scale.ofCount n).bytes
  rw [more, pow_succ, ← Nat.mul_assoc]
  omega

theorem thousand_le_scaled_iff (more : (ofCount n).decimals = j + 1) :
    1000 ≤ (ofCount n).scaled ↔
      1999 * (Scale.ofCount n).bytes ≤ 2 * (n * 10 ^ (j + 1)) := by
  rw [scaled_ofCount, more, even_le_roundHalfEven_iff (Scale.ofCount n).bytes_pos (by decide)]
  omega

theorem roundsUp_iff_scaled (some : 0 < n) :
    RoundsUp j (n / (Scale.ofCount n).bytes) ↔
      (ofCount n).decimals = j + 1 ∧ (ofCount n).scaled = 1000 := by
  rw [roundsUp_iff (Scale.ofCount n).bytes_pos]
  constructor
  · rintro ⟨up, few⟩
    have more : (ofCount n).decimals = j + 1 := by
      have reached := (decimals_le_iff (s := ofCount n) some (j + 1)).mpr
        (by simp only [ofCount]; omega)
      have missed := (decimals_le_iff (s := ofCount n) some j).not.mpr (Nat.not_le.mpr few)
      omega
    exact ⟨more, (scaled_le some more).antisymm ((thousand_le_scaled_iff more).mpr up)⟩
  · rintro ⟨more, thousand⟩
    exact ⟨(thousand_le_scaled_iff more).mp thousand.ge, lt_of_decimals some more⟩

theorem significant_reading (some : 0 < n) :
    (reading n).significant = Decimal.digits (ofCount n).scaled :=
  significant_printed (Nat.lt_of_lt_of_le (by decide) (le_scaled some)) ..

theorem point_mem_reading_iff (n : Nat) :
    '.' ∈ (reading n).text.toList ↔ (ofCount n).decimals ≠ 0 := by
  rw [Printed.point_mem_text_iff, ne_eq, ← List.length_eq_zero_iff, length_decimals_reading]

/-- In whole units there is nothing to round up to. -/
theorem precise_of_whole (some : 0 < n) (whole : (ofCount n).decimals = 0) :
    (reading n).Precise := by
  have hundred : (100 : ℚ) ≤ (ofCount n).scaled := by exact_mod_cast le_scaled some
  rw [Printed.Precise, point_mem_reading_iff, number_reading, whole, pow_zero, div_one]
  exact ⟨fun less => absurd less hundred.not_gt, fun _ => by simp⟩

theorem precise_of_lt (some : 0 < n) (more : (ofCount n).decimals = j + 1)
    (less : (ofCount n).scaled < 1000) : (reading n).Precise := by
  have size : (reading n).significant.length = 3 := by
    rw [significant_reading some, Decimal.length_digits_eq_iff (by decide)]
    exact ⟨le_scaled some, less⟩
  have small : (reading n).number < 100 := by
    have power : (1 : ℚ) ≤ 10 ^ j := one_le_pow₀ (by norm_num)
    rw [number_reading, more, div_lt_iff₀ (by positivity)]
    calc ((ofCount n).scaled : ℚ) < 1000 := by exact_mod_cast less
      _ ≤ 100 * 10 ^ (j + 1) := by rw [pow_succ]; linarith
  exact ⟨fun _ => size, fun large => absurd small large.not_gt⟩

theorem not_precise_of_thousand (some : 0 < n) (more : (ofCount n).decimals = j + 1)
    (thousand : (ofCount n).scaled = 1000) : ¬(reading n).Precise := by
  rintro ⟨digits, units⟩
  rw [significant_reading some, thousand] at digits
  rcases lt_or_ge (reading n).number 100 with less | ge
  · exact absurd (digits less) (by decide)
  · exact units ge ((point_mem_reading_iff n).mpr (by omega))

/-- A number of bytes that a double holds is shown with three significant digits below a hundred and
without a point from there on, unless it is rounded up to a power of ten. Then it has one zero more,
behind the point. -/
theorem shown_precise_iff (some : 0 < n) (holds : Binary64.Holds n) :
    ∃ p : Printed, (∀ q, Shows n q ↔ q = p) ∧
      (p.Precise ↔ ∀ j, ¬RoundsUp j (n / p.scale.bytes)) ∧
      ∀ j, RoundsUp j (n / p.scale.bytes) → p.number = 100 / 10 ^ j ∧
        p.significant = ['1', '0', '0', '0'] ∧ '.' ∈ p.text.toList := by
  refine ⟨reading n, fun q => shows_iff holds, ?_, fun j up => ?_⟩
  · constructor
    · intro precise j up
      obtain ⟨more, thousand⟩ := (roundsUp_iff_scaled some).mp up
      exact not_precise_of_thousand some more thousand precise
    · intro none
      rcases whole : (ofCount n).decimals with _ | j
      · exact precise_of_whole some whole
      · refine precise_of_lt some whole ((scaled_le some whole).lt_of_ne fun thousand => ?_)
        exact none j ((roundsUp_iff_scaled some).mpr ⟨whole, thousand⟩)
  · obtain ⟨more, thousand⟩ := (roundsUp_iff_scaled some).mp up
    refine ⟨?_, ?_, ?_⟩
    · rw [number_reading, more, thousand, pow_succ]
      field_simp
      norm_num
    · rw [significant_reading some, thousand]
      decide
    · exact (point_mem_reading_iff n).mpr (by omega)

/-- A byte less than a hundred megabytes is rounded up to them, with a decimal too many. -/
theorem hundred_megabytes_not_precise :
    ∃ p : Printed, Binary64.Holds 104857599 ∧ Shows (104857599 : ℕ) p ∧ p.text = "100.0 MB" ∧
      RoundsUp 0 ((104857599 : ℕ) / p.scale.bytes) ∧ ¬p.Precise ∧ p.number = 100 := by
  have holds : Binary64.Holds 104857599 := Binary64.holds_of_lt (by decide)
  obtain ⟨p, shows, precise, long⟩ := shown_precise_iff (n := 104857599) (by decide) holds
  obtain rfl := (shows (printed 1 1000 .mega)).mp (by decide +kernel)
  have up : RoundsUp 0 ((104857599 : ℕ) / (printed 1 1000 .mega).scale.bytes) := by
    norm_num [RoundsUp, printed, Scale.bytes]
  obtain ⟨number, -, -⟩ := long 0 up
  refine ⟨_, holds, (shows _).mpr rfl, by decide +kernel, up, fun three => ?_, ?_⟩
  · exact precise.mp three 0 up
  · simpa using number

/-- Less than a hundredth of a megabyte is shown with four significant digits. -/
theorem hundredth_shown_with_four_digits :
    ∃ p : Printed, Binary64.Holds 10481 ∧ Shows 10481 p ∧ p.text = "0.01000 MB" ∧
      p.number < 100 ∧ p.significant.length = 4 :=
  ⟨printed 5 1000 .mega, Binary64.holds_of_lt (by decide), by decide +kernel, by decide +kernel,
    by decide +kernel, by decide +kernel⟩

end SavedGames.ByteSize
