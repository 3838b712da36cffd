import Mathlib
import SavedGames.ByteSize
import SavedGames.Proofs.Binary64
import SavedGames.Proofs.Decimal

/-!
# What a shown size says

The text of a size can be read in one way only, as a decimal number and a unit. The number is the
size in this unit, rounded at the last decimal, and the decimals are the fewest with which the size
has at least a hundred units of the last one.
-/
namespace SavedGames.ByteSize

/-- The units that sizes are shown in. -/
inductive Scale where
  | mega
  | giga
  deriving DecidableEq, Repr

namespace Scale

def name : Scale → String
  | mega => "MB"
  | giga => "GB"

def bytes : Scale → Nat
  | mega => 2 ^ 20
  | giga => 2 ^ 30

def ofCount (n : Nat) : Scale := if 2 ^ 30 ≤ n then giga else mega

theorem bytes_pos (u : Scale) : 0 < u.bytes := by cases u <;> decide

theorem point_notMem_name (u : Scale) : '.' ∉ u.name.toList := by cases u <;> decide

theorem blank_notMem_name (u : Scale) : ' ' ∉ u.name.toList := by cases u <;> decide

theorem toList_name_injective {u v : Scale} (h : u.name.toList = v.name.toList) : u = v := by
  cases u <;> cases v
  · rfl
  · exact absurd h (by decide)
  · exact absurd h (by decide)
  · rfl

end Scale

/-- A size as it is read: digits in front of the point, digits behind it, and the unit. There is no
point where no digits stand behind it. -/
structure Printed where
  whole : List Char
  decimals : List Char
  scale : Scale
  whole_ne_nil : whole ≠ []
  digits : ∀ c ∈ whole ++ decimals, c.isDigit = true

namespace Printed

variable {p q : Printed}

def numeral (p : Printed) : List Char :=
  if p.decimals = [] then p.whole else p.whole ++ '.' :: p.decimals

def text (p : Printed) : String := String.ofList (p.numeral ++ ' ' :: p.scale.name.toList)

def number (p : Printed) : ℚ :=
  Nat.ofDigitChars 10 (p.whole ++ p.decimals) 0 / 10 ^ p.decimals.length

/-- The digits from the first one on that is not zero. -/
def significant (p : Printed) : List Char := (p.whole ++ p.decimals).dropWhile (· == '0')

/-- The size in bytes. -/
def quantity (p : Printed) : ℚ := p.number * p.scale.bytes

/-- Half a unit of the last decimal place, in bytes. -/
def halfStep (p : Printed) : ℚ := p.scale.bytes / 10 ^ p.decimals.length / 2

theorem notMem_digits (p : Printed) {c : Char} (h : c.isDigit = false) :
    c ∉ p.whole ∧ c ∉ p.decimals := by
  rw [← not_or, ← List.mem_append]
  intro there
  rw [p.digits c there] at h
  exact absurd h (by decide)

theorem point_mem_numeral_iff : '.' ∈ p.numeral ↔ p.decimals ≠ [] := by
  have noPoint := p.notMem_digits (c := '.') rfl
  unfold numeral
  split <;> simp_all

theorem point_mem_text_iff : '.' ∈ p.text.toList ↔ p.decimals ≠ [] := by
  simp [text, point_mem_numeral_iff, p.scale.point_notMem_name]

theorem blank_notMem_numeral (p : Printed) : ' ' ∉ p.numeral := by
  have noBlank := p.notMem_digits (c := ' ') rfl
  unfold numeral
  split <;> simp_all

theorem numeral_injective (h : p.numeral = q.numeral) :
    p.whole = q.whole ∧ p.decimals = q.decimals := by
  have points : p.decimals = [] ↔ q.decimals = [] := by
    rw [← not_iff_not, ← ne_eq, ← ne_eq, ← point_mem_numeral_iff, ← point_mem_numeral_iff, h]
  unfold numeral at h
  by_cases none : p.decimals = []
  · have none' := points.mp none
    rw [if_pos none, if_pos none'] at h
    exact ⟨h, none.trans none'.symm⟩
  · rw [if_neg none, if_neg (mt points.mpr none)] at h
    have noPoint := p.notMem_digits (c := '.') rfl
    have parts := (List.append_cons_inj_of_notMem noPoint.1 noPoint.2).mp h
    exact ⟨parts.1, parts.2.2⟩

/-- A text is read in one way only. -/
theorem text_injective (h : p.text = q.text) : p = q := by
  have chars := String.ofList_injective h
  obtain ⟨numerals, -, names⟩ :=
    (List.append_cons_inj_of_notMem p.blank_notMem_numeral p.scale.blank_notMem_name).mp chars
  obtain ⟨wholes, decimals⟩ := numeral_injective numerals
  have scales := Scale.toList_name_injective names
  cases p
  cases q
  simp_all

end Printed

section Decimals

variable {s : ByteSize}

theorem numerator_mul_pow_mono (s : ByteSize) {i j : Nat} (le : i ≤ j) :
    s.numerator * 10 ^ i ≤ s.numerator * 10 ^ j :=
  Nat.mul_le_mul_left _ (Nat.pow_le_pow_right (by decide) le)

/-- The first digit stands at the first place at which the size has a whole unit. -/
theorem leadingPlace_le_iff {fuel place : Nat}
    (enough : s.denominator ≤ s.numerator * 10 ^ (place + fuel)) (d : Nat) :
    s.leadingPlace fuel place ≤ d ↔ place ≤ d ∧ s.denominator ≤ s.numerator * 10 ^ d := by
  induction fuel generalizing place with
  | zero =>
    rw [leadingPlace]
    exact ⟨fun le => ⟨le, enough.trans (s.numerator_mul_pow_mono le)⟩, And.left⟩
  | succ fuel ih =>
    rw [leadingPlace, tenTo_eq]
    split
    · rename_i reached
      exact ⟨fun le => ⟨le, reached.trans (s.numerator_mul_pow_mono le)⟩, And.left⟩
    · rename_i missed
      have later : s.leadingPlace fuel (place + 1) ≤ d ↔ _ :=
        ih (by rwa [Nat.add_assoc, Nat.add_comm 1])
      rw [later]
      refine and_congr_left fun reached => ⟨Nat.le_of_succ_le, fun le => ?_⟩
      refine Nat.lt_of_le_of_ne le ?_
      rintro rfl
      exact missed reached

/-- Below one unit, the decimals go two places further than the zeros. -/
theorem leadingPlace_add_two_le_iff (some : 0 < s.numerator)
    (small : s.numerator < s.denominator) (d : Nat) :
    2 + s.leadingPlace s.denominator 1 ≤ d ↔ 100 * s.denominator ≤ s.numerator * 10 ^ d := by
  have enough : s.denominator ≤ s.numerator * 10 ^ (1 + s.denominator) :=
    calc s.denominator ≤ 1 + s.denominator := Nat.le_add_left ..
      _ ≤ 10 ^ (1 + s.denominator) := (Nat.lt_pow_self (by decide)).le
      _ ≤ s.numerator * 10 ^ (1 + s.denominator) := Nat.le_mul_of_pos_left _ some
  match d with
  | 0 | 1 => omega
  | d + 2 =>
    rw [Nat.add_comm 2, Nat.add_le_add_iff_right, leadingPlace_le_iff enough]
    have scale : s.numerator * 10 ^ (d + 2) = 100 * (s.numerator * 10 ^ d) := by ring
    rw [scale, Nat.mul_le_mul_left_iff (by decide)]
    refine and_iff_right_of_imp fun reached => Nat.one_le_iff_ne_zero.mpr ?_
    rintro rfl
    omega

/-- It is enough that one decimal less is too few. -/
theorem fewest_le_iff {k : Nat} (reached : 100 * s.denominator ≤ s.numerator * 10 ^ k)
    (missed : ∀ j, k = j + 1 → s.numerator * 10 ^ j < 100 * s.denominator) (d : Nat) :
    k ≤ d ↔ 100 * s.denominator ≤ s.numerator * 10 ^ d := by
  refine ⟨fun le => reached.trans (s.numerator_mul_pow_mono le), fun enough => ?_⟩
  by_contra! less
  obtain ⟨j, rfl⟩ := Nat.exists_eq_succ_of_ne_zero (Nat.ne_zero_of_lt less)
  have := s.numerator_mul_pow_mono (Nat.le_of_lt_succ less)
  have := missed j rfl
  omega

/-- A size has the fewest decimals that make it at least a hundred units of the last one. -/
theorem decimals_le_iff (some : 0 < s.numerator) (d : Nat) :
    s.decimals ≤ d ↔ 100 * s.denominator ≤ s.numerator * 10 ^ d := by
  simp only [decimals, atLeast, decide_eq_true_eq, if_neg some.ne']
  split
  · exact fewest_le_iff (by omega) (by omega) d
  split
  · refine fewest_le_iff (by omega) (fun j hj => ?_) d
    obtain rfl : j = 0 := by omega
    omega
  split
  · refine fewest_le_iff (by omega) (fun j hj => ?_) d
    obtain rfl : j = 1 := by omega
    omega
  · exact leadingPlace_add_two_le_iff some (by omega) d

end Decimals

section Reading

variable {n : Nat} {p q : Printed}

/-- The digits of a number, the last ones of them behind the point. -/
def printed (places n : Nat) (scale : Scale) : Printed where
  whole := (Decimal.padded (places + 1) n).take ((Decimal.padded (places + 1) n).length - places)
  decimals := (Decimal.padded (places + 1) n).drop ((Decimal.padded (places + 1) n).length - places)
  scale := scale
  whole_ne_nil := by
    have enough := Decimal.le_length_padded (places + 1) n
    rw [← List.length_pos_iff, List.length_take]
    omega
  digits c h := by
    rw [List.take_append_drop] at h
    exact Decimal.isDigit_of_mem_padded h

theorem length_decimals_printed (places n : Nat) (scale : Scale) :
    (printed places n scale).decimals.length = places := by
  have enough := Decimal.le_length_padded (places + 1) n
  simp only [printed, List.length_drop]
  omega

theorem number_printed (places n : Nat) (scale : Scale) :
    (printed places n scale).number = n / 10 ^ places := by
  rw [Printed.number, length_decimals_printed]
  simp only [printed, List.take_append_drop, Decimal.ofDigitChars_padded]

theorem significant_printed (some : 0 < n) (places : Nat) (scale : Scale) :
    (printed places n scale).significant = Decimal.digits n := by
  simp only [Printed.significant, printed, List.take_append_drop, Decimal.dropWhile_padded some]

theorem numeral_printed (places n : Nat) (scale : Scale) :
    (printed places n scale).numeral = pointed places n := by
  have none_iff : (printed places n scale).decimals = [] ↔ places = 0 := by
    rw [← List.length_eq_zero_iff, length_decimals_printed]
  unfold Printed.numeral pointed
  by_cases none : places = 0
  · rw [if_pos (none_iff.mpr none), if_pos none]
    simp [printed, none]
  · rw [if_neg (mt none_iff.mp none), if_neg none]
    rfl

/-- The size of so many bytes, in its unit. -/
def ofCount (n : Nat) : ByteSize := ⟨n, (Scale.ofCount n).bytes, (Scale.ofCount n).name⟩

theorem ofBytes_of_holds (h : Binary64.Holds n) : ofBytes n = ofCount n := by
  obtain ⟨x, nearest, value⟩ := Binary64.nearest_of_holds h
  have same : rounded n = n := by simp only [rounded, nearest, value]
  have units : gigabyte = 2 ^ 30 ∧ megabyte = 2 ^ 20 := ⟨rfl, rfl⟩
  simp only [ofBytes, same, ofCount, Scale.ofCount, units]
  split <;> rfl

/-- What is read off the size of so many bytes. -/
def reading (n : Nat) : Printed :=
  printed (ofCount n).decimals (ofCount n).scaled (Scale.ofCount n)

theorem scaled_ofCount (n : Nat) :
    (ofCount n).scaled =
      roundHalfEven (n * 10 ^ (ofCount n).decimals) (Scale.ofCount n).bytes := rfl

theorem number_reading (n : Nat) :
    (reading n).number = (ofCount n).scaled / 10 ^ (ofCount n).decimals :=
  number_printed ..

theorem length_decimals_reading (n : Nat) :
    (reading n).decimals.length = (ofCount n).decimals :=
  length_decimals_printed ..

theorem text_reading (n : Nat) : (reading n).text = (ofCount n).text := by
  rw [Printed.text, reading, numeral_printed]
  rfl

/-- The size is shown as this text. -/
def Shows (bytes : Int) (p : Printed) : Prop := describe bytes = .ok p.text

instance (bytes : Int) (p : Printed) : Decidable (Shows bytes p) :=
  inferInstanceAs (Decidable (describe bytes = .ok p.text))

theorem shows_iff (h : Binary64.Holds n) : Shows n p ↔ p = reading n := by
  have shown : describe n = .ok (reading n).text := by
    rw [describe, if_neg (by omega), Int.toNat_natCast, ofBytes_of_holds h, text_reading]
  rw [Shows, shown]
  constructor
  · intro same
    exact Printed.text_injective (Except.ok.inj same).symm
  · rintro rfl
    rfl

end Reading

end SavedGames.ByteSize
