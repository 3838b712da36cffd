import Mathlib
import SavedGames.Text.Decimal

/-!
# Written numbers are read back

A number is written in its shortest decimal digits, so the reader of signed numbers and that of
32-bit numbers give it back. What they read is exactly the literals of a number.
-/
namespace SavedGames.Decimal

theorem digits_ne_nil (n : Nat) : digits n ≠ [] := Nat.toDigits_ne_nil

theorem isDigit_of_mem_digits {n : Nat} {c : Char} (h : c ∈ digits n) : c.isDigit = true :=
  Nat.isDigit_of_mem_toDigits (by decide) (by decide) h

theorem ofDigitChars_digits (n : Nat) : Nat.ofDigitChars 10 (digits n) 0 = n :=
  Nat.ofDigitChars_ten_toDigits

/-- Only the number zero begins with the digit zero. -/
theorem head?_digits_ne_zero {n : Nat} (h : 0 < n) : (digits n).head? ≠ some '0' := by
  induction n using Nat.strong_induction_on with
  | _ n ih =>
    by_cases small : n < 10
    · rw [digits, Nat.toDigits_of_lt_base small]
      interval_cases n <;> decide
    · have split : digits n = digits (n / 10) ++ [Nat.digitChar (n % 10)] :=
        Nat.toDigits_of_base_le (by decide) (by omega)
      have first := ih (n / 10) (by omega) (by omega)
      rwa [split, List.head?_append_of_ne_nil _ (digits_ne_nil _)]

theorem no_leading_zero {n : Nat} (h : 1 < (digits n).length) : (digits n).head? ≠ some '0' := by
  apply head?_digits_ne_zero
  by_contra zero
  obtain rfl : n = 0 := by omega
  simp [digits] at h

theorem length_digits_eq_iff {n k : Nat} (some : 0 < k) :
    (digits n).length = k + 1 ↔ 10 ^ k ≤ n ∧ n < 10 ^ (k + 1) := by
  have least := Nat.length_toDigits_le_iff (b := 10) (n := n) (by decide) some
  have most := Nat.length_toDigits_le_iff (b := 10) (n := n) (by decide) (Nat.succ_pos k)
  simp only [digits] at *
  omega

theorem le_length_padded (width n : Nat) : width ≤ (padded width n).length := by
  simp only [padded, List.length_append, List.length_replicate]
  omega

theorem isDigit_of_mem_padded {width n : Nat} {c : Char} (h : c ∈ padded width n) :
    c.isDigit = true := by
  rcases List.mem_append.mp h with zero | digit
  · rw [List.eq_of_mem_replicate zero]
    rfl
  · exact isDigit_of_mem_digits digit

theorem ofDigitChars_padded (width n : Nat) : Nat.ofDigitChars 10 (padded width n) 0 = n := by
  rw [padded, Nat.ofDigitChars_append, Nat.ofDigitChars_replicate_zero, Nat.mul_zero,
    ofDigitChars_digits]

/-- Without the zeros in front, the digits of a number are left. -/
theorem dropWhile_padded {n : Nat} (some : 0 < n) (width : Nat) :
    (padded width n).dropWhile (· == '0') = digits n := by
  have zeros : ∀ c ∈ List.replicate (width - (digits n).length) '0', (c == '0') = true :=
    fun c h => beq_iff_eq.mpr (List.eq_of_mem_replicate h)
  rw [padded, List.dropWhile_append_of_pos zeros]
  cases ds : digits n with
  | nil => rfl
  | cons c cs =>
    have first := head?_digits_ne_zero some
    rw [ds, List.head?_cons] at first
    exact List.dropWhile_cons_of_neg (by simpa using first)

theorem natural?_digits (n : Nat) : natural? (digits n) = some n := by
  have all : (digits n).all Char.isDigit = true :=
    List.all_eq_true.mpr fun c h => isDigit_of_mem_digits h
  simp [natural?, digits_ne_nil, all, ofDigitChars_digits]

/-- Where no sign stands in front, a signed number is read as an unsigned one. -/
theorem integer?_of_digits {cs : List Char} (h : ∀ c ∈ cs.head?, c.isDigit = true) :
    integer? cs = (natural? cs).map Int.ofNat := by
  unfold integer?
  split
  · simp at h
  · simp at h
  · rfl

theorem head?_digits (n : Nat) : ∀ c ∈ (digits n).head?, c.isDigit = true := fun _ h =>
  isDigit_of_mem_digits (List.mem_of_mem_head? h)

theorem integer?_write (n : Int) : integer? (write n) = some n := by
  unfold write
  split
  · rename_i negative
    simp only [integer?, natural?_digits, Option.pure_def, Option.bind_eq_bind, Option.bind_some,
      Option.map_some, Option.some.injEq]
    omega
  · rw [integer?_of_digits (head?_digits _), natural?_digits]
    simp only [Option.map_some, Option.some.injEq, Int.ofNat_eq_natCast]
    omega

theorem int32?_write (n : Int32) : int32? (write n.toInt) = some n := by
  have low := n.le_toInt
  have high := n.toInt_lt
  simp only [int32?, integer?_write, Option.bind_some]
  rw [if_pos (by omega), Int32.ofInt_toInt]

theorem write_ne_nil (n : Int) : write n ≠ [] := by
  unfold write
  split
  · simp
  · exact digits_ne_nil _

/-- A written number consists of digits and perhaps a minus sign. -/
theorem of_mem_write {n : Int} {c : Char} (h : c ∈ write n) : c = '-' ∨ c.isDigit = true := by
  unfold write at h
  split at h
  · rcases List.mem_cons.mp h with rfl | h
    · exact .inl rfl
    · exact .inr (isDigit_of_mem_digits h)
  · exact .inr (isDigit_of_mem_digits h)

/-- A signed number: at most one sign, at least one digit, and what they stand for. -/
inductive Literal : Int → List Char → Prop
  | plain {ds : List Char} (some : ds ≠ []) (digits : ∀ c ∈ ds, c.isDigit = true) :
      Literal (Nat.ofDigitChars 10 ds 0) ds
  | plus {ds : List Char} (some : ds ≠ []) (digits : ∀ c ∈ ds, c.isDigit = true) :
      Literal (Nat.ofDigitChars 10 ds 0) ('+' :: ds)
  | minus {ds : List Char} (some : ds ≠ []) (digits : ∀ c ∈ ds, c.isDigit = true) :
      Literal (-(Nat.ofDigitChars 10 ds 0)) ('-' :: ds)

theorem natural?_eq_some {cs : List Char} {n : Nat} :
    natural? cs = some n ↔
      cs ≠ [] ∧ (∀ c ∈ cs, c.isDigit = true) ∧ Nat.ofDigitChars 10 cs 0 = n := by
  simp [natural?, and_assoc]

theorem integer?_eq_some {cs : List Char} {n : Int} : integer? cs = some n ↔ Literal n cs := by
  constructor
  · intro read
    unfold integer? at read
    split at read
    · rename_i ds
      obtain ⟨k, natural, rfl⟩ : ∃ k : Nat, natural? ds = some k ∧ -(k : Int) = n := by
        simpa [Option.bind_eq_some_iff] using read
      obtain ⟨some, digits, rfl⟩ := natural?_eq_some.mp natural
      exact .minus some digits
    · obtain ⟨k, natural, rfl⟩ := Option.map_eq_some_iff.mp read
      obtain ⟨some, digits, rfl⟩ := natural?_eq_some.mp natural
      exact .plus some digits
    · obtain ⟨k, natural, rfl⟩ := Option.map_eq_some_iff.mp read
      obtain ⟨some, digits, rfl⟩ := natural?_eq_some.mp natural
      exact .plain some digits
  · rintro (⟨some, digits⟩ | ⟨some, digits⟩ | ⟨some, digits⟩)
    · have first : ∀ c ∈ cs.head?, c.isDigit = true := fun c hc =>
        digits c (List.mem_of_mem_head? hc)
      rw [integer?_of_digits first, natural?_eq_some.mpr ⟨some, digits, rfl⟩]
      rfl
    · rw [integer?, natural?_eq_some.mpr ⟨some, digits, rfl⟩]
      rfl
    · rw [integer?, natural?_eq_some.mpr ⟨some, digits, rfl⟩]
      rfl

/-- A number of 32 bits is read from the literals of that number, and from nothing else. -/
theorem int32?_eq_some {cs : List Char} {n : Int32} :
    int32? cs = some n ↔ Literal n.toInt cs := by
  rw [← integer?_eq_some, int32?, Option.bind_eq_some_iff]
  constructor
  · rintro ⟨k, read, fits⟩
    split at fits
    · rename_i range
      obtain rfl := Option.some.inj fits
      rwa [Int32.toInt_ofInt_of_le (by simpa using range.1) (by simpa using range.2)]
    · cases fits
  · intro read
    have low := n.le_toInt
    have high := n.toInt_lt
    exact ⟨n.toInt, read, by rw [if_pos (by omega), Int32.ofInt_toInt]⟩

theorem Literal.ne_nil {n : Int} {cs : List Char} (h : Literal n cs) : cs ≠ [] := by
  cases h with
  | plain some digits => exact some
  | plus some digits => simp
  | minus some digits => simp

/-- A literal consists of digits and perhaps a sign. -/
theorem Literal.of_mem {n : Int} {cs : List Char} (h : Literal n cs) {c : Char} (hc : c ∈ cs) :
    c = '+' ∨ c = '-' ∨ c.isDigit = true := by
  cases h with
  | plain some digits => exact .inr (.inr (digits c hc))
  | plus some digits =>
    rcases List.mem_cons.mp hc with rfl | hc
    · exact .inl rfl
    · exact .inr (.inr (digits c hc))
  | minus some digits =>
    rcases List.mem_cons.mp hc with rfl | hc
    · exact .inr (.inl rfl)
    · exact .inr (.inr (digits c hc))

end SavedGames.Decimal
