import Mathlib
import SavedGames.Proofs.Options

/-!
# What a raw value spells

Every raw value spells one setting, a flag, a number, a number with a flag or else a text, and it is
unpacked as this setting. So a text that was unpacked is never ambiguous, and a setting has no other
separators than its raw value.
-/
namespace SavedGames.Setting

/-- The raw values of a setting. What has none of the other forms is text. -/
inductive Spells : Setting → List Char → Prop
  | flag (b : Bool) : Spells (flag b) [flagChar b]
  | number {n : Int32} {cs : List Char} (literal : Decimal.Literal n.toInt cs) :
      Spells (number n) cs
  | flaggedNumber (b : Bool) {n : Int32} {cs : List Char} (literal : Decimal.Literal n.toInt cs) :
      Spells (flaggedNumber b n) (flagChar b :: cs)
  | text {cs : List Char} (noFlag : ∀ b, cs ≠ [flagChar b])
      (noNumber : ∀ n : Int32, ¬ Decimal.Literal n.toInt cs)
      (noFlaggedNumber : ∀ (b : Bool) (rest : List Char) (n : Int32),
        cs = flagChar b :: rest → ¬ Decimal.Literal n.toInt rest) :
      Spells (text (String.ofList cs)) cs

variable {s : Setting} {cs : List Char}

theorem flagged?_eq_some :
    flagged? cs = some s ↔
      ∃ (b : Bool) (rest : List Char) (n : Int32),
        cs = flagChar b :: rest ∧ Decimal.int32? rest = some n ∧ s = flaggedNumber b n := by
  constructor
  · intro read
    unfold flagged? at read
    split at read
    · obtain ⟨n, number, rfl⟩ := Option.map_eq_some_iff.mp read
      exact ⟨true, _, n, rfl, number, rfl⟩
    · obtain ⟨n, number, rfl⟩ := Option.map_eq_some_iff.mp read
      exact ⟨false, _, n, rfl, number, rfl⟩
    · cases read
  · rintro ⟨b, rest, n, rfl, number, rfl⟩
    cases b <;> simp [flagged?, flagChar, number]

theorem spells_unpack (cs : List Char) : Spells (unpack cs) cs := by
  unfold unpack
  split
  · rename_i flag
    exact flag ▸ .flag true
  · rename_i notTrue
    split
    · rename_i flag
      exact flag ▸ .flag false
    · rename_i notFalse
      split
      · rename_i number
        exact .number (Decimal.int32?_eq_some.mp number)
      · rename_i flagged
        obtain ⟨b, rest, n, rfl, number, rfl⟩ := flagged?_eq_some.mp flagged
        exact .flaggedNumber b (Decimal.int32?_eq_some.mp number)
      · rename_i noNumber noFlagged
        refine .text (fun b => ?_) (fun n literal => ?_) (fun b rest n flagged literal => ?_)
        · cases b
          · exact notFalse
          · exact notTrue
        · rw [Decimal.int32?_eq_some.mpr literal] at noNumber
          cases noNumber
        · rw [flagged?_eq_some.mpr ⟨b, rest, n, flagged, Decimal.int32?_eq_some.mpr literal, rfl⟩]
            at noFlagged
          cases noFlagged

theorem not_literal_flag {n : Int32} {b : Bool} : ¬ Decimal.Literal n.toInt (flagChar b :: cs) := by
  intro literal
  have read := Decimal.int32?_eq_some.mpr literal
  rw [int32?_flagged] at read
  cases read

theorem unpack_of_noFlag (noFlag : ∀ b, cs ≠ [flagChar b]) :
    unpack cs =
      ((Decimal.int32? cs).map number).getD ((flagged? cs).getD (text (String.ofList cs))) := by
  have notTrue : cs ≠ ['t'] := noFlag true
  have notFalse : cs ≠ ['f'] := noFlag false
  rw [unpack, if_neg notTrue, if_neg notFalse]
  cases Decimal.int32? cs <;> cases flagged? cs <;> rfl

/-- A raw value has one meaning. -/
theorem unpack_eq_iff : unpack cs = s ↔ Spells s cs := by
  constructor
  · rintro rfl
    exact spells_unpack cs
  · intro spells
    cases spells with
    | flag b => cases b <;> rfl
    | number literal =>
      have noFlag (b : Bool) : cs ≠ [flagChar b] := fun flag => not_literal_flag (flag ▸ literal)
      rw [unpack_of_noFlag noFlag, Decimal.int32?_eq_some.mpr literal]
      rfl
    | @flaggedNumber b n rest literal =>
      -- what begins with a flag is no literal, and with a literal behind it no lone flag
      have noFlag (c : Bool) : flagChar b :: rest ≠ [flagChar c] := by
        intro flag
        exact literal.ne_nil (List.cons.inj flag).2
      have flagged : flagged? (flagChar b :: rest) = some (.flaggedNumber b n) :=
        flagged?_eq_some.mpr ⟨b, rest, n, rfl, Decimal.int32?_eq_some.mpr literal, rfl⟩
      rw [unpack_of_noFlag noFlag, int32?_flagged, flagged]
      rfl
    | text noFlag noNumber noFlaggedNumber =>
      have number : Decimal.int32? cs = none :=
        Option.eq_none_iff_forall_ne_some.mpr fun n read =>
          noNumber n (Decimal.int32?_eq_some.mp read)
      have flagged : flagged? cs = none := by
        refine Option.eq_none_iff_forall_ne_some.mpr fun s read => ?_
        obtain ⟨b, rest, n, split, literal, -⟩ := flagged?_eq_some.mp read
        exact noFlaggedNumber b rest n split (Decimal.int32?_eq_some.mp literal)
      rw [unpack_of_noFlag noFlag, number, flagged]
      rfl

/-- What was read is never read as something else, so text is not ambiguous. -/
theorem isAmbiguous_unpack (cs : List Char) : (unpack cs).isAmbiguous = false := by
  cases read : unpack cs with
  | text t =>
    have spells := unpack_eq_iff.mp read
    cases spells
    simp [isAmbiguous, read]
  | _ => rfl

theorem any_isSeparator_of_literal {n : Int} (literal : Decimal.Literal n cs) :
    cs.any isSeparator = false := by
  refine List.any_eq_false.mpr fun c hc => ?_
  rcases literal.of_mem hc with rfl | rfl | digit
  · decide
  · decide
  · simp [isSeparator_of_isDigit digit]

/-- A setting has the separators of its raw value. -/
theorem Spells.hasSeparator_eq (h : Spells s cs) : s.hasSeparator = cs.any isSeparator := by
  cases h with
  | flag b => cases b <;> rfl
  | number literal => exact (any_isSeparator_of_literal literal).symm
  | flaggedNumber b literal =>
    rw [List.any_cons, isSeparator_flagChar, Bool.false_or]
    exact (any_isSeparator_of_literal literal).symm
  | text => simp [hasSeparator]

end SavedGames.Setting
