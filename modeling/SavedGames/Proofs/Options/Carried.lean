import Mathlib
import SavedGames.Proofs.Options.Canonical

/-!
# What an option set takes

An option is taken exactly if its packed pair is read back as this option and no other one. It
replaces what the set had under its key, and an option that is refused changes nothing.
-/
namespace SavedGames.Options

/-- The text of a pair. -/
theorem pack_single {o : Options} {key : String} {s : Setting}
    (single : o.settings.entries = [(key, s)]) : o.pack = key ++ "=" ++ String.ofList s.pack := by
  refine String.toList_injective ?_
  simp [toList_pack, single, joined, packPair]

theorem entries_set_empty {key : String} {s : Setting}
    (fits : isKey key = true ∧ s.isPackable = true) :
    (empty.set (key, s)).settings.entries = [(key, s)] := by
  rw [settings_set, if_pos fits]
  rfl

/-- The set takes an option if and only if the packed text can carry it back. The option replaces
what was there under its key, and nothing changes if it is refused. -/
theorem insert_isOk_iff_carried (o : Options) (key : String) (s : Setting) :
    ((∃ next, (insert key s).on o = (.ok (), next)) ↔
      ∃ single, parse (key ++ "=" ++ String.ofList s.pack) = .ok single ∧
        single.settings.entries = [(key, s)]) ∧
      (∀ next, (insert key s).on o = (.ok (), next) → next.get? key = some s ∧
        ∀ other, other ≠ key → next.get? other = o.get? other) ∧
      ∀ fault next, (insert key s).on o = (.error fault, next) → next = o := by
  refine ⟨⟨?_, ?_⟩, ?_, ?_⟩
  · rintro ⟨next, taken⟩
    obtain ⟨isKey, packable, -⟩ := insert_eq_ok.mp taken
    have single := entries_set_empty ⟨isKey, packable⟩
    refine ⟨empty.set (key, s), ?_, single⟩
    rw [← pack_single single, parse_packed]
  -- no set holds an option that it would refuse, so it matters only that there is such a set
  · rintro ⟨single, -, entries⟩
    obtain ⟨isKey, packable⟩ := single.packable (key, s) (by simp [entries])
    exact ⟨_, insert_eq_ok.mpr ⟨isKey, packable, rfl⟩⟩
  · intro next taken
    obtain ⟨isKey, packable, rfl⟩ := insert_eq_ok.mp taken
    have fits : Options.isKey (key, s).1 = true ∧ (key, s).2.isPackable = true := ⟨isKey, packable⟩
    refine ⟨?_, fun other differs => ?_⟩
    · rw [get?_set fits, if_pos rfl]
    · rw [get?_set fits, if_neg differs.symm]
  · intro fault next refused
    have unpackable : ¬ (Options.isKey (key, s).1 ∧ (key, s).2.isPackable) := by
      rintro ⟨isKey, packable⟩
      rw [insert_eq_ok.mpr ⟨isKey, packable, rfl⟩] at refused
      cases refused
    obtain ⟨fault', kept⟩ := insert_of_not_packable o unpackable
    rw [refused] at kept
    exact (Prod.mk.inj kept).2

/-- A flag with a lone sign is a text that comes back, and a flag with a digit is not. -/
theorem flag_like_text_not_carried :
    (∃ single, parse "N7=t-" = .ok single ∧ single.settings.entries = [("N7", .text "t-")]) ∧
      ¬ ∃ single, parse "N7=t7" = .ok single ∧ single.settings.entries = [("N7", .text "t7")] := by
  obtain ⟨taken, -, -⟩ := insert_isOk_iff_carried empty "N7" (.text "t-")
  obtain ⟨refused, -, -⟩ := insert_isOk_iff_carried empty "N7" (.text "t7")
  refine ⟨taken.mp ⟨_, insert_eq_ok.mpr ⟨by decide, by decide, rfl⟩⟩, fun carried => ?_⟩
  obtain ⟨next, inserted⟩ := refused.mpr carried
  obtain ⟨-, packable, -⟩ := insert_eq_ok.mp inserted
  exact absurd packable (by decide)

end SavedGames.Options
