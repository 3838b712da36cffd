import Mathlib
import SavedGames.Proofs.Snapshot.Reading

/-!
# The text of a snapshot loses nothing

Either written form of a snapshot stands for that snapshot and for no other one.
-/
namespace SavedGames.Snapshot

/-- Both texts are read back whole, the check decides whether a game may be built from them, and
snapshots that are written alike are the same. -/
theorem text_lossless {m : Snapshot} (h : m.IsNarrow) :
    (∀ pretty, decode (m.text pretty) = .ok m) ∧
      (∀ pretty, ofText (m.text pretty) = m.check.map fun _ => m) ∧
      ∀ n : Snapshot, n.IsNarrow → n.text false = m.text false → n = m := by
  refine ⟨decode_written h, ofText_written h, fun n hn same => ?_⟩
  have decoded : decode (m.text false) = .ok n := same ▸ decode_written hn false
  rw [decode_written h] at decoded
  exact (Except.ok.inj decoded).symm

/-- A save of a board with a sea: one player at the table, one seat free. -/
def specimen : Snapshot where
  version := modelVersion
  minVersion := 2000
  name := "two \"islands\"\n"
  options := some "PL=2,SBL=t"
  duration := 754
  currentPlayer := 1
  phase := .rollOrCard
  dice := 8
  board :=
    { layout := .parted ⟨.large, TextMap.empty.insert "NL" (.numbers [4, 5])
        |>.insert "HL" (.numbers [1, 6]) |>.insert "PH" (.text "none")⟩
      potentials := [⟨.only 1, [34, 69], 0, 0, [], [[515, 516], []]⟩] }
  seats :=
    [SeatRecord.empty,
      { SeatRecord.empty with
        name := some "Ada"
        vacant := false
        totalVp := 3
        elements := [(.roads, 13), (.resource .ore, 2)]
        newCards := [.knight]
        oldCards := [.temple, .roads]
        pieces := [⟨.road, 1042, 1, none⟩]
        fortress := some (.fortress 516 1 3) }]
  constraints := [.vacant 0, .robotClass 1 "none"]

theorem specimen_lossless :
    specimen.IsNarrow ∧ decode (specimen.text true) = .ok specimen ∧
      ofText (specimen.text false) = .ok specimen := by
  have narrow : specimen.IsNarrow := by simp [specimen, IsNarrow, SeatScope.IsNarrow]
  obtain ⟨decoded, loaded, -⟩ := text_lossless narrow
  exact ⟨narrow, decoded true, loaded false⟩

end SavedGames.Snapshot
