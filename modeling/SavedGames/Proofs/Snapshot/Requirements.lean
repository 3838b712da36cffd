import Mathlib
import SavedGames.Proofs.Snapshot.Lossless
import SavedGames.Proofs.Snapshot.Valid

/-!
# The first fault of a snapshot

What a snapshot must fulfil is a list of requirements in a fixed order. The check passes if all of
them hold, and otherwise it reports the fault of the first one that does not.
-/
namespace SavedGames.Snapshot

variable {m : Snapshot}

/-- All requirements in the order in which they are looked at: the turn and the names, the records
of potentials as they are listed, and the seats by number. -/
def requirements (m : Snapshot) : List Requirement :=
  [⟨m.version = modelVersion, .incompatibleVersion m.version⟩,
    ⟨m.minVersion ≤ engineVersion, .engineTooOld m.minVersion⟩,
    ⟨Text.trim m.name.toList ≠ [], .invalid .emptyName⟩,
    ⟨1 ≤ m.seats.length, .invalid .noSeats⟩,
    ⟨-1 ≤ m.currentPlayer.toInt ∧ m.currentPlayer.toInt < m.seats.length,
      .invalid (.currentPlayerOutOfRange m.currentPlayer m.seats.length)⟩,
    ⟨Phase.rollOrCard.code ≤ m.phase.code ∧ m.phase ≠ .loading ∧ m.phase ≠ .loadingResuming,
      .invalid (.phaseNotResumable m.phase)⟩,
    ⟨0 ≤ m.duration, .invalid .negativeDuration⟩] ++
  m.board.potentials.flatMap (Potentials.requirements m.seats.length) ++
  m.seats.zipIdx.flatMap fun s => s.1.requirements s.2

theorem isBlankName_iff (name : String) :
    (!isBlankName name) = true ↔ Text.trim name.toList ≠ [] := by
  simp [isBlankName]

theorem isSavable_iff {p : Phase} :
    p.isSavable = true ↔
      Phase.rollOrCard.code ≤ p.code ∧ p ≠ .loading ∧ p ≠ .loadingResuming := by
  simp [Phase.isSavable, Phase.isLoading]

/-- The check passes exactly if all requirements hold, and otherwise reports the first that does
not. -/
theorem check_reports_first (small : m.seats.length < 2 ^ 31) :
    (m.check = .ok () ↔ ∀ r ∈ m.requirements, r.holds) ∧
      ∀ e, m.check = .error e ↔ FirstFault m.requirements e := by
  have filled : m.seats ≠ [] ↔ 1 ≤ m.seats.length := List.length_pos_iff.symm
  have scans := (reports_checkPotentials m.seats.length m.board.potentials).bind
    (reports_checkSeats 0 m.seats)
  have report : Reports m.check m.requirements :=
    .require .rfl <| .require .rfl <| .require (isBlankName_iff m.name) <| .require filled <|
      .require (player_lt_iff small) <| .require isSavable_iff <| .require .rfl scans
  exact ⟨report.ok, report.error⟩

/-- A save with three faults: no room for the current player, a record of potentials for a third
seat, and a road of the other player. -/
def faulty : Snapshot :=
  { specimen with
    currentPlayer := 2
    board := { specimen.board with potentials := [⟨.only 2, [], 0, 0, [], []⟩] }
    seats := specimen.seats.map fun s => { s with pieces := [⟨.road, 1042, 0, none⟩] } }

theorem faulty_reported :
    faulty.seats.length < 2 ^ 31 ∧
      faulty.check = .error (.invalid (.currentPlayerOutOfRange 2 2)) ∧
      FirstFault faulty.requirements (.invalid (.currentPlayerOutOfRange 2 2)) ∧
      ¬ ∀ r ∈ faulty.requirements, r.holds := by
  have small : faulty.seats.length < 2 ^ 31 := by decide
  have checked : faulty.check = .error (.invalid (.currentPlayerOutOfRange 2 2)) := by decide
  obtain ⟨ok, error⟩ := check_reports_first small
  refine ⟨small, checked, (error _).mp checked, fun all => ?_⟩
  rw [ok.mpr all] at checked
  cases checked

end SavedGames.Snapshot
