import Mathlib
import SavedGames.Proofs.Game.Reload

/-!
# Constraints before a save and after it

A constraint sees who sits in a seat, and nothing else of a session. The waiting game of a save has
the same table as the game that was saved, so every constraint holds of both games or fails for the
same reason.
-/
namespace SavedGames

/-- What a constraint sees of a player. -/
structure Occupant where
  isRobot : Bool
  isBuiltInRobot : Bool
  robotClass : Option String
  deriving DecidableEq, Repr

def SeatView.occupant (v : SeatView) : Occupant := ⟨v.isRobot, v.isBuiltInRobot, v.robotClass⟩

/-- As many seats in both sessions, with the same of them vacant and the same kinds of players in
the others. -/
structure Session.SameTable (s t : Session) : Prop where
  maxPlayers : s.maxPlayers = t.maxPlayers
  vacant : ∀ seat, s.isVacant seat = t.isVacant seat
  occupant : ∀ seat, s.isVacant seat = false →
    (s.seat? seat).map SeatView.occupant = (t.seat? seat).map SeatView.occupant

section Checks

variable {s t : Session}

theorem Constraint.admits_congr {v w : SeatView} (same : v.occupant = w.occupant)
    (c : Constraint) : c.admits v = c.admits w := by
  obtain ⟨robot, builtIn, robotClass⟩ := Occupant.mk.inj same
  cases c <;> simp only [admits, robot, builtIn, robotClass]

namespace Constraint

variable {c : Constraint}

theorem check_outside (outside : s.maxPlayers ≤ c.seat.toNat) :
    c.check s = .error (.noSeat c.seat s.maxPlayers) := by
  simp [check, Constraint.occupant, outside, bind, Except.bind]

theorem check_vacant (inside : c.seat.toNat < s.maxPlayers)
    (vacant : s.isVacant c.seat.toNat = true) :
    c.check s = if c.isVacancy then .ok () else .error (.nobody c.seat) := by
  simp [check, Constraint.occupant, Nat.not_le.mpr inside, vacant, bind, Except.bind]

theorem check_missing (inside : c.seat.toNat < s.maxPlayers)
    (occupied : s.isVacant c.seat.toNat = false) (missing : s.seat? c.seat.toNat = none) :
    c.check s = .error (.noPlayer c.seat) := by
  simp [check, Constraint.occupant, Nat.not_le.mpr inside, occupied, missing, bind, Except.bind]

theorem check_seated {v : SeatView} (inside : c.seat.toNat < s.maxPlayers)
    (occupied : s.isVacant c.seat.toNat = false) (seated : s.seat? c.seat.toNat = some v) :
    c.check s = if c.admits v then .ok () else .error (.mismatch c.seat) := by
  simp [check, Constraint.occupant, Nat.not_le.mpr inside, occupied, seated, bind, Except.bind]

/-- A constraint looks at the table alone. -/
theorem check_of_sameTable (h : s.SameTable t) (c : Constraint) : c.check s = c.check t := by
  rcases Nat.lt_or_ge c.seat.toNat s.maxPlayers with inside | outside
  · have inside' : c.seat.toNat < t.maxPlayers := h.maxPlayers ▸ inside
    have vacancy := h.vacant c.seat.toNat
    cases vacant : s.isVacant c.seat.toNat with
    | true =>
      rw [vacant, eq_comm] at vacancy
      rw [check_vacant inside vacant, check_vacant inside' vacancy]
    | false =>
      have seated := h.occupant c.seat.toNat vacant
      rw [vacant, eq_comm] at vacancy
      cases left : s.seat? c.seat.toNat with
      | none =>
        rw [left, Option.map_none, eq_comm, Option.map_eq_none_iff] at seated
        rw [check_missing inside vacant left, check_missing inside' vacancy seated]
      | some v =>
        rw [left, Option.map_some, eq_comm, Option.map_eq_some_iff] at seated
        obtain ⟨w, right, same⟩ := seated
        rw [check_seated inside vacant left, check_seated inside' vacancy right,
          admits_congr same]
  · have outside' : t.maxPlayers ≤ c.seat.toNat := h.maxPlayers ▸ outside
    rw [check_outside outside, check_outside outside', h.maxPlayers]

end Constraint

/-- Demands that two sessions meet alike are met by both or fail at the same one of them. -/
theorem checkDemands_congr {demands : List Demand} (h : ∀ d ∈ demands, d.check s = d.check t) :
    checkDemands s demands = checkDemands t demands := by
  induction demands with
  | nil => rfl
  | cons d demands ih =>
    obtain ⟨here, others⟩ := List.forall_mem_cons.mp h
    simp only [checkDemands, here, ih others]

end Checks

namespace Game

variable {g l : Game} {m : Snapshot} {saved loaded : Instant}

/-- A vacant seat is blanked in a save and an occupied one keeps its player. -/
theorem sameTable_settled (g : Game) (startTime : Instant) (phase : Phase) :
    ({ g.settled startTime with phase } : Game).session.SameTable g.session where
  maxPlayers := by simp [session, Game.maxPlayers, settled]
  vacant _ := rfl
  occupant := by
    intro seat occupied
    have sits : g.isVacant seat = false := occupied
    have player : ({ g.settled startTime with phase } : Game).player? seat =
        g.seats[seat]?.map fun s => (s.settled g.hasSea).player := List.getElem?_map
    simp only [session, player, player?_eq g, Option.map_map]
    cases there : g.seats[seat]? with
    | none => rfl
    | some s =>
      rw [isVacant_of_seat there] at sits
      simp [Seat.settled, sits, Player.settled, Player.view, SeatView.occupant]

/-- The waiting game of a save is the settled game in another phase. -/
theorem restored_eq_settled (consistent : g.Consistent) (small : g.seats.length < 2 ^ 31)
    (captured : g.capture saved = .ok m) (restored : restore m loaded = .ok l) :
    ∃ startTime, l = { g.settled startTime with phase := .loading } := by
  obtain ⟨-, cards, rfl⟩ := capture_eq_ok.mp captured
  obtain ⟨valid, -, -, startTime, -, -, start, -⟩ := Snapshot.restore_eq_ok.mp restored
  rw [restore_snapshot consistent small cards valid start] at restored
  exact ⟨startTime, (Except.ok.inj restored).symm⟩

/-- A constraint that is checked on the waiting game of a save gives the same answer as on the game
that was saved, and so do several constraints one after the other. -/
theorem check_restored (consistent : g.Consistent) (small : g.seats.length < 2 ^ 31)
    (captured : g.capture saved = .ok m) (restored : restore m loaded = .ok l ∨
      ∃ pretty n, Snapshot.ofText (m.text pretty) = .ok n ∧ restore n loaded = .ok l) :
    (∀ c : Constraint, c.check l.session = c.check g.session) ∧
      ∀ cs : List Constraint,
        checkDemands l.session (cs.map Constraint.demand) =
          checkDemands g.session (cs.map Constraint.demand) := by
  have direct : restore m loaded = .ok l := by
    rcases restored with direct | ⟨pretty, n, read, direct⟩
    · exact direct
    · obtain ⟨-, -, rfl⟩ := capture_eq_ok.mp captured
      have narrow : (g.snapshot saved).IsNarrow := isNarrow_snapshot consistent.numbered small
      rw [Snapshot.ofText_written narrow] at read
      obtain ⟨-, -, rfl⟩ : ∃ u, (g.snapshot saved).check = .ok u ∧ g.snapshot saved = n := by
        cases check : (g.snapshot saved).check <;> simp_all [Except.map]
      exact direct
  obtain ⟨startTime, rfl⟩ := restored_eq_settled consistent small captured direct
  have table := sameTable_settled g startTime .loading
  have same := Constraint.check_of_sameTable table
  refine ⟨same, fun cs => checkDemands_congr fun d hd => ?_⟩
  obtain ⟨c, -, rfl⟩ := List.mem_map.mp hd
  simp only [Constraint.demand, same c]

/-- A table with a human, a robot of the server, and the seat of a robot that has left. -/
def specimenTable : Game where
  name := "robots"
  startTime := .epoch
  phase := .play
  board := { encoding := .classic }
  players :=
    [{ Player.fresh 0 false with name := some "Ada" },
      { Player.fresh 1 false with
        isRobot := true
        isBuiltInRobot := true
        robotClass := some "builtin.Robot" },
      { Player.fresh 2 false with
        isRobot := true
        robotClass := some "bots.SmartRobot" }]
  vacant := [false, false, true]

theorem specimenTable_consistent : specimenTable.Consistent := ⟨isNumbered_iff.mpr rfl, rfl⟩

theorem specimenTable_cards : ∀ s ∈ specimenTable.seats, s.HoldsCards := by
  simp only [seats, specimenTable, List.mapIdx_cons, List.mapIdx_nil, List.mem_cons,
    List.not_mem_nil, or_false, forall_eq_or_imp, forall_eq]
  refine ⟨fun _ holding => ?_, fun _ holding => ?_, fun vacant => absurd vacant (by decide)⟩ <;>
    cases holding <;> simp [Player.fresh, Hand.items]

theorem specimenTable_check_restored :
    ∃ m n l, specimenTable.capture (.mk 60 0) = .ok m ∧ Snapshot.ofText (m.text true) = .ok n ∧
      restore n (.mk 500 7) = .ok l ∧
      (∀ c : Constraint, c.check l.session = c.check specimenTable.session) ∧
      [Constraint.human 0, .robotClass 1 "builtin.Robot", .human 1, .vacant 2, .robot 2,
          .vacant 3].map (·.check l.session) =
        [.ok (), .ok (), .error (.mismatch 1), .ok (), .error (.nobody 2),
          .error (.noSeat 3 3)] := by
  have small : specimenTable.seats.length < 2 ^ 31 := by decide
  have captured : specimenTable.capture (.mk 60 0) = .ok (specimenTable.snapshot (.mk 60 0)) :=
    capture_eq (by decide) specimenTable_cards
  have narrow : (specimenTable.snapshot (.mk 60 0)).IsNarrow :=
    isNarrow_snapshot specimenTable_consistent.numbered small
  have check : (specimenTable.snapshot (.mk 60 0)).check = .ok () := by decide
  have read : Snapshot.ofText ((specimenTable.snapshot (.mk 60 0)).text true) =
      .ok (specimenTable.snapshot (.mk 60 0)) := by
    rw [Snapshot.ofText_written narrow, check, Except.map]
  have restored : restore (specimenTable.snapshot (.mk 60 0)) (.mk 500 7) =
      .ok { specimenTable.settled (.mk 440 7) with phase := .loading } :=
    restore_snapshot specimenTable_consistent small specimenTable_cards
      (Snapshot.check_eq_ok.mp check) (by decide)
  obtain ⟨same, -⟩ :=
    check_restored specimenTable_consistent small captured (.inr ⟨true, _, read, restored⟩)
  refine ⟨_, _, _, captured, read, restored, same, ?_⟩
  simp only [same]
  decide

end Game

end SavedGames
