import Mathlib
import SavedGames.Proofs.Game.Settled
import SavedGames.Proofs.Instant
import SavedGames.Proofs.Snapshot.Resume

/-!
# Saving a game and loading it again

A game that is saved as a text, read back, restored and resumed at one instant is the game itself,
up to what a save does not keep. It is refused on the way for a few reasons only, all of which can
be seen in the running game.
-/
namespace SavedGames.Game

variable {g : Game} {pretty : Bool} {now : Instant}

/-- The game saved as a text, read back, restored, and resumed under its constraints. -/
def reloaded (g : Game) (pretty : Bool) (now : Instant) : Except SaveError Game := do
  let saved ← g.capture now
  let m ← Snapshot.ofText (saved.text pretty)
  let waiting ← restore m now
  (m.resume false []).changed waiting

/-- A save of the game can be loaded again. -/
structure Reloadable (g : Game) : Prop where
  name : Snapshot.isBlankName g.name = false
  seats : g.seats ≠ []
  player : g.currentPlayer = -1 ∨ ∃ i < g.seats.length, g.currentPlayer.toInt = i
  minVersion : g.minVersion ≤ engineVersion
  owned : ∀ (i : Nat) (s : Seat), g.seats[i]? = some s → s.vacant = false →
    ∀ piece ∈ s.player.pieces ++ s.player.fortress.toList, piece.owner.toNat = i

/-- Why a save of the game cannot be loaded. -/
inductive Refuses (g : Game) : SaveError → Prop
  | minVersion (h : ¬ g.minVersion ≤ engineVersion) : Refuses g (.engineTooOld g.minVersion)
  | name (h : Snapshot.isBlankName g.name = true) : Refuses g (.invalid .emptyName)
  | seats (h : g.seats = []) : Refuses g (.invalid .noSeats)
  | player (h : ¬ (g.currentPlayer = -1 ∨ ∃ i < g.seats.length, g.currentPlayer.toInt = i)) :
      Refuses g (.invalid (.currentPlayerOutOfRange g.currentPlayer g.seats.length))
  | owned {i : Nat} {s : Seat} {piece : Piece} (there : g.seats[i]? = some s)
      (occupied : s.vacant = false)
      (mem : piece ∈ s.player.pieces ++ s.player.fortress.toList)
      (other : piece.owner.toNat ≠ i) : Refuses g (.invalid (.misownedPiece i piece))

theorem player_snapshot (small : g.seats.length < 2 ^ 31) :
    (-1 ≤ g.currentPlayer ∧ g.currentPlayer < (g.snapshot now).seatLimit) ↔
      (g.currentPlayer = -1 ∨ ∃ i < g.seats.length, g.currentPlayer.toInt = i) := by
  rw [Snapshot.seatLimit, snapshot, List.length_map]
  exact Snapshot.player_iff small

theorem validAt_record {i : Nat} {s : Seat} (hasSea : Bool) :
    (s.record hasSea).ValidAt i ↔ (s.vacant = false →
      ∀ piece ∈ s.player.pieces ++ s.player.fortress.toList, piece.owner.toNat = i) := by
  cases vacant : s.vacant with
  | true =>
    rw [Seat.record_of_vacant vacant]
    have valid : SeatRecord.empty.ValidAt i := ⟨fun _ => rfl, by
      simp [SeatRecord.owned, SeatRecord.empty]⟩
    exact ⟨fun _ h => absurd h (by decide), fun _ => valid⟩
  | false =>
    rw [← Seat.owned_record vacant]
    have occupied : (s.record hasSea).vacant = false := by rw [Seat.vacant_record, vacant]
    constructor
    · intro h _
      exact h.owned
    · intro h
      exact ⟨fun bad => absurd (occupied ▸ bad) (by decide), h rfl⟩

/-- The records of a save are valid if the pieces in the occupied seats are their own. -/
theorem validAt_snapshot :
    (∀ (i : Nat) (r : SeatRecord), (g.snapshot now).seats[i]? = some r → r.ValidAt i) ↔
      ∀ (i : Nat) (s : Seat), g.seats[i]? = some s → s.vacant = false →
        ∀ piece ∈ s.player.pieces ++ s.player.fortress.toList, piece.owner.toNat = i := by
  constructor
  · intro valid i s there
    exact (validAt_record g.hasSea).mp (valid i _ (by simp [snapshot, there]))
  · intro owned i r there
    obtain ⟨s, seat, rfl⟩ : ∃ s, g.seats[i]? = some s ∧ s.record g.hasSea = r := by
      simpa [snapshot] using there
    exact (validAt_record g.hasSea).mpr (owned i s seat)

theorem valid_snapshot (numbered : g.IsNumbered) (savable : g.phase.isSavable = true)
    (small : g.seats.length < 2 ^ 31) :
    (g.snapshot now).Valid ↔ g.Reloadable := by
  constructor
  · intro valid
    refine ⟨valid.name, fun none => valid.seats (by simp [snapshot, none]),
      (player_snapshot small).mp valid.player, valid.minVersion, validAt_snapshot.mp valid.records⟩
  · intro h
    refine ⟨rfl, h.minVersion, h.name, fun none => h.seats (by simpa [snapshot] using none),
      (player_snapshot small).mpr h.player, savable, Instant.elapsedSeconds_nonneg _ _, ?_,
      validAt_snapshot.mpr h.owned⟩
    simpa [snapshot, maxPlayers] using potentials_inRange numbered

theorem refuses_of_checkSeats {e : SaveError}
    (h : Snapshot.checkSeats 0 (g.snapshot now).seats = .error e) : g.Refuses e := by
  obtain ⟨i, r, there, fault⟩ := Snapshot.checkSeats_eq_error h
  obtain ⟨s, seat, rfl⟩ : ∃ s, g.seats[i]? = some s ∧ s.record g.hasSea = r := by
    simpa [snapshot] using there
  rw [Nat.zero_add] at fault
  cases vacant : s.vacant with
  | true =>
    -- the record of a vacant seat is empty: there is neither play nor a piece in it
    rw [Seat.record_of_vacant vacant] at fault
    rcases fault with ⟨-, play, -⟩ | ⟨piece, mem, -⟩
    · cases play
    · simp [SeatRecord.owned, SeatRecord.empty] at mem
  | false =>
    rcases fault with ⟨bad, -⟩ | ⟨piece, mem, other, rfl⟩
    · rw [Seat.vacant_record, vacant] at bad
      cases bad
    · rw [Seat.owned_record vacant] at mem
      exact .owned seat vacant mem other

/-- Four of the conditions always hold for a save, so no check of theirs refuses it. -/
theorem refuses_of_check (numbered : g.IsNumbered) (savable : g.phase.isSavable = true)
    (small : g.seats.length < 2 ^ 31) {e : SaveError}
    (h : (g.snapshot now).check = .error e) : g.Refuses e := by
  have potentials : Snapshot.checkPotentials (g.snapshot now).seats.length
      (g.snapshot now).board.potentials = .ok () :=
    Snapshot.checkPotentials_eq_ok.mpr (by
      simpa [snapshot, maxPlayers] using potentials_inRange numbered)
  have age : 0 ≤ (g.snapshot now).duration := Instant.elapsedSeconds_nonneg _ _
  have phase : (g.snapshot now).phase.isSavable = true := savable
  have version : (g.snapshot now).version = modelVersion := rfl
  have seats : (g.snapshot now).seats.length = g.seats.length := by simp [snapshot]
  simp only [Snapshot.check, Snapshot.require_bind, if_pos version, if_pos phase, if_pos age,
    potentials, Snapshot.ite_error_eq_error] at h
  rcases h with ⟨tooNew, rfl⟩ | ⟨-, ⟨blank, rfl⟩ | ⟨-, ⟨none, rfl⟩ | ⟨-, ⟨outside, rfl⟩ | ⟨-, h⟩⟩⟩⟩
  · exact .minVersion tooNew
  · exact .name (by simpa [snapshot] using blank)
  · exact .seats (by simpa [snapshot] using none)
  · rw [seats]
    exact .player ((player_snapshot small).not.mp outside)
  · exact refuses_of_checkSeats h

theorem isNarrow_snapshot (numbered : g.IsNumbered) (small : g.seats.length < 2 ^ 31) :
    (g.snapshot now).IsNarrow :=
  potentials_isNarrow numbered (by simpa [maxPlayers] using small)

/-- What becomes of a game that can be saved. -/
theorem reloaded_of_capture (numbered : g.IsNumbered) (savable : g.phase.isSavable = true)
    (cards : ∀ s ∈ g.seats, s.HoldsCards) (small : g.seats.length < 2 ^ 31) :
    g.reloaded pretty now = (do
      (g.snapshot now).check
      let waiting ← restore (g.snapshot now) now
      ((g.snapshot now).resume false []).changed waiting) := by
  have narrow : (g.snapshot now).IsNarrow := isNarrow_snapshot numbered small
  have captured : g.capture now = .ok (g.snapshot now) := capture_eq savable cards
  have read := Snapshot.ofText_written narrow pretty
  cases check : (g.snapshot now).check <;>
    simp [reloaded, captured, read, check, bind, Except.bind, Except.map]

theorem resume_snapshot (g : Game) (saved startTime : Instant) (ignore : Bool) :
    ((g.snapshot saved).resume ignore []).changed { g.settled startTime with phase := .loading } =
      .ok (g.settled startTime) := by
  refine Change.changed_eq_ok.mpr (Snapshot.resume_eq_ok.mpr ⟨rfl, ?_, rfl⟩)
  cases ignore <;> rfl

theorem reloaded_of_start {startTime : Instant} (consistent : g.Consistent)
    (savable : g.phase.isSavable = true)
    (cards : ∀ s ∈ g.seats, s.HoldsCards) (small : g.seats.length < 2 ^ 31)
    (start : now.subSeconds? (Instant.elapsedSeconds g.startTime now).toInt = some startTime) :
    g.reloaded pretty now = (g.snapshot now).check.map fun _ => g.settled startTime := by
  rw [reloaded_of_capture consistent.numbered savable cards small]
  cases check : (g.snapshot now).check with
  | error e => rfl
  | ok u =>
    have valid := Snapshot.check_eq_ok.mp check
    have restored := restore_snapshot consistent small cards valid start
    simp only [restored, resume_snapshot, bind, Except.bind, Except.map]

/-- A game in the classic encoding: a player with cards of all kinds, and a seat that was left. -/
def specimen : Game where
  name := "harbour"
  options := some .empty
  startTime := .mk 1000 250
  currentPlayer := 0
  phase := .play
  dice := 5
  board := { encoding := .classic, hexes := [3, 4], numbers := [8], robberHex := 1, harbors := [2] }
  players :=
    [{ Player.fresh 0 false with
        name := some "Ada"
        totalVp := 4
        hand := ⟨[.card .knight], [.card .temple, .card .roads], [.card .market]⟩
        pieces := [⟨.city, 34, 0, none⟩]
        potentialNodes := [35] },
      { Player.fresh 1 false with name := some "Bob", seaEdges := [[515]] }]
  vacant := [false, true]

theorem specimen_consistent : specimen.Consistent := ⟨isNumbered_iff.mpr rfl, rfl⟩

theorem specimen_cards : ∀ s ∈ specimen.seats, s.HoldsCards := by
  simp only [seats, specimen, List.mapIdx_cons, List.mapIdx_nil, List.mem_cons, List.not_mem_nil,
    or_false, forall_eq_or_imp, forall_eq]
  refine ⟨fun _ holding => ?_, fun vacant => absurd vacant (by decide)⟩
  cases holding <;> simp [Hand.items, Item.card?]

/-- What comes back is the game itself, up to what a save does not keep. -/
theorem reloaded_eq_settled {r : Game} (consistent : g.Consistent)
    (small : g.seats.length < 2 ^ 31) (h : g.reloaded pretty now = .ok r) :
    ∃ startTime, now.subSeconds? (Instant.elapsedSeconds g.startTime now).toInt = some startTime ∧
      r = g.settled startTime := by
  cases captured : g.capture now with
  | error e => simp [reloaded, captured, bind, Except.bind] at h
  | ok m =>
    obtain ⟨savable, cards, rfl⟩ := capture_eq_ok.mp captured
    have chain := h
    rw [reloaded_of_capture consistent.numbered savable cards small] at chain
    cases check : (g.snapshot now).check with
    | error e => simp [check, bind, Except.bind] at chain
    | ok u =>
      cases restored : restore (g.snapshot now) now with
      | error e => simp [check, restored, bind, Except.bind] at chain
      | ok waiting =>
        obtain ⟨-, -, -, startTime, -, -, start, -⟩ := Snapshot.restore_eq_ok.mp restored
        rw [reloaded_of_start consistent savable cards small start, check] at h
        exact ⟨startTime, start, (Except.ok.inj h).symm⟩

theorem specimen_reloaded :
    specimen.Consistent ∧ specimen.seats.length < 2 ^ 31 ∧
      specimen.reloaded true (.mk 1010 0) = .ok (specimen.settled (.mk 1000 0)) ∧
      ∃ startTime, (Instant.mk 1010 0).subSeconds?
          (Instant.elapsedSeconds specimen.startTime (.mk 1010 0)).toInt = some startTime ∧
        specimen.settled (.mk 1000 0) = specimen.settled startTime := by
  have small : specimen.seats.length < 2 ^ 31 := by decide
  have reload : specimen.reloaded true (.mk 1010 0) = .ok (specimen.settled (.mk 1000 0)) := by
    rw [reloaded_of_start specimen_consistent (by decide) specimen_cards small (by rfl)]
    rfl
  exact ⟨specimen_consistent, small, reload,
    reloaded_eq_settled specimen_consistent small reload⟩

/-- A save is refused for the reasons of `Refuses` only, and for none if the game is reloadable. -/
theorem reloaded_isOk_iff {m : Snapshot} (consistent : g.Consistent)
    (small : g.seats.length < 2 ^ 31) (captured : g.capture now = .ok m)
    (start : (now.subSeconds? m.duration.toInt).isSome) :
    ((∃ r, g.reloaded pretty now = .ok r) ↔ g.Reloadable) ∧
      ∀ e, g.reloaded pretty now = .error e → g.Refuses e := by
  obtain ⟨savable, cards, rfl⟩ := capture_eq_ok.mp captured
  obtain ⟨startTime, start⟩ := Option.isSome_iff_exists.mp start
  rw [reloaded_of_start consistent savable cards small start,
    ← valid_snapshot consistent.numbered savable small, ← Snapshot.check_eq_ok]
  cases check : (g.snapshot now).check with
  | error e =>
    refine ⟨by simp [Except.map], fun e' he => ?_⟩
    obtain rfl : e = e' := by simpa [Except.map] using he
    exact refuses_of_check consistent.numbered savable small check
  | ok u => exact ⟨by simp [Except.map], by simp [Except.map]⟩

theorem specimen_reloadable :
    specimen.capture (.mk 1010 0) = .ok (specimen.snapshot (.mk 1010 0)) ∧
      ((∃ r, specimen.reloaded false (.mk 1010 0) = .ok r) ↔ specimen.Reloadable) ∧
      ∀ e, specimen.reloaded false (.mk 1010 0) = .error e → specimen.Refuses e := by
  have captured : specimen.capture (.mk 1010 0) = .ok (specimen.snapshot (.mk 1010 0)) :=
    capture_eq (by decide) specimen_cards
  exact ⟨captured, reloaded_isOk_iff specimen_consistent (by decide) captured (by decide)⟩

end SavedGames.Game
