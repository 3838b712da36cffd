import Mathlib
import SavedGames.Proofs.Game.Cycle

/-!
# Games that a save keeps whole

Where nothing is at hand that a save does not keep, a game comes back from its save unchanged, but
for the start that its age in whole seconds gives it.
-/
namespace SavedGames

/-- A save keeps the player of seat `i` whole: a sorted hand of cards, no ships without a sea, and
no piece of another seat. -/
structure Player.Whole (hasSea : Bool) (i : Nat) (p : Player) : Prop where
  number : p.number = i
  cards : ∀ holding, ∀ item ∈ p.hand.items holding, item.card?.isSome
  sorted : p.hand.IsSorted
  ships : hasSea = false → p.stock.ships = 0
  owned : ∀ piece ∈ p.pieces ++ p.fortress.toList, piece.owner.toNat = i

/-- In a vacant seat nothing is to be kept but where it may build. -/
structure Seat.Whole (hasSea : Bool) (i : Nat) (s : Seat) : Prop where
  idle : s.vacant = true → s.player = { Player.fresh i hasSea with
    potentialNodes := s.player.potentialNodes
    seaEdges := s.player.seaEdges }
  player : s.vacant = false → s.player.Whole hasSea i

structure Game.Whole (g : Game) : Prop where
  savable : g.phase.isSavable = true
  board : g.board.settled = g.board
  vacant : g.vacant.length = g.players.length
  seats : ∀ (i : Nat) (s : Seat), g.seats[i]? = some s → s.Whole g.hasSea i

theorem Player.Whole.settled_eq {hasSea : Bool} {i : Nat} {p : Player} (h : p.Whole hasSea i) :
    p.settled hasSea = p := by
  rw [settled, Hand.settled_of_isSorted h.sorted]
  cases hasSea with
  | true => rfl
  | false =>
    have none : { p.stock with ships := 0 } = p.stock := by rw [← h.ships rfl]
    rw [if_neg Bool.false_ne_true, none]

namespace Seat.Whole

variable {hasSea : Bool} {i : Nat} {s : Seat}

theorem number (h : s.Whole hasSea i) : s.player.number = i := by
  cases vacant : s.vacant with
  | true => exact congrArg Player.number (h.idle vacant)
  | false => exact (h.player vacant).number

theorem settled_eq (h : s.Whole hasSea i) : s.settled hasSea = s := by
  have number := h.number
  obtain ⟨player, vacant⟩ := s
  dsimp only at number
  cases vacant with
  | true =>
    rw [settled, if_pos rfl, number]
    exact congrArg (Seat.mk · true) (h.idle rfl).symm
  | false =>
    rw [settled, if_neg Bool.false_ne_true, (h.player rfl).settled_eq]

theorem holdsCards (h : s.Whole hasSea i) : s.HoldsCards := fun occupied =>
  (h.player occupied).cards

end Seat.Whole

namespace Game

variable {g : Game} {now startTime : Instant} {pretty : Bool}

theorem Whole.consistent (h : g.Whole) : g.Consistent :=
  consistent_of_seats (fun i s there => (h.seats i s there).number) h.vacant

theorem Whole.settled_eq (h : g.Whole) (startTime : Instant) :
    g.settled startTime = { g with startTime } := by
  have players : g.seats.map (fun s => (s.settled g.hasSea).player) = g.players := by
    rw [← map_player_seats]
    refine List.map_congr_left fun s hs => ?_
    obtain ⟨i, there⟩ := List.mem_iff_getElem?.mp hs
    rw [(h.seats i s there).settled_eq]
  rw [settled, h.board, players]

theorem reloadable_of_whole (h : g.Whole) (name : Snapshot.isBlankName g.name = false)
    (filled : g.seats ≠ []) (player : ∃ i < g.seats.length, g.currentPlayer.toInt = i)
    (minVersion : g.minVersion ≤ engineVersion) : g.Reloadable :=
  ⟨name, filled, .inr player, minVersion, fun i s there occupied =>
    ((h.seats i s there).player occupied).owned⟩

/-- What a save keeps whole comes back as it was, apart from its start. -/
theorem reloaded_of_whole (whole : g.Whole) (reloadable : g.Reloadable)
    (small : g.seats.length < 2 ^ 31)
    (start : now.subSeconds? (Instant.elapsedSeconds g.startTime now).toInt = some startTime) :
    g.reloaded pretty now = .ok { g with startTime } := by
  have cards : ∀ s ∈ g.seats, s.HoldsCards := by
    intro s hs
    obtain ⟨i, there⟩ := List.mem_iff_getElem?.mp hs
    exact (whole.seats i s there).holdsCards
  have consistent := whole.consistent
  have valid : (g.snapshot now).Valid :=
    (valid_snapshot consistent.numbered whole.savable small).mpr reloadable
  rw [reloaded_of_start consistent whole.savable cards small start, Snapshot.check_eq_ok.mpr valid,
    whole.settled_eq, Except.map]

end Game

end SavedGames
