import Mathlib
import SavedGames.Proofs.Game.Dealt

/-!
# The books of a sample game

Whatever is drawn for a sample game, its books are in order: the stock of a player and his pieces on
the board are together what he began with, his points are those of his buildings and of his kept
cards, the turn is that of somebody at the table, and the dice go with the phase.
-/
namespace SavedGames

/-- The books of the player of seat `i`. -/
structure Player.KeepsBooks (hasSea : Bool) (i : Nat) (p : Player) : Prop where
  stock : ∀ kind ∈ PieceKind.buildable, 0 ≤ (p.stock.count kind).toInt ∧
    (p.stock.count kind).toInt + Piece.countOf kind p.pieces =
      ((Stock.full hasSea).count kind).toInt
  owned : ∀ piece ∈ p.pieces ++ p.fortress.toList, piece.owner.toNat = i
  points : p.totalVp.toInt = Piece.countOf .settlement p.pieces +
    2 * Piece.countOf .city p.pieces + p.hand.kept.length
  cards : ∀ holding, ∀ item ∈ p.hand.items holding, item.card?.isSome
  kept : ∀ item ∈ p.hand.kept, item.isVictoryPoint = true
  played : ∀ item ∈ p.hand.new ++ p.hand.playable, item.isVictoryPoint = false

/-- The books of a game in which somebody sits in seat zero. -/
structure Game.KeepsBooks (g : Game) : Prop where
  consistent : g.Consistent
  host : g.isVacant 0 = false
  current : ∃ i : Nat, g.currentPlayer.toInt = i ∧ g.isVacant i = false
  players : ∀ (i : Nat) (p : Player), g.player? i = some p → p.KeepsBooks g.hasSea i
  vacant : ∀ (i : Nat) (p : Player), g.player? i = some p → g.isVacant i = true →
    p = { Player.fresh i g.hasSea with
      potentialNodes := p.potentialNodes
      seaEdges := p.seaEdges }
  unrolled : g.dice = 0 ↔ g.phase = .rollOrCard
  seven : g.phase = .placingRobber ∨ g.phase = .waitingForDiscards → g.dice = 7
  rolled : g.phase ≠ .rollOrCard → g.phase ≠ .placingRobber → g.phase ≠ .waitingForDiscards →
    2 ≤ g.dice.toInt ∧ g.dice.toInt ≤ 12

namespace Sample

variable {hasSea : Bool} {i kept : Nat} {r : Rolls} {s : Seat}

/-- No roll asks for more pieces than a player has. -/
theorem Follows.countOf_le (h : Follows hasSea i s r kept) {kind : PieceKind}
    (built : kind ∈ PieceKind.buildable) :
    (Piece.countOf kind s.player.pieces : Int) ≤ ((Stock.full hasSea).count kind).toInt := by
  have settled := h.fits.settlements
  have cities := h.fits.cities
  have ships := h.fits.ships
  rw [h.plays.pieces, Rolls.countOf_board h.fits]
  simp only [PieceKind.buildable, List.mem_cons, List.not_mem_nil, or_false] at built
  rcases built with rfl | rfl | rfl | rfl
  · exact (show (r.settlements : Int) ≤ 15 by omega)
  · exact (show ((r.settlements - r.cities : Nat) : Int) ≤ 5 by omega)
  · exact (show (r.cities : Int) ≤ 4 by omega)
  · cases hasSea with
    | true => exact (show (r.ships : Int) ≤ 15 by omega)
    | false => exact (show (r.ships : Int) ≤ 0 by rw [h.fits.dry rfl]; rfl)

theorem Follows.points_eq (h : Follows hasSea i s r kept) :
    s.player.totalVp.toInt = Piece.countOf .settlement s.player.pieces +
      2 * Piece.countOf .city s.player.pieces + s.player.hand.kept.length := by
  have settled := h.fits.settlements
  have cities := h.fits.cities_le
  have few := h.few
  have value : (Int32.ofNat (r.settlements + r.cities + kept)).toInt =
      (r.settlements + r.cities + kept : Nat) := Int32.toInt_ofNat_of_lt (by omega)
  rw [h.points, value, h.plays.pieces, h.plays.kept, Rolls.countOf_board h.fits,
    Rolls.countOf_board h.fits, Rolls.count, Rolls.count]
  omega

/-- A player who is kept whole has cards of the right kind and pieces of his own. In a vacant seat
there is nothing to be wrong. -/
theorem keepsBooks_of_known (h : Known hasSea i s) : s.player.KeepsBooks hasSea i := by
  obtain ⟨whole, r, kept, follows⟩ := h
  have stock : ∀ kind ∈ PieceKind.buildable, 0 ≤ (s.player.stock.count kind).toInt ∧
      (s.player.stock.count kind).toInt + Piece.countOf kind s.player.pieces =
        ((Stock.full hasSea).count kind).toInt := by
    intro kind built
    have balance := follows.plays.stock kind built
    have enough := follows.countOf_le built
    exact ⟨by omega, balance⟩
  cases vacant : s.vacant with
  | true =>
    have idle := whole.idle vacant
    have hand : s.player.hand = {} := by rw [idle]; rfl
    have pieces : s.player.pieces ++ s.player.fortress.toList = [] := by rw [idle]; rfl
    refine ⟨stock, ?_, follows.points_eq, ?_, ?_, ?_⟩
    · simp [pieces]
    · intro holding
      cases holding <;> simp [hand, Hand.items]
    · simp [hand]
    · simp [hand]
  | false =>
    have player := whole.player vacant
    refine ⟨stock, player.owned, follows.points_eq, player.cards, player.sorted.kept, ?_⟩
    exact List.forall_mem_append.mpr ⟨follows.plays.new, player.sorted.playable⟩

section Dice

variable {phase : Phase} {n : Int32}

theorem DiceOf.eq_zero_iff (h : DiceOf phase n) : n = 0 ↔ phase = .rollOrCard := by
  unfold DiceOf at h
  split_ifs at h with before seven
  · exact ⟨fun _ => before, fun _ => h⟩
  · exact ⟨fun none => absurd (h.symm.trans none) (by decide), fun same => absurd same before⟩
  · refine ⟨fun none => ?_, fun same => absurd same before⟩
    have low := h.1
    rw [none] at low
    exact absurd low (by decide)

theorem DiceOf.eq_seven (h : DiceOf phase n)
    (seven : phase = .placingRobber ∨ phase = .waitingForDiscards) : n = 7 := by
  have rolled : phase ≠ .rollOrCard := by
    rcases seven with rfl | rfl <;> decide
  rwa [DiceOf, if_neg rolled, if_pos seven] at h

theorem DiceOf.mem_range (h : DiceOf phase n) (rolled : phase ≠ .rollOrCard)
    (robber : phase ≠ .placingRobber) (discards : phase ≠ .waitingForDiscards) :
    2 ≤ n.toInt ∧ n.toInt ≤ 12 := by
  rwa [DiceOf, if_neg rolled, if_neg (not_or.mpr ⟨robber, discards⟩)] at h

end Dice

end Sample

namespace Game

/-- The books of every sample game are in order. -/
theorem sample_keepsBooks (seed : UInt64) {maxPlayers : Nat} (startTime : Instant)
    (filled : 1 ≤ maxPlayers) (few : maxPlayers ≤ 2 ^ 20) :
    ∃ g, sample? seed maxPlayers startTime = some g ∧ g.maxPlayers = maxPlayers ∧
      g.KeepsBooks := by
  obtain ⟨g, others, drawn, size, known⟩ := exists_sample seed startTime filled few
  refine ⟨g, drawn, (length_seats g).symm.trans (known.size.trans size.symm), ?_⟩
  obtain ⟨host, there, taken⟩ := known.host
  obtain ⟨i, s, player, found, occupied⟩ := known.current
  have inside : i < g.seats.length := (List.getElem?_eq_some_iff.mp found).1
  have number : g.currentPlayer.toInt = i := by
    rw [player]
    exact Int32.toInt_ofNat_of_lt (by have := known.size; omega)
  constructor
  · exact consistent_of_seats (fun i s there => (known.seats i s there).1.number) known.vacant
  · rw [isVacant_of_seat there, taken]
  · exact ⟨i, number, by rw [isVacant_of_seat found, occupied]⟩
  · exact fun i p here => Sample.keepsBooks_of_known (known.seats i _ (seat_of_player? here))
  · exact fun i p here => (known.seats i _ (seat_of_player? here)).1.idle
  · exact known.dice.eq_zero_iff
  · exact known.dice.eq_seven
  · exact known.dice.mem_range

/-- Four seats at sea. -/
theorem sample_sea_keepsBooks :
    ∃ g, sample? 17 4 (.mk 1709316000 250000000) = some g ∧ g.hasSea = true ∧ g.maxPlayers = 4 ∧
      g.KeepsBooks := by
  obtain ⟨g, drawn, size, books⟩ :=
    sample_keepsBooks 17 (.mk 1709316000 250000000) (show 1 ≤ 4 by decide) (by decide)
  have sea : (sample? 17 4 (.mk 1709316000 250000000)).map hasSea = some true := by decide +kernel
  rw [drawn, Option.map_some, Option.some.injEq] at sea
  exact ⟨g, drawn, sea, size, books⟩

end Game
end SavedGames
