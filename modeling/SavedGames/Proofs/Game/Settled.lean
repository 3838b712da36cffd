import Mathlib
import SavedGames.Proofs.Game.Board
import SavedGames.Proofs.Game.Capture
import SavedGames.Proofs.Game.Potentials
import SavedGames.Proofs.Options
import SavedGames.Proofs.Session

/-!
# What is left of a game that was saved and restored

Restoring what a game is saved as gives the game back, up to what a save does not keep: the cards of
earlier turns are sorted, a vacant seat keeps nothing but where it may build, and the board keeps
what its encoding has a place for.
-/
namespace SavedGames

def Item.isVictoryPoint : Item → Bool
  | card c => c.isVictoryPoint
  | special _ => false

/-- The hand with the cards of earlier turns sorted: a victory point is kept, the others can be
played. -/
def Hand.settled (h : Hand) : Hand where
  new := h.new
  playable := (h.playable ++ h.kept).filter fun item => !item.isVictoryPoint
  kept := (h.playable ++ h.kept).filter Item.isVictoryPoint

/-- The player of an occupied seat as a save keeps it. There are no ships without a sea. -/
def Player.settled (hasSea : Bool) (p : Player) : Player :=
  { p with
    hand := p.hand.settled
    stock := if hasSea then p.stock else { p.stock with ships := 0 } }

def Seat.settled (hasSea : Bool) (s : Seat) : Seat :=
  { s with
    player :=
      if s.vacant then
        { Player.fresh s.player.number hasSea with
          potentialNodes := s.player.potentialNodes
          seaEdges := s.player.seaEdges }
      else s.player.settled hasSea }

/-- The game as a save keeps it, begun at another time. -/
def Game.settled (g : Game) (startTime : Instant) : Game :=
  { g with
    startTime
    board := g.board.settled
    players := g.seats.map fun s => (s.settled g.hasSea).player }

namespace Player

variable {p q : Player} {hasSea : Bool}

theorem withElements_view (warships : q.warships = 0) :
    q.withElements (p.view.elements hasSea) =
      { q with
        resources := p.resources
        knights := p.knights
        stock := if hasSea then p.stock else { p.stock with ships := q.stock.ships }
        warships := p.warships } := by
  by_cases none : p.warships = 0 <;> cases hasSea <;>
    simp [withElements, SeatView.elements, SeatView.stocked_eq, Element.stockOf?, Resource.all,
      withElement, Element.resource?, Element.piece?, Resources.set, Stock.set, view,
      Resources.amount, Stock.count, none, warships]

end Player

/-- Items that are cards are the items of their cards. -/
theorem Item.map_card {items : List Item} (h : ∀ item ∈ items, item.card?.isSome) :
    (items.filterMap Item.card?).map .card = items := by
  induction items with
  | nil => rfl
  | cons item items ih =>
    obtain ⟨here, others⟩ := List.forall_mem_cons.mp h
    cases item with
    | card c => simp [Item.card?, ih others]
    | special type => simp [Item.card?] at here

theorem Item.filter_card {items : List Item} {f : Card → Bool} {k : Item → Bool}
    (agree : ∀ c, k (.card c) = f c) (h : ∀ item ∈ items, item.card?.isSome) :
    ((items.filterMap Item.card?).filter f).map .card = items.filter k := by
  have inside : k ∘ Item.card = f := funext agree
  conv_rhs => rw [← Item.map_card h, List.filter_map, inside]

/-- A captured seat is restored to what a save keeps of it. -/
theorem Seat.ofRecord_record {s : Seat} {number : Nat} (hasSea : Bool) (h : s.HoldsCards)
    (numbered : s.player.number = number) :
    { Player.ofRecord number (s.record hasSea) hasSea with
      potentialNodes := s.player.potentialNodes
      seaEdges := s.player.seaEdges } = (s.settled hasSea).player := by
  subst numbered
  cases vacant : s.vacant with
  | true => simp [record, vacant, settled, Player.ofRecord, SeatRecord.empty, Player.fresh]
  | false =>
    have cards := h vacant
    have old : ∀ item ∈ s.player.hand.playable ++ s.player.hand.kept, item.card?.isSome :=
      fun item hi => (List.mem_append.mp hi).elim (cards .playable item) (cards .kept item)
    have new : ∀ item ∈ s.player.hand.new, item.card?.isSome := cards .new
    have playable := Item.filter_card (f := fun c => !c.isVictoryPoint) (k := fun item =>
      !item.isVictoryPoint) (fun _ => rfl) old
    have kept := Item.filter_card (f := Card.isVictoryPoint) (k := Item.isVictoryPoint)
      (fun _ => rfl) old
    simp only [record, vacant, settled, Player.ofRecord, Player.withElements_view,
      Player.withCards_eq, Bool.false_eq_true, if_false, Item.map_card new, playable, kept,
      Player.settled, Hand.settled, Player.fresh, List.nil_append]
    cases hasSea <;> rfl

@[simp] theorem Seat.vacant_settled (hasSea : Bool) (s : Seat) :
    (s.settled hasSea).vacant = s.vacant := rfl

theorem Seat.holdsCards_settled {s : Seat} (hasSea : Bool) (h : s.HoldsCards) :
    (s.settled hasSea).HoldsCards := by
  intro vacant holding item hi
  rw [vacant_settled] at vacant
  simp only [settled, vacant, if_neg Bool.false_ne_true] at hi
  cases holding with
  | new => exact h vacant .new item hi
  | playable | kept =>
    rcases List.mem_append.mp (List.mem_filter.mp hi).1 with hi | hi
    · exact h vacant .playable item hi
    · exact h vacant .kept item hi

theorem Game.unpackOptions_pack (options : Option Options) :
    unpackOptions (options.map Options.pack) = .ok options := by
  cases options with
  | none => rfl
  | some o => simp [unpackOptions, Options.parse_packed, Except.map, Except.mapError]

namespace Game

variable {g : Game} {saved loaded startTime : Instant}

theorem seats_settled (g : Game) (startTime : Instant) :
    (g.settled startTime).seats = g.seats.map (Seat.settled g.hasSea) := by
  refine List.ext_getElem? fun i => ?_
  have player : (g.settled startTime).player? i =
      g.seats[i]?.map fun s => (s.settled g.hasSea).player := List.getElem?_map
  have vacancy : (g.settled startTime).isVacant i = g.isVacant i := rfl
  rw [getElem?_seats, player, vacancy, List.getElem?_map]
  cases there : g.seats[i]? with
  | none => rfl
  | some s =>
    rw [isVacant_of_seat there]
    rfl

/-- What a valid snapshot of a consistent game is restored to. -/
theorem restore_snapshot (consistent : g.Consistent) (small : g.seats.length < 2 ^ 31)
    (cards : ∀ s ∈ g.seats, s.HoldsCards) (valid : (g.snapshot saved).Valid)
    (start : loaded.subSeconds? (g.snapshot saved).duration.toInt = some startTime) :
    Game.restore (g.snapshot saved) loaded =
      .ok { g.settled startTime with phase := .loading } := by
  refine Snapshot.restore_eq_ok.mpr ⟨valid, g.options, g.board.settled.withoutLandAreas, startTime,
    unpackOptions_pack _, Board.ofLayout_layout _, start, ?_⟩
  have filled : g.players ≠ [] := fun none =>
    valid.seats (by simp [snapshot, seats_eq_nil_iff.mpr none])
  have board : g.board.settled.withoutLandAreas.withLandAreasOf (g.potentials .every) =
      g.board.settled := by
    rw [withLandAreasOf_potentials _ filled, Board.landAreas_settled]
  have sea : g.board.settled.withoutLandAreas.hasSea = g.hasSea := by
    simp [Board.withoutLandAreas, Board.hasSea, hasSea]
  have fits : g.players.length ≤ 2 ^ 64 := by
    rw [length_seats, maxPlayers] at small
    omega
  have players : (g.settled startTime).players = ((g.snapshot saved).waiting g.options
      g.board.settled.withoutLandAreas startTime).players := by
    refine List.ext_getElem? fun i => ?_
    cases there : g.seats[i]? with
    | none => simp [settled, Snapshot.waiting, snapshot, there]
    | some s =>
      have sits := player?_of_seat there
      have player := Seat.ofRecord_record g.hasSea (cards s (List.mem_of_getElem? there))
        (consistent.numbered i _ sits)
      have potentials := withPotentialsAt_potentials consistent.numbered fits sits
      simp only [settled, Snapshot.waiting, snapshot, List.getElem?_map, List.getElem?_mapIdx,
        there, Option.map_some, SeatRecord.restored, potentials, sea, player]
  have vacant : g.vacant = (g.snapshot saved).seats.map SeatRecord.vacant := by
    rw [snapshot, List.map_map, ← map_vacant_seats consistent.vacant]
    exact List.map_congr_left fun s _ => Seat.vacant_record.symm
  -- field by field, only the board, the players and the vacancies are put in another way
  change _ = Game.mk g.name g.options startTime g.currentPlayer .loading g.minVersion g.dice
    (g.board.settled.withoutLandAreas.withLandAreasOf (g.potentials .every))
    ((g.snapshot saved).waiting g.options g.board.settled.withoutLandAreas startTime).players
    ((g.snapshot saved).seats.map SeatRecord.vacant)
  rw [board, ← players, ← vacant]
  rfl

end Game

end SavedGames
