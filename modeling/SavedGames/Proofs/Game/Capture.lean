import Mathlib
import SavedGames.Proofs.Checks
import SavedGames.Proofs.Game.Seats

/-!
# What a game is saved as

A game is saved in every phase of play, unless an occupied seat holds something that is no card.
The snapshot has a record for each seat, and that of a vacant seat is empty.
-/
namespace SavedGames

def Item.card? : Item → Option Card
  | card c => some c
  | special _ => none

namespace SeatView

theorem cards_eq {seat : Nat} {items : List Item} (h : ∀ item ∈ items, item.card?.isSome) :
    cards seat items = .ok (items.filterMap Item.card?) := by
  induction items with
  | nil => rfl
  | cons item items ih =>
    obtain ⟨here, others⟩ := List.forall_mem_cons.mp h
    cases item with
    | card c => simp [cards, ih others, Except.map, Item.card?]
    | special type => simp [Item.card?] at here

theorem isSome_of_cards {seat : Nat} {items : List Item} {cs : List Card}
    (h : cards seat items = .ok cs) : ∀ item ∈ items, item.card?.isSome := by
  induction items generalizing cs with
  | nil => simp
  | cons item items ih =>
    cases item with
    | card c =>
      rw [cards] at h
      cases rest : cards seat items with
      | ok ds => exact List.forall_mem_cons.mpr ⟨rfl, ih rest⟩
      | error e => simp [rest, Except.map] at h
    | special type => simp [cards] at h

end SeatView

namespace Seat

/-- What an occupied seat holds are cards. -/
def HoldsCards (s : Seat) : Prop :=
  s.vacant = false → ∀ holding, ∀ item ∈ s.player.hand.items holding, item.card?.isSome

/-- The seat as it is saved. -/
def record (hasSea : Bool) (s : Seat) : SeatRecord :=
  if s.vacant then .empty
  else {
    name := s.player.name
    vacant := false
    totalVp := s.player.totalVp
    isRobot := s.player.isRobot
    isBuiltInRobot := s.player.isBuiltInRobot
    robotClass := s.player.robotClass
    faceId := s.player.faceId
    elements := s.player.view.elements hasSea
    newCards := s.player.hand.new.filterMap Item.card?
    oldCards := (s.player.hand.playable ++ s.player.hand.kept).filterMap Item.card?
    pieces := s.player.pieces
    fortress := s.player.fortress }

variable {s : Seat} {seat : Nat} {hasSea : Bool}

theorem record_of_vacant (vacant : s.vacant = true) : s.record hasSea = .empty := by
  simp [record, vacant]

@[simp] theorem vacant_record : (s.record hasSea).vacant = s.vacant := by
  cases vacant : s.vacant <;> simp [record, vacant, SeatRecord.empty]

theorem owned_record (occupied : s.vacant = false) :
    (s.record hasSea).owned = s.player.pieces ++ s.player.fortress.toList := by
  simp [record, occupied, SeatRecord.owned]

theorem capture_eq (h : s.HoldsCards) :
    s.player.view.capture seat s.vacant hasSea = .ok (s.record hasSea) := by
  cases vacant : s.vacant with
  | true => simp [SeatView.capture, record, vacant]
  | false =>
    have new : SeatView.cards seat (s.player.view.items .new) = _ :=
      SeatView.cards_eq (h vacant .new)
    have old : SeatView.cards seat
        (s.player.view.items .playable ++ s.player.view.items .kept) = _ :=
      SeatView.cards_eq fun item hi =>
        (List.mem_append.mp hi).elim (h vacant .playable item) (h vacant .kept item)
    simp only [SeatView.capture, Bool.false_eq_true, if_false, new, old, record, vacant]
    rfl

theorem holdsCards_of_capture {r : SeatRecord}
    (h : s.player.view.capture seat s.vacant hasSea = .ok r) : s.HoldsCards := by
  intro vacant holding item hi
  rw [SeatView.capture, vacant, if_neg Bool.false_ne_true] at h
  obtain ⟨newCards, new, h⟩ := bind_eq_ok.mp h
  obtain ⟨oldCards, old, -⟩ := bind_eq_ok.mp h
  have oldItems := SeatView.isSome_of_cards old
  cases holding with
  | new => exact SeatView.isSome_of_cards new item hi
  | playable => exact oldItems item (List.mem_append_left _ hi)
  | kept => exact oldItems item (List.mem_append_right _ hi)

end Seat

namespace Game

variable {g : Game} {now : Instant} {m : Snapshot}

def snapshot (g : Game) (now : Instant) : Snapshot where
  version := modelVersion
  minVersion := g.minVersion
  name := g.name
  options := g.options.map Options.pack
  duration := Instant.elapsedSeconds g.startTime now
  currentPlayer := g.currentPlayer
  phase := g.phase
  dice := g.dice
  board := ⟨g.board.layout, g.potentials .every⟩
  seats := g.seats.map (Seat.record g.hasSea)
  constraints := []

theorem captureSeats_cons {first count : Nat} {s : Seat} (there : g.seats[first]? = some s) :
    g.session.captureSeats (count + 1) first = do
      let record ← s.player.view.capture first s.vacant g.hasSea
      let records ← g.session.captureSeats count (first + 1)
      return record :: records := by
  simp [Session.captureSeats, session, player?_of_seat there, isVacant_of_seat there]

theorem captureSeats_eq {first : Nat} {seats : List Seat} (there : g.seats.drop first = seats)
    (h : ∀ s ∈ seats, s.HoldsCards) :
    g.session.captureSeats seats.length first = .ok (seats.map (Seat.record g.hasSea)) := by
  induction seats generalizing first with
  | nil => rfl
  | cons s seats ih =>
    obtain ⟨here, others⟩ := List.forall_mem_cons.mp h
    have head : g.seats[first]? = some s := by rw [← List.head?_drop, there, List.head?_cons]
    have tail : g.seats.drop (first + 1) = seats := by rw [← List.tail_drop, there, List.tail_cons]
    rw [List.length_cons, captureSeats_cons head, Seat.capture_eq here, ih tail others]
    rfl

theorem holdsCards_of_captureSeats {first : Nat} {seats : List Seat} {rs : List SeatRecord}
    (there : g.seats.drop first = seats)
    (h : g.session.captureSeats seats.length first = .ok rs) : ∀ s ∈ seats, s.HoldsCards := by
  induction seats generalizing first rs with
  | nil => simp
  | cons s seats ih =>
    have head : g.seats[first]? = some s := by rw [← List.head?_drop, there, List.head?_cons]
    have tail : g.seats.drop (first + 1) = seats := by rw [← List.tail_drop, there, List.tail_cons]
    rw [List.length_cons, captureSeats_cons head] at h
    obtain ⟨record, here, h⟩ := bind_eq_ok.mp h
    obtain ⟨records, others, -⟩ := bind_eq_ok.mp h
    exact List.forall_mem_cons.mpr ⟨Seat.holdsCards_of_capture here, ih tail others⟩

theorem capture_eq (savable : g.phase.isSavable = true) (cards : ∀ s ∈ g.seats, s.HoldsCards) :
    g.capture now = .ok (g.snapshot now) := by
  have seats : g.session.captureSeats g.seats.length 0 = _ := captureSeats_eq rfl cards
  have phase : g.session.phase.isSavable = true := savable
  have size : g.session.maxPlayers = g.seats.length := g.length_seats.symm
  rw [capture, Session.capture, if_pos phase, projection]
  simp only [size, seats]
  rfl

/-- A game can be saved exactly if it is in play and its players hold only cards. -/
theorem capture_eq_ok :
    g.capture now = .ok m ↔
      g.phase.isSavable = true ∧ (∀ s ∈ g.seats, s.HoldsCards) ∧ m = g.snapshot now := by
  constructor
  · intro h
    have captured := h
    have phase : g.session.phase = g.phase := rfl
    have size : g.session.maxPlayers = g.seats.length := g.length_seats.symm
    rw [capture, Session.capture, phase, projection] at h
    by_cases savable : g.phase.isSavable
    · rw [if_pos savable] at h
      obtain ⟨records, seats, -⟩ := bind_eq_ok.mp h
      rw [size] at seats
      have all : g.seats.drop 0 = g.seats := rfl
      have cards := holdsCards_of_captureSeats all seats
      rw [capture_eq savable cards] at captured
      exact ⟨savable, cards, (Except.ok.inj captured).symm⟩
    · simp [savable] at h
  · rintro ⟨savable, cards, rfl⟩
    exact capture_eq savable cards

end Game

end SavedGames
