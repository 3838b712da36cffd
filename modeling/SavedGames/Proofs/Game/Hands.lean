import Mathlib
import SavedGames.Proofs.Game.Reload

/-!
# The hands in a save

A save has every item in the hand of an occupied seat, as a card and in its place, or there is no
save. It has nothing of what lies in a vacant seat: those items, cards or not, are left out.
-/
namespace SavedGames

/-- Every item of a hand is in the record: the new cards, and the playable ones before the kept. -/
structure SeatRecord.HasHand (r : SeatRecord) (h : Hand) : Prop where
  new : r.newCards.map .card = h.new
  old : r.oldCards.map .card = h.playable ++ h.kept

def SeatRecord.cardCount (r : SeatRecord) : Nat := r.newCards.length + r.oldCards.length

def Snapshot.cardCount (m : Snapshot) : Nat := (m.seats.map SeatRecord.cardCount).sum

def Seat.itemCount (s : Seat) : Nat := s.player.hand.size

/-- What lies in a vacant seat. -/
def Seat.abandonedCount (s : Seat) : Nat := if s.vacant then s.itemCount else 0

def Game.itemCount (g : Game) : Nat := (g.seats.map Seat.itemCount).sum

def Game.abandonedCount (g : Game) : Nat := (g.seats.map Seat.abandonedCount).sum

namespace SeatRecord

theorem cardCount_of_hasHand {r : SeatRecord} {h : Hand} (has : r.HasHand h) :
    r.cardCount = h.size := by
  have new : r.newCards.length = h.new.length := by rw [← has.new, List.length_map]
  have old : r.oldCards.length = h.playable.length + h.kept.length := by
    rw [← List.length_append, ← has.old, List.length_map]
  rw [cardCount, Hand.size, new, old, Nat.add_assoc]

theorem hasHand_empty_iff {h : Hand} : empty.HasHand h ↔ h.size = 0 := by
  constructor
  · intro has
    exact (cardCount_of_hasHand has).symm
  · intro none
    have all : h.new.length = 0 ∧ h.playable.length = 0 ∧ h.kept.length = 0 := by
      rw [Hand.size] at none
      omega
    simp only [List.length_eq_zero_iff] at all
    obtain ⟨new, playable, kept⟩ := all
    exact ⟨by rw [new]; rfl, by rw [playable, kept]; rfl⟩

end SeatRecord

namespace Seat

variable {s : Seat} (hasSea : Bool)

theorem hasHand_record (holds : s.HoldsCards) (occupied : s.vacant = false) :
    (s.record hasSea).HasHand s.player.hand := by
  have new := Item.map_card (holds occupied .new)
  have old : ∀ item ∈ s.player.hand.playable ++ s.player.hand.kept, item.card?.isSome := by
    intro item hi
    rcases List.mem_append.mp hi with playable | kept
    · exact holds occupied .playable item playable
    · exact holds occupied .kept item kept
  rw [record, if_neg (by simp [occupied])]
  exact ⟨new, Item.map_card old⟩

theorem hasHand_record_iff (holds : s.HoldsCards) :
    (s.record hasSea).HasHand s.player.hand ↔ s.abandonedCount = 0 := by
  cases vacant : s.vacant with
  | true =>
    rw [record_of_vacant vacant, SeatRecord.hasHand_empty_iff, abandonedCount, if_pos vacant,
      itemCount]
  | false => simp [hasHand_record hasSea holds vacant, abandonedCount, vacant]

/-- The items of a seat are in the record, unless the seat is vacant. -/
theorem itemCount_eq (holds : s.HoldsCards) :
    s.itemCount = (s.record hasSea).cardCount + s.abandonedCount := by
  cases vacant : s.vacant with
  | true =>
    have none : SeatRecord.empty.cardCount = 0 := rfl
    rw [record_of_vacant vacant, none, Nat.zero_add, abandonedCount, if_pos vacant]
  | false =>
    have saved := SeatRecord.cardCount_of_hasHand (hasHand_record hasSea holds vacant)
    rw [saved, abandonedCount, vacant, if_neg Bool.false_ne_true, Nat.add_zero, itemCount]

theorem sum_itemCount {seats : List Seat} (holds : ∀ s ∈ seats, s.HoldsCards) :
    (seats.map itemCount).sum =
      ((seats.map (record hasSea)).map SeatRecord.cardCount).sum +
        (seats.map abandonedCount).sum := by
  induction seats with
  | nil => rfl
  | cons s seats ih =>
    obtain ⟨here, others⟩ := List.forall_mem_cons.mp holds
    have first := itemCount_eq hasSea here
    have rest := ih others
    simp only [List.map_cons, List.sum_cons]
    omega

end Seat

namespace Game

variable {g : Game} {m : Snapshot} {now : Instant}

/-- A save has the hands of the occupied seats, and all hands exactly if the vacant seats hold
nothing. What it lacks is what lies in them. -/
theorem hands_saved_iff (captured : g.capture now = .ok m) :
    (∀ (i : Nat) (s : Seat), g.seats[i]? = some s → s.vacant = false →
      ∃ r, m.seats[i]? = some r ∧ r.HasHand s.player.hand) ∧
    ((∀ (i : Nat) (s : Seat), g.seats[i]? = some s →
      ∃ r, m.seats[i]? = some r ∧ r.HasHand s.player.hand) ↔ g.abandonedCount = 0) ∧
    g.itemCount = m.cardCount + g.abandonedCount := by
  obtain ⟨-, cards, rfl⟩ := capture_eq_ok.mp captured
  have record {i : Nat} {s : Seat} (there : g.seats[i]? = some s) :
      (g.snapshot now).seats[i]? = some (s.record g.hasSea) := by simp [snapshot, there]
  have holds {i : Nat} {s : Seat} (there : g.seats[i]? = some s) : s.HoldsCards :=
    cards s (List.mem_of_getElem? there)
  refine ⟨?_, ⟨?_, ?_⟩, Seat.sum_itemCount g.hasSea cards⟩
  · intro i s there occupied
    exact ⟨_, record there, Seat.hasHand_record g.hasSea (holds there) occupied⟩
  · intro all
    refine List.sum_eq_zero fun n hn => ?_
    obtain ⟨s, hs, rfl⟩ := List.mem_map.mp hn
    obtain ⟨i, there⟩ := List.mem_iff_getElem?.mp hs
    obtain ⟨r, found, has⟩ := all i s there
    obtain rfl := Option.some.inj ((record there).symm.trans found)
    exact (Seat.hasHand_record_iff g.hasSea (holds there)).mp has
  · intro none i s there
    have idle : s.abandonedCount = 0 :=
      List.sum_eq_zero_iff.mp none _ (List.mem_map_of_mem (List.mem_of_getElem? there))
    exact ⟨_, record there, (Seat.hasHand_record_iff g.hasSea (holds there)).mpr idle⟩

theorem specimen_hands_saved :
    specimen.capture (.mk 1010 0) = .ok (specimen.snapshot (.mk 1010 0)) ∧
      specimen.itemCount = 4 ∧ (specimen.snapshot (.mk 1010 0)).cardCount = 4 ∧
      ∀ (i : Nat) (s : Seat), specimen.seats[i]? = some s →
        ∃ r, (specimen.snapshot (.mk 1010 0)).seats[i]? = some r ∧ r.HasHand s.player.hand := by
  have captured : specimen.capture (.mk 1010 0) = .ok (specimen.snapshot (.mk 1010 0)) :=
    capture_eq (by decide) specimen_cards
  obtain ⟨-, all, count⟩ := hands_saved_iff captured
  have items : specimen.itemCount = 4 := by decide
  have none : specimen.abandonedCount = 0 := by decide
  rw [none, items] at count
  exact ⟨captured, items, count.symm, all.mpr none⟩

/-- Two players take their seats and get something, and the one with an item of the scenario leaves
before the game is in play. -/
def desert : Change Game SaveError Unit := do
  sitDown 0 "Ada"
  modify fun g => g.modifyPlayer 0 fun p => p.hold (.card .knight) .new
  sitDown 1 "Bob"
  modify fun g => g.modifyPlayer 1 fun p => p.hold (.special (-3)) .kept
  modify fun g => { g.setVacant 1 true with phase := .rollOrCard }

/-- The save of the deserted table has the one card, and nothing of the item that was left. -/
theorem abandoned_item_not_saved :
    ∃ fresh g m, start? "deserted" 2 { encoding := .classic } (.mk 0 0) = some fresh ∧
      desert.changed fresh = .ok g ∧ g.capture (.mk 60 0) = .ok m ∧
      (g.player? 1).map (fun p => p.hand.kept) = some [.special (-3)] ∧
      m.seats[1]? = some .empty ∧ g.itemCount = 2 ∧ m.cardCount = 1 :=
  ⟨_, _, _, rfl, rfl, rfl, rfl, rfl, rfl, rfl⟩

end Game

end SavedGames
