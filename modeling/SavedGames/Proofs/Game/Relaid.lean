import Mathlib
import SavedGames.Proofs.Checks
import SavedGames.Proofs.Game.Board
import SavedGames.Proofs.Game.Capture

/-!
# A board that is loaded and saved again

The layout that a loaded board is saved with stands for the same board, unless named parts gave a
board in the classic encoding harbors, land hexes or a pirate: it is saved by position, without
them.
-/
namespace SavedGames

/-- A save has the layout that the board reported. -/
theorem Session.layout_of_capture {s : Session} {p : Projection} {now : Instant} {m : Snapshot}
    (h : s.capture p now = .ok m) : p.layout = .known m.board.layout := by
  rw [capture] at h
  split at h
  · cases reported : p.layout with
    | other type typeName =>
      rw [reported] at h
      cases h
    | known layout =>
      rw [reported] at h
      obtain ⟨seats, -, h⟩ := bind_eq_ok.mp h
      rw [← Except.ok.inj h]
  · cases h

namespace Board

variable {l : Layout} {b : Board}

theorem requiredPart_eq_ok {l : PartedLayout} {key : String} {ns : List Int32} :
    requiredPart l key = .ok ns ↔ l.numbers? key = some ns := by
  rw [requiredPart]
  cases l.numbers? key <;> simp

/-- Named parts stand for a board if both the hexes and the numbers are among them. -/
theorem ofLayout_parted_eq_ok {l : PartedLayout} :
    ofLayout (.parted l) = .ok b ↔
      ∃ hexes numbers, l.numbers? hexKey = some hexes ∧ l.numbers? numberKey = some numbers ∧
        b = {
          encoding := l.encoding
          hexes
          numbers
          robberHex := (l.number? robberKey).getD (-1)
          harbors := (l.numbers? harborKey).getD []
          landHexes := (l.numbers? landKey).getD []
          pirateHex := (l.number? pirateKey).getD 0 } := by
  rw [ofLayout, bind_eq_ok]
  constructor
  · rintro ⟨hexes, hexed, h⟩
    obtain ⟨numbers, numbered, h⟩ := bind_eq_ok.mp h
    exact ⟨hexes, numbers, requiredPart_eq_ok.mp hexed, requiredPart_eq_ok.mp numbered,
      (Except.ok.inj h).symm⟩
  · rintro ⟨hexes, numbers, hexed, numbered, rfl⟩
    exact ⟨hexes, requiredPart_eq_ok.mpr hexed,
      bind_eq_ok.mpr ⟨numbers, requiredPart_eq_ok.mpr numbered, rfl⟩⟩

/-- A layout keeps its encoding and says nothing of land areas. -/
theorem frame_ofLayout (h : ofLayout l = .ok b) :
    b.encoding = l.encoding ∧ b.withoutLandAreas = b := by
  cases l with
  | positional l =>
    obtain rfl := Except.ok.inj h
    exact ⟨rfl, rfl⟩
  | parted l =>
    obtain ⟨hexes, numbers, -, -, rfl⟩ := ofLayout_parted_eq_ok.mp h
    exact ⟨rfl, rfl⟩

theorem settled_eq_self_iff :
    b.settled = b ↔
      (b.encoding = .classic → b.harbors = [] ∧ b.landHexes = [] ∧ b.pirateHex = 0) := by
  obtain ⟨e, hexes, numbers, robberHex, harbors, landHexes, pirateHex, count, starting, nodes⟩ := b
  cases e <;> simp [settled, eq_comm]

theorem withoutLandAreas_settled (h : b.withoutLandAreas = b) :
    b.settled.withoutLandAreas = b.settled := by
  rw [← h]
  obtain ⟨e, _⟩ := b
  cases e <;> rfl

/-- Only a board in the classic encoding can change, and it loses no more than what that encoding
does not keep. -/
theorem ofLayout_saved_again (h : ofLayout l = .ok b) :
    ofLayout b.layout = .ok b.settled ∧
      (∀ (s : Session) (p : Projection) (now : Instant) (m : Snapshot),
        p.layout = .known b.layout → s.capture p now = .ok m →
          ofLayout m.board.layout = .ok b.settled) ∧
      (b.settled = b ↔
        (l.encoding = .classic → b.harbors = [] ∧ b.landHexes = [] ∧ b.pirateHex = 0)) ∧
      b.settled.encoding = b.encoding ∧ b.settled.hexes = b.hexes ∧
      b.settled.numbers = b.numbers ∧ b.settled.robberHex = b.robberHex := by
  obtain ⟨encoding, plain⟩ := frame_ofLayout h
  have again : ofLayout b.layout = .ok b.settled := by
    rw [ofLayout_layout, withoutLandAreas_settled plain]
  refine ⟨again, ?_, ?_, encoding_settled b, ?_⟩
  · intro s p now m reported captured
    have kept := Session.layout_of_capture captured
    rw [reported] at kept
    rwa [← LayoutMessage.known.inj kept]
  · rw [settled_eq_self_iff, encoding]
  · unfold settled
    split <;> exact ⟨rfl, rfl, rfl⟩

/-- Named parts of a large board, with a pirate and without land hexes. -/
def seaLayout : Layout :=
  .parted ⟨.large, TextMap.empty.insert "HL" (.numbers [1, 6])
    |>.insert "NL" (.numbers [4, 5]) |>.insert "RH" (.number 6) |>.insert "PL" (.numbers [2, 1])
    |>.insert "PH" (.number 9)⟩

theorem seaLayout_saved_again :
    ∃ b, ofLayout seaLayout = .ok b ∧ b.harbors = [2, 1] ∧ b.pirateHex = 9 ∧
      ofLayout b.layout = .ok b := by
  have board : ofLayout seaLayout = .ok
      { encoding := .large, hexes := [1, 6], numbers := [4, 5], robberHex := 6, harbors := [2, 1],
        pirateHex := 9 } := rfl
  obtain ⟨again, -, same, -⟩ := ofLayout_saved_again board
  rw [same.mpr (fun classic => by cases classic)] at again
  exact ⟨_, board, rfl, rfl, again⟩

/-- Named parts that give harbors to a board in the classic encoding. -/
def harborLayout : Layout :=
  .parted ⟨.classic, TextMap.empty.insert "HL" (.numbers [3, 4])
    |>.insert "NL" (.numbers [8]) |>.insert "RH" (.number 1) |>.insert "PL" (.numbers [2, 1])⟩

/-- The harbors of a classic board are gone after it is saved. -/
theorem classic_harbors_not_saved :
    ∃ b, ofLayout harborLayout = .ok b ∧ ofLayout b.layout ≠ .ok b := by
  have board : ofLayout harborLayout = .ok
      { encoding := .classic, hexes := [3, 4], numbers := [8], robberHex := 1,
        harbors := [2, 1] } := rfl
  exact ⟨_, board, by decide⟩

end Board

end SavedGames
