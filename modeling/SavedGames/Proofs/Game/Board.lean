import Mathlib
import SavedGames.Game.Board
import SavedGames.Proofs.TextMap

/-!
# A board and its layout

The layout of a board stands for that board again, without the land areas. The classic encoding has
no place for harbors, land hexes and a pirate besides its hexes.
-/
namespace SavedGames

namespace Board

variable {b : Board}

/-- The board without what its encoding cannot keep. -/
def settled (b : Board) : Board :=
  match b.encoding with
  | .classic => { b with harbors := [], landHexes := [], pirateHex := 0 }
  | _ => b

def withoutLandAreas (b : Board) : Board :=
  { b with landAreaCount := 0, startingLandArea := 0, landAreaNodes := [] }

@[simp] theorem encoding_settled (b : Board) : b.settled.encoding = b.encoding := by
  unfold settled
  split <;> rfl

@[simp] theorem hasSea_settled (b : Board) : b.settled.hasSea = b.hasSea := by
  simp [hasSea]

theorem layout_settled (b : Board) : b.settled.layout = b.layout := by
  cases h : b.encoding <;> simp [settled, layout, h]

theorem landAreas_settled (b : Board) :
    { b.settled.withoutLandAreas with
      landAreaCount := b.landAreaCount
      startingLandArea := b.startingLandArea
      landAreaNodes := b.landAreaNodes } = b.settled := by
  obtain ⟨e, _⟩ := b
  cases e <;> rfl

theorem get?_withPart {present : Bool} {key sought : String} {part : LayoutPart}
    {parts : TextMap LayoutPart} :
    (withPart present key part parts).get? sought =
      if present = true ∧ key = sought then some part else parts.get? sought := by
  cases present <;> simp [withPart, TextMap.get?_insert]

theorem get?_parts (b : Board) (key : String) :
    b.parts.get? key =
      if (b.pirateHex != 0) = true ∧ pirateKey = key then some (.number b.pirateHex)
      else if (!b.landHexes.isEmpty) = true ∧ landKey = key then some (.numbers b.landHexes)
      else if (!b.harbors.isEmpty) = true ∧ harborKey = key then some (.numbers b.harbors)
      else if robberKey = key then some (.number b.robberHex)
      else if numberKey = key then some (.numbers b.numbers)
      else if hexKey = key then some (.numbers b.hexes)
      else none := by
  simp only [parts, get?_withPart, TextMap.get?_insert, TextMap.get?_empty]

section Parts

variable (b : Board) (e : Encoding)

attribute [local simp] hexKey numberKey robberKey harborKey landKey pirateKey

theorem hexes_parts : requiredPart ⟨e, b.parts⟩ hexKey = .ok b.hexes := by
  simp [requiredPart, PartedLayout.numbers?, get?_parts]

theorem numbers_parts : requiredPart ⟨e, b.parts⟩ numberKey = .ok b.numbers := by
  simp [requiredPart, PartedLayout.numbers?, get?_parts]

theorem robberHex_parts :
    (PartedLayout.number? ⟨e, b.parts⟩ robberKey).getD (-1) = b.robberHex := by
  simp [PartedLayout.number?, get?_parts]

theorem harbors_parts : (PartedLayout.numbers? ⟨e, b.parts⟩ harborKey).getD [] = b.harbors := by
  by_cases none : b.harbors = [] <;> simp [PartedLayout.numbers?, get?_parts, none]

theorem landHexes_parts : (PartedLayout.numbers? ⟨e, b.parts⟩ landKey).getD [] = b.landHexes := by
  by_cases none : b.landHexes = [] <;> simp [PartedLayout.numbers?, get?_parts, none]

theorem pirateHex_parts : (PartedLayout.number? ⟨e, b.parts⟩ pirateKey).getD 0 = b.pirateHex := by
  by_cases none : b.pirateHex = 0 <;> simp [PartedLayout.number?, get?_parts, none]

end Parts

/-- A part that says nothing is not written, and stands for itself when it is missing. -/
theorem ofLayout_parts (b : Board) (e : Encoding) :
    ofLayout (.parted ⟨e, b.parts⟩) = .ok { b.withoutLandAreas with encoding := e } := by
  simp only [ofLayout, hexes_parts, numbers_parts, robberHex_parts, harbors_parts,
    landHexes_parts, pirateHex_parts, bind, Except.bind]
  rfl

theorem ofLayout_layout (b : Board) : ofLayout b.layout = .ok b.settled.withoutLandAreas := by
  obtain ⟨e, hexes, numbers, robberHex, harbors, landHexes, pirateHex, count, starting, nodes⟩ := b
  cases e with
  | classic => rfl
  | sixPlayer => exact ofLayout_parts _ .sixPlayer
  | large => exact ofLayout_parts _ .large

end Board

end SavedGames
