import SavedGames.SaveError

/-! The board of a running game, the layout it reports, and the board that a layout stands for. -/
namespace SavedGames

structure Board where
  encoding : Encoding
  hexes : List Int32 := []
  numbers : List Int32 := []
  robberHex : Int32 := -1
  /-- Kinds and facings of the harbors. The classic encoding keeps them among the hexes. -/
  harbors : List Int32 := []
  landHexes : List Int32 := []
  /-- Zero without a pirate. -/
  pirateHex : Int32 := 0
  /-- Zero, as the next field, unless the board is split into land areas. -/
  landAreaCount : Int32 := 0
  startingLandArea : Int32 := 0
  landAreaNodes : List (List Int32) := []
  deriving DecidableEq, Repr

namespace Board

def hasSea (b : Board) : Bool := b.encoding.hasSea

def hexKey : String := "HL"
def numberKey : String := "NL"
def robberKey : String := "RH"
def harborKey : String := "PL"
def landKey : String := "LH"
def pirateKey : String := "PH"

/-- Adds a part unless it says nothing. -/
def withPart (present : Bool) (key : String) (part : LayoutPart) (parts : TextMap LayoutPart) :
    TextMap LayoutPart :=
  if present then parts.insert key part else parts

def parts (b : Board) : TextMap LayoutPart :=
  TextMap.empty.insert hexKey (.numbers b.hexes)
    |>.insert numberKey (.numbers b.numbers)
    |>.insert robberKey (.number b.robberHex)
    |> withPart (!b.harbors.isEmpty) harborKey (.numbers b.harbors)
    |> withPart (!b.landHexes.isEmpty) landKey (.numbers b.landHexes)
    |> withPart (b.pirateHex != 0) pirateKey (.number b.pirateHex)

/-- A board in the classic encoding is laid out by position, every other one by named parts. -/
def layout (b : Board) : Layout :=
  match b.encoding with
  | .classic => .positional ⟨b.hexes, b.numbers, b.robberHex⟩
  | encoding => .parted ⟨encoding, b.parts⟩

def requiredPart (l : PartedLayout) (key : String) : Except SaveError (List Int32) :=
  match l.numbers? key with
  | some ns => .ok ns
  | none => .error (.invalid (.missingPart key))

/-- The board of a layout. Land areas stand elsewhere. -/
def ofLayout : Layout → Except SaveError Board
  | .positional l =>
    .ok { encoding := .classic, hexes := l.hexes, numbers := l.numbers, robberHex := l.robberHex }
  | .parted l => do
    let hexes ← requiredPart l hexKey
    let numbers ← requiredPart l numberKey
    return {
      encoding := l.encoding
      hexes
      numbers
      robberHex := (l.number? robberKey).getD (-1)
      harbors := (l.numbers? harborKey).getD []
      landHexes := (l.numbers? landKey).getD []
      pirateHex := (l.number? pirateKey).getD 0 }

def withLandAreas (b : Board) (record : Potentials) : Board :=
  { b with
    landAreaCount := record.landAreaCount
    startingLandArea := record.startingLandArea
    landAreaNodes := record.landAreaNodes }

end Board
end SavedGames
