import SavedGames.SaveError
import SavedGames.Instant

/-! What saving and resuming see of a running game. A game of any kind can be saved through such a
view, whatever it keeps inside. -/
namespace SavedGames

/-- One seat's player. -/
structure SeatView where
  name : Option String
  totalVp : Int32
  isRobot : Bool
  isBuiltInRobot : Bool
  robotClass : Option String
  faceId : Int32
  resource : Resource → Int32
  knights : Int32
  /-- Pieces that can still be built. -/
  stock : PieceKind → Int32
  warships : Int32
  items : Holding → List Item
  pieces : List Piece
  fortress : Option Piece

structure Session where
  name : String
  options : Option Options
  startTime : Instant
  currentPlayer : Int32
  phase : Phase
  minVersion : Int32
  dice : Int32
  maxPlayers : Nat
  hasSea : Bool
  isVacant : Nat → Bool
  seat? : Nat → Option SeatView

/-- What the board of a session reports: its layout, and the potentials of the seats asked for. -/
structure Projection where
  layout : LayoutMessage
  potentials : SeatScope → List Potentials

end SavedGames
