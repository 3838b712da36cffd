import SavedGames.Card
import SavedGames.Element

/-! One seat of a saved game. -/
namespace SavedGames

structure SeatRecord where
  name : Option String
  vacant : Bool
  totalVp : Int32
  isRobot : Bool
  isBuiltInRobot : Bool
  robotClass : Option String
  faceId : Int32
  elements : Elements
  newCards : List Card
  /-- Cards of earlier turns, those that can be played before those that are kept. -/
  oldCards : List Card
  pieces : List Piece
  /-- The seat's fortress stands beside its pieces. -/
  fortress : Option Piece
  deriving DecidableEq, Repr

/-- The face shown for a seat in which nobody has sat. -/
def defaultFace : Int32 := 1

namespace SeatRecord

def empty : SeatRecord :=
  ⟨none, true, 0, false, false, none, defaultFace, [], [], [], [], none⟩

/-- Something is there that only an occupied seat can have. -/
def hasPlay (s : SeatRecord) : Bool :=
  !s.elements.isEmpty || !s.newCards.isEmpty || !s.oldCards.isEmpty || !s.pieces.isEmpty ||
    s.fortress.isSome

/-- The pieces and after them the fortress. -/
def owned (s : SeatRecord) : List Piece := s.pieces ++ s.fortress.toList

def read : Json.Reader SeatRecord :=
  Json.record "SeatSnapshot"
    (.cons (.nullable "name" .text) <|
      .cons (.required "is_seat_vacant" .bool) <|
      .cons (.required "total_vp" .int32) <|
      .cons (.required "is_robot" .bool) <|
      .cons (.required "is_built_in_robot" .bool) <|
      .cons (.withDefault "robot_class" (Json.Reader.optional .text) none) <|
      .cons (.required "face_id" .int32) <|
      .cons (.withDefault "elements" Elements.read []) <|
      .cons (.withDefault "new_dev_cards" (Json.Reader.list Card.read) []) <|
      .cons (.withDefault "old_dev_cards" (Json.Reader.list Card.read) []) <|
      .cons (.withDefault "pieces" (Json.Reader.list Piece.read) []) <|
      .cons (.withDefault "fortress_piece" (Json.Reader.optional Piece.read) none) .nil)
    fun (name, vacant, totalVp, isRobot, isBuiltInRobot, robotClass, faceId, elements, newCards,
        oldCards, pieces, fortress, ()) =>
      ⟨name, vacant, totalVp, isRobot, isBuiltInRobot, robotClass, faceId, elements, newCards,
        oldCards, pieces, fortress⟩

def json (s : SeatRecord) : Json :=
  .obj <|
    [("name", .optional .str s.name), ("is_seat_vacant", .bool s.vacant),
      ("total_vp", .int32 s.totalVp), ("is_robot", .bool s.isRobot),
      ("is_built_in_robot", .bool s.isBuiltInRobot)] ++
    Json.memberIf s.robotClass.isSome "robot_class" (.optional .str s.robotClass) ++
    [("face_id", .int32 s.faceId), ("elements", s.elements.json),
      ("new_dev_cards", .arr (s.newCards.map Card.json)),
      ("old_dev_cards", .arr (s.oldCards.map Card.json)),
      ("pieces", .arr (s.pieces.map Piece.json)),
      ("fortress_piece", .optional Piece.json s.fortress)]

end SeatRecord
end SavedGames
