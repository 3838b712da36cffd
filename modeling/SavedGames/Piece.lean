import SavedGames.Seat
import SavedGames.Json.Record

/-! Playing pieces on the board. -/
namespace SavedGames

/-- From the lowest rank to the highest. -/
inductive PieceKind where
  | road
  | settlement
  | city
  | ship
  | fortress
  | village
  deriving DecidableEq, Repr, Ord

namespace PieceKind

/-- The kinds a player builds from a stock, lowest rank first. -/
def buildable : List PieceKind := [road, settlement, city, ship]

def code : PieceKind → Int32
  | road => 0
  | settlement => 1
  | city => 2
  | ship => 3
  | fortress => 4
  | village => 5

def name : PieceKind → String
  | road => "Road"
  | settlement => "Settlement"
  | city => "City"
  | ship => "Ship"
  | fortress => "Fortress"
  | village => "Village"

def ofCode? (code : Int32) : Option PieceKind :=
  match code with
  | 0 => some road
  | 1 => some settlement
  | 2 => some city
  | 3 => some ship
  | 4 => some fortress
  | 5 => some village
  | _ => none

def ofCode (code : Int32) : Except String PieceKind :=
  match ofCode? code with
  | some kind => .ok kind
  | none => .error ("unknown piece type " ++ Decimal.text code.toInt)

def read : Json.Reader PieceKind := Json.Reader.int32.refine ofCode

def json (k : PieceKind) : Json := Json.int32 k.code

end PieceKind

/-- A piece on the board. Only a fortress or a village has a special value: its strength, or the
cloth it holds. -/
structure Piece where
  kind : PieceKind
  coord : Int32
  owner : SeatNumber
  special : Option Int32 := none
  deriving DecidableEq, Repr

namespace Piece

def fortress (coord : Int32) (owner : SeatNumber) (strength : Int32) : Piece :=
  ⟨.fortress, coord, owner, some strength⟩

def read : Json.Reader Piece :=
  Json.record "PlayingPiece"
    (.cons (.required "piece_type" PieceKind.read) <|
      .cons (.required "coord" .int32) <|
      .cons (.required "player_number" .uint64) <|
      .cons (.withDefault "special_value" (Json.Reader.optional .int32) none) .nil)
    fun (kind, coord, owner, special, ()) => ⟨kind, coord, owner, special⟩

def json (p : Piece) : Json :=
  .obj <|
    [("piece_type", p.kind.json), ("coord", .int32 p.coord),
      ("player_number", seatNumberJson p.owner)] ++
    Json.memberIf p.special.isSome "special_value" (Json.optional .int32 p.special)

end Piece
end SavedGames
