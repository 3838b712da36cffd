import SavedGames.Seat
import SavedGames.Json.Choice

/-! What a saved game demands of its seats before it is resumed. -/
namespace SavedGames

inductive Constraint where
  | vacant (seat : SeatNumber)
  | human (seat : SeatNumber)
  | robot (seat : SeatNumber)
  | builtInRobot (seat : SeatNumber)
  /-- The seat holds a robot of this class. -/
  | robotClass (seat : SeatNumber) (robotClass : String)
  deriving DecidableEq, Repr

namespace Constraint

def seat : Constraint → SeatNumber
  | vacant seat | human seat | robot seat | builtInRobot seat | robotClass seat _ => seat

def name : Constraint → String
  | vacant _ => "seat_vacant"
  | human _ => "seat_human"
  | robot _ => "seat_robot"
  | builtInRobot _ => "seat_built_in_robot"
  | robotClass _ _ => "seat_robot_class"

def seatField : Json.Fields [SeatNumber] := .cons (.required "seat" .uint64) .nil

def read : Json.Reader Constraint :=
  Json.tagged "Constraint"
    [.withFields "seat_vacant" "Constraint::SeatVacant" seatField fun (seat, ()) => vacant seat,
      .withFields "seat_human" "Constraint::SeatHuman" seatField fun (seat, ()) => human seat,
      .withFields "seat_robot" "Constraint::SeatRobot" seatField fun (seat, ()) => robot seat,
      .withFields "seat_built_in_robot" "Constraint::SeatBuiltInRobot" seatField
        fun (seat, ()) => builtInRobot seat,
      .withFields "seat_robot_class" "Constraint::SeatRobotClass"
        (.cons (.required "seat" .uint64) <| .cons (.required "class" .text) .nil)
        fun (seat, name, ()) => robotClass seat name]

def json (c : Constraint) : Json :=
  .obj <|
    [("kind", .str c.name), ("seat", seatNumberJson c.seat)] ++
    match c with
    | robotClass _ name => [("class", .str name)]
    | _ => []

end Constraint
end SavedGames
