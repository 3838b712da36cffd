import SavedGames.BoardRecord
import SavedGames.Constraint
import SavedGames.Phase
import SavedGames.SeatRecord
import SavedGames.Json.Printer

/-! A saved game: the board, every seat and the state of the turn, as they are written to a text
and read back. -/
namespace SavedGames

/-- The one version of the model that is written and read: 2300 stands for 2.3.00. -/
def modelVersion : Int32 := 2300

/-- Games that ask for a newer version than this one cannot be resumed. -/
def engineVersion : Int32 := 2300

structure Snapshot where
  version : Int32
  minVersion : Int32
  name : String
  /-- The packed options, unless all have their defaults. -/
  options : Option String
  /-- The age of the game in seconds. -/
  duration : Int32
  /-- A seat, or `-1` before the first turn. -/
  currentPlayer : Int32
  phase : Phase
  dice : Int32
  board : BoardRecord
  /-- One record for each seat, occupied or not. -/
  seats : List SeatRecord
  constraints : List Constraint
  deriving DecidableEq

namespace Snapshot

def read : Json.Reader Snapshot :=
  Json.record "SnapshotModel"
    (.cons (.required "model_version" .int32) <|
      .cons (.required "game_min_version" .int32) <|
      .cons (.required "game_name" .text) <|
      .cons (.withDefault "game_options" (Json.Reader.optional .text) none) <|
      .cons (.required "game_duration_seconds" .int32) <|
      .cons (.required "current_player_number" .int32) <|
      .cons (.required "game_state" Phase.read) <|
      .cons (.required "current_dice" .int32) <|
      .cons (.required "board_info" BoardRecord.read) <|
      .cons (.required "player_seats" (Json.Reader.list SeatRecord.read)) <|
      .cons (.withDefault "constraints" (Json.Reader.list Constraint.read) []) .nil)
    fun (version, minVersion, name, options, duration, currentPlayer, phase, dice, board, seats,
        constraints, ()) =>
      ⟨version, minVersion, name, options, duration, currentPlayer, phase, dice, board, seats,
        constraints⟩

def json (m : Snapshot) : Json :=
  .obj <|
    [("model_version", .int32 m.version), ("game_min_version", .int32 m.minVersion),
      ("game_name", .str m.name), ("game_options", .optional .str m.options),
      ("game_duration_seconds", .int32 m.duration),
      ("current_player_number", .int32 m.currentPlayer), ("game_state", m.phase.json),
      ("current_dice", .int32 m.dice), ("board_info", m.board.json),
      ("player_seats", .arr (m.seats.map SeatRecord.json))] ++
    Json.memberIf (!m.constraints.isEmpty) "constraints"
      (.arr (m.constraints.map Constraint.json))

/-- The written form, indented or not. -/
def text (pretty : Bool) (m : Snapshot) : String := m.json.text pretty

end Snapshot
end SavedGames
