import SavedGames.Json.Record
import SavedGames.Json.Value

/-! Where and how games are saved and resumed. A text only lists what it changes. -/
namespace SavedGames

structure Config where
  saveDir : String := "./saves"
  cataloguePath : String := "./saves/saved_games.db"
  /-- Games are resumed whatever their constraints say. -/
  ignoreConstraints : Bool := false
  /-- Saved texts are indented. -/
  pretty : Bool := true
  /-- Seats of a game made for a demonstration. -/
  demoPlayers : UInt64 := 4
  deriving DecidableEq, Repr

namespace Config

def defaults : Config := {}

def read : Json.Reader Config :=
  Json.record "SaveConfig"
    (.cons (.withDefault "save_dir" .text defaults.saveDir) <|
      .cons (.withDefault "db_path" .text defaults.cataloguePath) <|
      .cons (.withDefault "ignore_constraints" .bool defaults.ignoreConstraints) <|
      .cons (.withDefault "pretty_json" .bool defaults.pretty) <|
      .cons (.withDefault "demo_players" .uint64 defaults.demoPlayers) .nil)
    fun (saveDir, cataloguePath, ignoreConstraints, pretty, demoPlayers, ()) =>
      ⟨saveDir, cataloguePath, ignoreConstraints, pretty, demoPlayers⟩

def json (c : Config) : Json :=
  .obj [("save_dir", .str c.saveDir), ("db_path", .str c.cataloguePath),
    ("ignore_constraints", .bool c.ignoreConstraints), ("pretty_json", .bool c.pretty),
    ("demo_players", .natural c.demoPlayers.toNat)]

end Config
end SavedGames
