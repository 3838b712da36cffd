import SavedGames.Layout
import SavedGames.Potentials

/-! The board of a saved game: its layout and where the seats may still build. -/
namespace SavedGames

structure BoardRecord where
  layout : Layout
  potentials : List Potentials
  deriving DecidableEq

namespace BoardRecord

def read : Json.Reader BoardRecord :=
  Json.record "BoardSnapshot"
    (.cons (.required "layout" Layout.read) <|
      .cons (.withDefault "player_potentials" (Json.Reader.list Potentials.read) []) .nil)
    fun (layout, potentials, ()) => ⟨layout, potentials⟩

def json (b : BoardRecord) : Json :=
  .obj [("layout", b.layout.json), ("player_potentials", .arr (b.potentials.map Potentials.json))]

end BoardRecord
end SavedGames
