import SavedGames.Seat
import SavedGames.Json.Record

/-! Where a seat, or every seat, may still build: settlement nodes, and on a sea board the edges
for ships. A board that is split into land areas gives each of its records the areas too. -/
namespace SavedGames

structure Potentials where
  scope : SeatScope
  nodes : List Int32
  landAreaCount : Int32
  startingLandArea : Int32
  landAreaNodes : List (List Int32)
  seaEdges : List (List Int32)
  deriving DecidableEq, Repr

namespace Potentials

def read : Json.Reader Potentials :=
  Json.record "PotentialSettlements"
    (.cons (.required "player_number" SeatScope.read) <|
      .cons (.withDefault "nodes" (Json.Reader.list .int32) []) <|
      .cons (.withDefault "land_area_count" .int32 0) <|
      .cons (.withDefault "starting_land_area" .int32 0) <|
      .cons (.withDefault "land_areas_legal_nodes"
        (Json.Reader.list (Json.Reader.list .int32)) []) <|
      .cons (.withDefault "legal_sea_edges"
        (Json.Reader.list (Json.Reader.list .int32)) []) .nil)
    fun (scope, nodes, landAreaCount, startingLandArea, landAreaNodes, seaEdges, ()) =>
      ⟨scope, nodes, landAreaCount, startingLandArea, landAreaNodes, seaEdges⟩

def json (p : Potentials) : Json :=
  .obj <|
    [("player_number", p.scope.json), ("nodes", .int32s p.nodes),
      ("land_area_count", .int32 p.landAreaCount),
      ("starting_land_area", .int32 p.startingLandArea)] ++
    Json.memberIf (!p.landAreaNodes.isEmpty) "land_areas_legal_nodes"
      (.arr (p.landAreaNodes.map Json.int32s)) ++
    Json.memberIf (!p.seaEdges.isEmpty) "legal_sea_edges" (.arr (p.seaEdges.map Json.int32s))

end Potentials
end SavedGames
