import Mathlib
import SavedGames.Proofs.Json.Members
import SavedGames.Proofs.Snapshot.Reading

/-!
# The records of a snapshot

A snapshot is written as records inside records: the seats with their pieces, the board with its
layout and its potentials. For each of them its shape lists the members, `reset` gives a field whose
member is taken out its default, and a law says that the reader finds just that.
-/
namespace SavedGames

open Json Json.Reader

variable {depth : Nat}

namespace Piece

def shape : Shape :=
  .record [("piece_type", .required, .whole), ("coord", .required, .whole),
    ("player_number", .required, .whole), ("special_value", .optional, .whole)]

def reset (places : Places) (p : Piece) : Piece :=
  { p with special := places.kept "special_value" p.special none }

theorem tolerates (p : Piece) (places : Places) :
    Piece.read.Tolerates shape (depth + 1) p.json places (p.reset places) := by
  refine tolerates_record _ (p.kind, p.coord, p.owner, _, ()) rfl (by decide) ?_
  refine .required p.kind.gives.tolerates <| .required (gives_int32 _).tolerates <|
    .required (gives_uint64 _).tolerates ?_
  have special : Json.Reader.int32.optional.Gives depth (Json.optional .int32 p.special).node
      p.special := gives_optional (fun n _ => gives_int32 n) nofun
  exact .memberIf (fun _ => special.tolerates) (by simp) rfl .nil (List.append_nil _).symm

end Piece

namespace SeatRecord

def shape : Shape :=
  .record [("name", .optional, .whole), ("is_seat_vacant", .required, .whole),
    ("total_vp", .required, .whole), ("is_robot", .required, .whole),
    ("is_built_in_robot", .required, .whole), ("robot_class", .optional, .whole),
    ("face_id", .required, .whole), ("elements", .optional, .whole),
    ("new_dev_cards", .optional, .whole), ("old_dev_cards", .optional, .whole),
    ("pieces", .optional, .list Piece.shape), ("fortress_piece", .optional, Piece.shape)]

def reset (places : Places) (s : SeatRecord) : SeatRecord :=
  { s with
    name := places.kept "name" s.name none
    robotClass := places.kept "robot_class" s.robotClass none
    elements := places.kept "elements" s.elements []
    newCards := places.kept "new_dev_cards" s.newCards []
    oldCards := places.kept "old_dev_cards" s.oldCards []
    pieces := places.kept "pieces"
      (s.pieces.mapIdx fun i => Piece.reset ((places.under (.member "pieces")).under (.item i))) []
    fortress := places.kept "fortress_piece"
      (s.fortress.map (Piece.reset (places.under (.member "fortress_piece")))) none }

theorem tolerates (s : SeatRecord) (places : Places) :
    SeatRecord.read.Tolerates shape (depth + 3) s.json places (s.reset places) := by
  refine tolerates_record _ (_, s.vacant, s.totalVp, s.isRobot, s.isBuiltInRobot, _, s.faceId, _, _,
    _, _, _, ()) rfl (by decide) ?_
  have text (o : Option String) :
      Json.Reader.text.optional.Gives (depth + 2) (Json.optional .str o).node o :=
    gives_optional (fun t _ => gives_text t) nofun
  have cards (cs : List Card) :
      (Json.Reader.list Card.read).Gives (depth + 2) (Json.arr (cs.map Card.json)).node cs :=
    gives_list fun c _ => c.gives
  refine .present (text s.name).tolerates rfl <| .required (gives_bool _).tolerates <|
    .required (gives_int32 _).tolerates <| .required (gives_bool _).tolerates <|
    .required (gives_bool _).tolerates ?_
  refine .memberIf (fun _ => (text s.robotClass).tolerates) (by simp) rfl ?_ rfl
  refine .required (gives_int32 _).tolerates <| .present s.elements.gives.tolerates rfl <|
    .present (cards _).tolerates rfl <| .present (cards _).tolerates rfl <| .present ?_ rfl <|
    .present ?_ rfl .nil
  · exact tolerates_list fun p _ places => p.tolerates places
  · exact tolerates_optional (fun p _ => p.tolerates _) fun p => ⟨_, rfl⟩

end SeatRecord

namespace Potentials

def shape : Shape :=
  .record [("player_number", .required, .whole), ("nodes", .optional, .whole),
    ("land_area_count", .optional, .whole), ("starting_land_area", .optional, .whole),
    ("land_areas_legal_nodes", .optional, .whole), ("legal_sea_edges", .optional, .whole)]

def reset (places : Places) (p : Potentials) : Potentials :=
  { p with
    nodes := places.kept "nodes" p.nodes []
    landAreaCount := places.kept "land_area_count" p.landAreaCount 0
    startingLandArea := places.kept "starting_land_area" p.startingLandArea 0
    landAreaNodes := places.kept "land_areas_legal_nodes" p.landAreaNodes []
    seaEdges := places.kept "legal_sea_edges" p.seaEdges [] }

theorem tolerates {p : Potentials} (h : p.scope.IsNarrow) (places : Places) :
    Potentials.read.Tolerates shape (depth + 3) p.json places (p.reset places) := by
  refine tolerates_record _ (p.scope, _, _, _, _, _, ()) rfl (by decide) ?_
  have lists (nss : List (List Int32)) :
      (Json.Reader.list (Json.Reader.list .int32)).Gives (depth + 2)
        (Json.arr (nss.map Json.int32s)).node nss := gives_list fun ns _ => gives_int32s ns
  refine .required (SeatScope.gives h).tolerates <| .present (gives_int32s _).tolerates rfl <|
    .present (gives_int32 _).tolerates rfl <| .present (gives_int32 _).tolerates rfl ?_
  refine .memberIf (fun _ => (lists _).tolerates) (by simp) rfl ?_ rfl
  exact .memberIf (fun _ => (lists _).tolerates) (by simp) rfl .nil (List.append_nil _).symm

end Potentials

def PositionalLayout.shape : Shape :=
  .record [("hex_layout", .required, .whole), ("number_layout", .required, .whole),
    ("robber_hex", .required, .whole)]

theorem PositionalLayout.tolerates (l : PositionalLayout) (places : Places) :
    PositionalLayout.read.Tolerates shape (depth + 2) l.json places l := by
  refine tolerates_record _ (l.hexes, l.numbers, l.robberHex, ()) rfl (by decide) ?_
  exact .required (gives_int32s _).tolerates <| .required (gives_int32s _).tolerates <|
    .required (gives_int32 _).tolerates .nil

def PartedLayout.shape : Shape :=
  .record [("encoding_format", .required, .whole), ("parts", .required, .whole)]

theorem PartedLayout.tolerates (l : PartedLayout) (places : Places) :
    PartedLayout.read.Tolerates shape (depth + 3) l.json places l := by
  refine tolerates_record _ (l.encoding, l.parts, ()) rfl (by decide) ?_
  exact .required l.encoding.gives.tolerates <|
    .required (gives_table fun e _ => e.2.gives).tolerates .nil

def Layout.shape : Shape :=
  .variant [("layout1", PositionalLayout.shape), ("layout2", PartedLayout.shape)]

theorem Layout.tolerates (l : Layout) (places : Places) :
    Layout.read.Tolerates shape (depth + 4) l.json places l := by
  cases l with
  | positional l =>
    have content : PositionalLayout.read.Tolerates PositionalLayout.shape (depth + 3) l.json
        (places.under (.member "layout1")) l := l.tolerates _
    exact tolerates_choice rfl rfl (content.map positional)
  | parted l => exact tolerates_choice rfl rfl ((l.tolerates _).map parted)

namespace BoardRecord

def shape : Shape :=
  .record [("layout", .required, Layout.shape),
    ("player_potentials", .optional, .list Potentials.shape)]

def reset (places : Places) (b : BoardRecord) : BoardRecord :=
  { b with
    potentials := places.kept "player_potentials"
      (b.potentials.mapIdx fun i =>
        Potentials.reset ((places.under (.member "player_potentials")).under (.item i))) [] }

theorem tolerates {b : BoardRecord} (h : ∀ p ∈ b.potentials, p.scope.IsNarrow) (places : Places) :
    BoardRecord.read.Tolerates shape (depth + 5) b.json places (b.reset places) := by
  refine tolerates_record _ (b.layout, _, ()) rfl (by decide) ?_
  refine .required (b.layout.tolerates _) <| .present ?_ rfl .nil
  exact tolerates_list fun p hp places => Potentials.tolerates (h p hp) places

end BoardRecord

namespace Snapshot

def shape : Shape :=
  .record [("model_version", .required, .whole), ("game_min_version", .required, .whole),
    ("game_name", .required, .whole), ("game_options", .optional, .whole),
    ("game_duration_seconds", .required, .whole), ("current_player_number", .required, .whole),
    ("game_state", .required, .whole), ("current_dice", .required, .whole),
    ("board_info", .required, BoardRecord.shape),
    ("player_seats", .required, .list SeatRecord.shape), ("constraints", .optional, .whole)]

def reset (places : Places) (m : Snapshot) : Snapshot :=
  { m with
    options := places.kept "game_options" m.options none
    board := m.board.reset (places.under (.member "board_info"))
    seats := m.seats.mapIdx fun i =>
      SeatRecord.reset ((places.under (.member "player_seats")).under (.item i))
    constraints := places.kept "constraints" m.constraints [] }

theorem tolerates {m : Snapshot} (h : m.IsNarrow) (places : Places) :
    Snapshot.read.Tolerates shape (depth + 6) m.json places (m.reset places) := by
  refine tolerates_record _ (m.version, m.minVersion, m.name, _, m.duration, m.currentPlayer,
    m.phase, m.dice, _, _, _, ()) rfl (by decide) ?_
  have options : Json.Reader.text.optional.Gives (depth + 5) (Json.optional .str m.options).node
      m.options := gives_optional (fun t _ => gives_text t) nofun
  have constraints : (Json.Reader.list Constraint.read).Gives (depth + 5)
      (Json.arr (m.constraints.map Constraint.json)).node m.constraints :=
    gives_list fun c _ => c.gives
  have seats (places : Places) : (Json.Reader.list SeatRecord.read).Tolerates
      (.list SeatRecord.shape) (depth + 5) (Json.arr (m.seats.map SeatRecord.json)) places
      (m.seats.mapIdx fun i => SeatRecord.reset (places.under (.item i))) :=
    tolerates_list fun s _ places => s.tolerates places
  refine .required (gives_int32 _).tolerates <| .required (gives_int32 _).tolerates <|
    .required (gives_text _).tolerates <| .present options.tolerates rfl <|
    .required (gives_int32 _).tolerates <| .required (gives_int32 _).tolerates <|
    .required m.phase.gives.tolerates <| .required (gives_int32 _).tolerates <|
    .required (BoardRecord.tolerates h _) <| .required (seats _) ?_
  exact .memberIf (fun _ => constraints.tolerates) (by simp) rfl .nil (List.append_nil _).symm

end Snapshot
end SavedGames
