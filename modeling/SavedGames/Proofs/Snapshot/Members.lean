import Mathlib
import SavedGames.Proofs.Snapshot.Lossless
import SavedGames.Proofs.Snapshot.Shape
import SavedGames.Proofs.Snapshot.Valid

/-!
# The members of a saved file

A file is read by the names of the members alone, wherever they stand and whatever stands among
them. It may leave out exactly those members for which the format has a default.
-/
namespace SavedGames

open Json

section Defaults

variable {places : Places}

theorem Piece.reset_none : Piece.reset .none = id := rfl

theorem Potentials.reset_none : Potentials.reset .none = id := rfl

theorem SeatRecord.reset_none : SeatRecord.reset .none = id := by
  funext s
  simp [reset, Piece.reset_none, mapIdx_id]

theorem BoardRecord.reset_none (b : BoardRecord) : b.reset .none = b := by
  simp [reset, Potentials.reset_none, mapIdx_id]

theorem Snapshot.reset_none (m : Snapshot) : m.reset .none = m := by
  simp [reset, SeatRecord.reset_none, BoardRecord.reset_none, mapIdx_id]

theorem BoardRecord.of_mem_reset {b : BoardRecord} {p : Potentials}
    (h : p ∈ (b.reset places).potentials) : ∃ q ∈ b.potentials, p.scope = q.scope := by
  obtain ⟨i, inside, rfl⟩ := List.mem_mapIdx.mp (Places.of_mem_kept h)
  exact ⟨_, List.getElem_mem inside, rfl⟩

theorem SeatRecord.of_mem_owned_reset {s : SeatRecord} {piece : Piece}
    (h : piece ∈ (s.reset places).owned) : ∃ p ∈ s.owned, piece.owner = p.owner := by
  rcases List.mem_append.mp h with h | h
  · obtain ⟨i, inside, rfl⟩ := List.mem_mapIdx.mp (Places.of_mem_kept h)
    exact ⟨_, List.mem_append_left _ (List.getElem_mem inside), rfl⟩
  · cases fortress : s.fortress with
    | none => simp [reset, fortress] at h
    | some p =>
      refine ⟨p, List.mem_append_right _ (by simp [fortress]), ?_⟩
      by_cases taken : places [.member "fortress_piece"]
      · simp [reset, Places.kept, taken] at h
      · obtain rfl : piece = p.reset (places.under (.member "fortress_piece")) := by
          simpa [reset, fortress, Places.kept, taken] using h
        rfl

/-- A seat that has nothing of play has nothing of it without some members either. -/
theorem SeatRecord.ValidAt.reset {seat : Nat} {s : SeatRecord} (h : s.ValidAt seat) :
    (s.reset places).ValidAt seat where
  idle vacant := by
    have idle := h.idle vacant
    simp only [hasPlay, Bool.or_eq_false_iff, Bool.not_eq_false', List.isEmpty_iff,
      Option.isSome_eq_false_iff, Option.isNone_iff_eq_none] at idle
    obtain ⟨⟨⟨⟨elements, newCards⟩, oldCards⟩, pieces⟩, fortress⟩ := idle
    simp [SeatRecord.reset, hasPlay, elements, newCards, oldCards, pieces, fortress]
  owned piece hp := by
    obtain ⟨p, hp, same⟩ := of_mem_owned_reset hp
    rw [same, h.owned p hp]

end Defaults

namespace Snapshot

variable {m : Snapshot} {places : Places} {text : String}

/-- The defaults pass the check as well. -/
theorem Valid.reset (h : m.Valid) : (m.reset places).Valid where
  version := h.version
  minVersion := h.minVersion
  name := h.name
  seats := by simpa [Snapshot.reset, List.mapIdx_eq_nil_iff] using h.seats
  player := by simpa [Snapshot.reset, seatLimit] using h.player
  phase := h.phase
  duration := h.duration
  potentials p hp := by
    obtain ⟨q, hq, same⟩ := BoardRecord.of_mem_reset hp
    simpa [Potentials.InRange, same, Snapshot.reset] using h.potentials q hq
  records i s hs := by
    simp only [Snapshot.reset, List.getElem?_mapIdx, Option.map_eq_some_iff] at hs
    obtain ⟨t, ht, rfl⟩ := hs
    exact (h.records i t ht).reset

theorem Valid.isNarrow (h : m.Valid) (small : m.seats.length < 2 ^ 31) : m.IsNarrow := by
  intro p hp
  cases scope : p.scope with
  | every => trivial
  | only seat => exact (h.potentials p hp seat scope).trans small

theorem decode_eq_ok {node : Node} (written : Document.Writes text node)
    (read : Snapshot.read maxDepth node = .ok m) : decode text = .ok m := by
  simp [decode, Json.decode, written.ofText_eq, Document.read, read, bind, Except.bind,
    Except.mapError]

theorem decode_eq_error {node : Node} (written : Document.Writes text node)
    (refused : ∀ n, Snapshot.read maxDepth node ≠ .ok n) :
    ∃ fault, decode text = .error (.serialization fault) := by
  cases read : Snapshot.read maxDepth node with
  | ok n => exact absurd read (refused n)
  | error fault =>
    refine ⟨fault, ?_⟩
    simp [decode, Json.decode, written.ofText_eq, Document.read, read, bind, Except.bind,
      Except.mapError]

section Arrangement

/-- The members in reverse order, behind foreign ones. -/
def turned (foreign : List (String × Json)) : Json → Json
  | .obj members => .obj (foreign ++ members.reverse)
  | json => json

theorem rearranges_turned {shapes : List (String × Presence × Shape)}
    {members own foreign : List (String × Json)}
    (each : Shape.RearrangesMembers shapes members (own.map fun m => (some m.1, m.2.node)))
    (unknown : ∀ m ∈ foreign, shapes.lookup m.1 = none) :
    Shape.Rearranges (.record shapes) (.obj members) (turned foreign (.obj own)).node := by
  have named : ∀ m ∈ foreign.map fun m => (some m.1, m.2.node),
      ∃ name, m.1 = some name ∧ shapes.lookup name = none := by
    intro m hm
    obtain ⟨n, mem, rfl⟩ := List.mem_map.mp hm
    exact ⟨n.1, rfl, unknown n mem⟩
  have mix : ((foreign ++ own.reverse).map fun m => (some m.1, m.2.node)).Perm
      ((own.map fun m => (some m.1, m.2.node)) ++ foreign.map fun m => (some m.1, m.2.node)) := by
    rw [List.map_append, List.map_reverse]
    exact List.perm_append_comm.trans ((List.reverse_perm _).append_right _)
  rw [turned, Json.node, memberNodes_eq]
  exact .record each named mix

def turnedBoard (b : BoardRecord) : Json :=
  turned [("pieces", .arr [])] <|
    .obj [("layout", b.layout.json),
      ("player_potentials", .arr (b.potentials.map fun p => turned [("islands", .int 2)] p.json))]

/-- The specimen with its members in reverse order and foreign members in the root, in the board,
in the record of its potentials and in both seats. -/
def turnedSpecimen : Json :=
  turned [("saved_by", .arr [.str "a \"newer\" build", .obj [("", .null)]]), ("nodes", .null)] <|
    .obj
      [("model_version", .int32 specimen.version), ("game_min_version", .int32 specimen.minVersion),
        ("game_name", .str specimen.name), ("game_options", .optional .str specimen.options),
        ("game_duration_seconds", .int32 specimen.duration),
        ("current_player_number", .int32 specimen.currentPlayer),
        ("game_state", specimen.phase.json), ("current_dice", .int32 specimen.dice),
        ("board_info", turnedBoard specimen.board),
        ("player_seats", .arr (specimen.seats.map fun s =>
          turned [("favourite_colour", .str "teal")] s.json)),
        ("constraints", .arr (specimen.constraints.map Constraint.json))]

theorem rearranges_turnedSpecimen :
    Snapshot.shape.Rearranges specimen.json turnedSpecimen.node := by
  have potentials : Shape.RearrangesItems Potentials.shape
      (specimen.board.potentials.map Potentials.json)
      ((specimen.board.potentials.map fun p => turned [("islands", .int 2)] p.json).map node) :=
    .cons (rearranges_turned (.same (by decide)) (by decide)) .nil
  have seats : Shape.RearrangesItems SeatRecord.shape (specimen.seats.map SeatRecord.json)
      ((specimen.seats.map fun s => turned [("favourite_colour", .str "teal")] s.json).map node) :=
    .cons (rearranges_turned (.same (by decide)) (by decide)) <|
      .cons (rearranges_turned (.same (by decide)) (by decide)) .nil
  have board : BoardRecord.shape.Rearranges specimen.board.json (turnedBoard specimen.board).node :=
    rearranges_turned (.cons rfl (.same _ _) <| .cons rfl (.list potentials) .nil) (by decide)
  refine rearranges_turned ?_ (by decide)
  exact .cons rfl (.same _ _) <| .cons rfl (.same _ _) <| .cons rfl (.same _ _) <|
    .cons rfl (.same _ _) <| .cons rfl (.same _ _) <| .cons rfl (.same _ _) <|
    .cons rfl (.same _ _) <| .cons rfl (.same _ _) <| .cons rfl board <|
    .cons rfl (.list seats) <| .cons rfl (.same _ _) .nil

/-- The members of each record may come in any order, with foreign members among them. -/
theorem ofText_rearranged {node : Node} (valid : m.check = .ok ())
    (small : m.seats.length < 2 ^ 31) (arranged : Snapshot.shape.Rearranges m.json node)
    (written : Document.Writes text node) : ofText text = .ok m := by
  have law : Snapshot.read.Tolerates Snapshot.shape (0 + 6) m.json .none (m.reset .none) :=
    tolerates ((check_eq_ok.mp valid).isNarrow small) .none
  rw [reset_none] at law
  have read := law.gives nofun node (by rwa [without_none]) written.isSound maxDepth (by decide)
  simp [ofText, decode_eq_ok written read, valid, bind, Except.bind, pure, Except.pure]

theorem specimen_rearranged :
    Snapshot.shape.Rearranges specimen.json turnedSpecimen.node ∧ specimen.check = .ok () ∧
      ofText (turnedSpecimen.text true) = .ok specimen := by
  have valid : specimen.check = .ok () := by decide
  exact ⟨rearranges_turnedSpecimen, valid,
    ofText_rearranged valid (by decide) rearranges_turnedSpecimen (writes_text true _)⟩

end Arrangement

section Omission

def placesOf (paths : List Json.Place) : Places := fun path => paths.contains path

/-- Members of four records, all of which have defaults. -/
def sparedPlaces : List Json.Place :=
  [[.member "constraints"],
    [.member "board_info", .member "player_potentials", .item 0, .member "legal_sea_edges"],
    [.member "player_seats", .item 1, .member "name"],
    [.member "player_seats", .item 1, .member "fortress_piece", .member "special_value"]]

/-- The coordinate of a piece, which has no default. -/
def neededPlace : Json.Place :=
  [.member "player_seats", .item 1, .member "pieces", .item 0, .member "coord"]

/-- Exactly the optional members may be left out, and each stands for its default. -/
theorem decode_without (valid : m.check = .ok ()) (small : m.seats.length < 2 ^ 31)
    (written : Document.Writes text (m.json.without places).node) :
    (Snapshot.shape.AllOptional places →
      decode text = .ok (m.reset places) ∧ (m.reset places).check = .ok ()) ∧
      ∀ path, Snapshot.shape.Misses m.json places path →
        ∃ fault, decode text = .error (.serialization fault) := by
  have valid := check_eq_ok.mp valid
  have law : Snapshot.read.Tolerates Snapshot.shape (0 + 6) m.json places (m.reset places) :=
    tolerates (valid.isNarrow small) places
  have arranged := Shape.Rearranges.same Snapshot.shape (m.json.without places)
  refine ⟨fun spared => ⟨?_, check_eq_ok.mpr valid.reset⟩, fun path missed => ?_⟩
  · exact decode_eq_ok written
      (law.gives spared _ arranged written.isSound maxDepth (by decide))
  · exact decode_eq_error written (law.refuses path missed _ arranged maxDepth)

theorem specimen_without :
    specimen.check = .ok () ∧
      (decode ((specimen.json.without (placesOf sparedPlaces)).text true)).map
          (fun m => (m.constraints, m.board.potentials.map Potentials.seaEdges,
            m.seats.map SeatRecord.name, m.seats.map SeatRecord.fortress)) =
        .ok ([], [[]], [none, none], [none, some ⟨.fortress, 516, 1, none⟩]) ∧
      ∃ fault,
        decode ((specimen.json.without (placesOf (neededPlace :: sparedPlaces))).text false) =
          .error (.serialization fault) := by
  have valid : specimen.check = .ok () := by decide
  have optional : ∀ path ∈ sparedPlaces, Snapshot.shape.member? path = some .optional := by decide
  have spared : Snapshot.shape.AllOptional (placesOf sparedPlaces) := fun path taken =>
    optional path (by simpa [placesOf] using taken)
  have alone : ∀ outer ∈ neededPlace :: sparedPlaces,
      outer <+: neededPlace → outer = neededPlace := by decide
  have missed : Snapshot.shape.Misses specimen.json (placesOf (neededPlace :: sparedPlaces))
      neededPlace :=
    ⟨by decide, by decide, by decide, fun outer taken =>
      alone outer (by simpa [placesOf] using taken)⟩
  have kept := (decode_without valid (by decide) (writes_text true _)).1 spared
  refine ⟨valid, ?_, (decode_without valid (by decide) (writes_text false _)).2 _ missed⟩
  rw [kept.1]
  exact congrArg Except.ok (by decide)

end Omission

end Snapshot

end SavedGames
