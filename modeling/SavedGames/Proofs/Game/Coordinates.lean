import Mathlib
import SavedGames.Proofs.Game.Dealt

/-!
# Where the pieces of a sample game stand

The buildings of a sample game stand in places of their own. Its roads and ships do so within a
seat, but the ships of a seat are launched behind the last place of the seat, where the roads of the
next one begin: two pieces are on one edge wherever somebody sits behind a player with ships.
-/
namespace SavedGames

namespace Piece

/-- The piece stands on a node of the board. -/
def isNode (p : Piece) : Bool := p.kind == .settlement || p.kind == .city

/-- The piece lies on an edge of the board. -/
def isEdge (p : Piece) : Bool := p.kind == .road || p.kind == .ship

end Piece

namespace Player

def nodePieces (p : Player) : List Piece := p.pieces.filter Piece.isNode

def edgePieces (p : Player) : List Piece := p.pieces.filter Piece.isEdge

end Player

namespace Game

/-- The coordinates of the settlements and cities of all seats, one for each piece. -/
def nodes (g : Game) : List Int32 :=
  g.players.flatMap fun p => p.nodePieces.map Piece.coord

/-- The coordinates of the roads and ships of all seats, one for each piece. -/
def edges (g : Game) : List Int32 :=
  g.players.flatMap fun p => p.edgePieces.map Piece.coord

end Game

namespace Sample

section Coordinates

variable {seat other i j : Nat}

theorem ofNat_inj {m n : Nat} (hm : m < 2 ^ 31) (hn : n < 2 ^ 31) :
    Int32.ofNat m = Int32.ofNat n ↔ m = n := by
  refine ⟨fun same => ?_, congrArg _⟩
  have values := congrArg Int32.toInt same
  rw [Int32.toInt_ofNat_of_lt hm, Int32.toInt_ofNat_of_lt hn] at values
  exact Int.ofNat_inj.mp values

theorem coord_settlement (seat i : Nat) :
    (settlement seat i).coord = Int32.ofNat (0x23 + seat * 0x20 + i * 4) := by
  rw [Int32.ofNat_add, Int32.ofNat_add, Int32.ofNat_mul, Int32.ofNat_mul]
  rfl

theorem coord_road (seat i : Nat) :
    (road seat i).coord = Int32.ofNat (0x23 + seat * 0x20 + i * 4 + 1) := by
  rw [Int32.ofNat_add, ← coord_settlement]
  rfl

theorem coord_ship (seat i : Nat) :
    (ship seat i).coord = Int32.ofNat (0x23 + seat * 0x20 + 0x21 + i * 2) := by
  rw [Int32.ofNat_add, Int32.ofNat_add, Int32.ofNat_add, Int32.ofNat_mul, Int32.ofNat_mul]
  rfl

end Coordinates

section Board

variable {hasSea vacant : Bool} {r r' : Rolls} {seat i j : Nat} {piece other : Piece}

theorem filter_homes_isEdge (seat count : Nat) :
    (homes seat count).filter Piece.isEdge = (List.range count).map (road seat) := by
  induction count with
  | zero => rfl
  | succ count ih =>
    rw [homes_concat, List.filter_append, ih, List.range_succ, List.map_append]
    rfl

theorem filter_homes_isNode (seat count : Nat) :
    (homes seat count).filter Piece.isNode = (List.range count).map (settlement seat) := by
  induction count with
  | zero => rfl
  | succ count ih =>
    rw [homes_concat, List.filter_append, ih, List.range_succ, List.map_append]
    rfl

theorem filter_range_map_of_true {f : Nat → Piece} {q : Piece → Bool} (all : ∀ i, q (f i) = true)
    (count : Nat) : ((List.range count).map f).filter q = (List.range count).map f := by
  simp [List.filter_eq_self, all]

theorem filter_range_map_of_false {f : Nat → Piece} {q : Piece → Bool}
    (none : ∀ i, q (f i) = false) (count : Nat) : ((List.range count).map f).filter q = [] := by
  simp [List.filter_eq_nil_iff, none]

/-- The city stands in the place of the settlement that it replaced. -/
theorem Rolls.Fits.perm_nodes (h : r.Fits hasSea vacant) (seat : Nat) :
    (((r.board seat).filter Piece.isNode).map Piece.coord).Perm
      ((List.range r.settlements).map fun i => (settlement seat i).coord) := by
  have upgraded : (((homes seat r.settlements).take r.cities).filter Piece.isNode).map Piece.coord =
      (Sample.cities seat r.cities).map Piece.coord := by
    rw [h.take_homes, filter_range_map_of_true fun _ => rfl, Sample.cities, List.map_map,
      List.map_map]
    rfl
  have built : (r.board seat).filter Piece.isNode =
      ((homes seat r.settlements).drop r.cities).filter Piece.isNode ++
        Sample.cities seat r.cities := by
    rw [Rolls.board, List.filter_append, List.filter_append, Sample.cities, fleet,
      filter_range_map_of_true fun _ => rfl, filter_range_map_of_false fun _ => rfl,
      List.append_nil]
  have all : (List.range r.settlements).map (fun i => (settlement seat i).coord) =
      ((homes seat r.settlements).filter Piece.isNode).map Piece.coord := by
    rw [filter_homes_isNode, List.map_map]
    rfl
  rw [built, List.map_append, ← upgraded, all]
  refine List.perm_append_comm.trans (List.Perm.of_eq ?_)
  rw [← List.map_append, ← List.filter_append, List.take_append_drop]

theorem Rolls.Fits.edges_eq (h : r.Fits hasSea vacant) (seat : Nat) :
    (r.board seat).filter Piece.isEdge =
      (List.range r.settlements).map (road seat) ++ (List.range r.ships).map (ship seat) := by
  have none : ((homes seat r.settlements).take r.cities).filter Piece.isEdge = [] := by
    rw [h.take_homes, filter_range_map_of_false fun _ => rfl]
  have roads : ((homes seat r.settlements).drop r.cities).filter Piece.isEdge =
      (List.range r.settlements).map (road seat) := by
    rw [← filter_homes_isEdge, ← List.take_append_drop r.cities (homes seat r.settlements),
      List.filter_append, none, List.nil_append, List.take_append_drop]
  rw [Rolls.board, List.filter_append, List.filter_append, roads, Sample.cities, fleet,
    filter_range_map_of_false fun _ => rfl, filter_range_map_of_true fun _ => rfl, List.append_nil]

theorem Rolls.Fits.mem_edges (h : r.Fits hasSea vacant) :
    piece ∈ (r.board seat).filter Piece.isEdge ↔
      (∃ i < r.settlements, piece = road seat i) ∨ ∃ i < r.ships, piece = ship seat i := by
  rw [h.edges_eq, List.mem_append]
  simp [eq_comm]

theorem Rolls.Fits.nodup_nodes (h : r.Fits hasSea vacant) (few : seat < 2 ^ 20) :
    (((r.board seat).filter Piece.isNode).map Piece.coord).Nodup := by
  have four := h.settlements
  rw [(h.perm_nodes seat).nodup_iff]
  refine List.Nodup.map_on (fun i hi j hj same => ?_) List.nodup_range
  rw [List.mem_range] at hi hj
  rw [coord_settlement, coord_settlement, ofNat_inj (by omega) (by omega)] at same
  omega

theorem Rolls.Fits.nodup_edges (h : r.Fits hasSea vacant) (few : seat < 2 ^ 20) :
    (((r.board seat).filter Piece.isEdge).map Piece.coord).Nodup := by
  have four := h.settlements
  have three := h.ships
  rw [h.edges_eq, List.map_append, List.map_map, List.map_map, List.nodup_append]
  refine ⟨List.nodup_range.map_on fun i hi j hj same => ?_,
    List.nodup_range.map_on fun i hi j hj same => ?_, fun x hx y hy same => ?_⟩
  · rw [List.mem_range] at hi hj
    rw [Function.comp, Function.comp, coord_road, coord_road,
      ofNat_inj (by omega) (by omega)] at same
    omega
  · rw [List.mem_range] at hi hj
    rw [Function.comp, Function.comp, coord_ship, coord_ship,
      ofNat_inj (by omega) (by omega)] at same
    omega
  · obtain ⟨i, hi, rfl⟩ := List.mem_map.mp hx
    obtain ⟨j, hj, rfl⟩ := List.mem_map.mp hy
    rw [List.mem_range] at hi hj
    rw [Function.comp, Function.comp, coord_road, coord_ship,
      ofNat_inj (by omega) (by omega)] at same
    omega

/-- Only the roads of a seat reach into the places where the ships of the seat before are. -/
theorem Rolls.Fits.clash (h : r.Fits hasSea vacant) {vacant' : Bool} (h' : r'.Fits hasSea vacant')
    (lt : i < j) (few : j < 2 ^ 20) (here : piece ∈ (r.board i).filter Piece.isEdge)
    (there : other ∈ (r'.board j).filter Piece.isEdge) (same : piece.coord = other.coord) :
    j = i + 1 ∧ piece.kind = .ship ∧ other.kind = .road := by
  have four := h.settlements
  have four' := h'.settlements
  have three := h.ships
  have three' := h'.ships
  rcases h.mem_edges.mp here with ⟨a, ha, rfl⟩ | ⟨a, ha, rfl⟩
  · rcases h'.mem_edges.mp there with ⟨b, hb, rfl⟩ | ⟨b, hb, rfl⟩
    · rw [coord_road, coord_road, ofNat_inj (by omega) (by omega)] at same
      omega
    · rw [coord_road, coord_ship, ofNat_inj (by omega) (by omega)] at same
      omega
  · rcases h'.mem_edges.mp there with ⟨b, hb, rfl⟩ | ⟨b, hb, rfl⟩
    · rw [coord_ship, coord_road, ofNat_inj (by omega) (by omega)] at same
      exact ⟨by omega, rfl, rfl⟩
    · rw [coord_ship, coord_ship, ofNat_inj (by omega) (by omega)] at same
      omega

/-- The first ship of a seat and the first road of the next one. -/
theorem coord_first_ship (seat : Nat) : (ship seat 0).coord = (road (seat + 1) 0).coord := by
  rw [coord_ship, coord_road]
  congr 1
  omega

end Board

section Seats

variable {hasSea : Bool} {i : Nat} {s t : Seat}

theorem Known.nodup_nodes (h : Known hasSea i s) (few : i < 2 ^ 20) :
    (s.player.nodePieces.map Piece.coord).Nodup := by
  obtain ⟨-, r, kept, follows⟩ := h
  rw [Player.nodePieces, follows.plays.pieces]
  exact follows.fits.nodup_nodes few

theorem Known.nodup_edges (h : Known hasSea i s) (few : i < 2 ^ 20) :
    (s.player.edgePieces.map Piece.coord).Nodup := by
  obtain ⟨-, r, kept, follows⟩ := h
  rw [Player.edgePieces, follows.plays.pieces]
  exact follows.fits.nodup_edges few

theorem Known.disjoint_nodes {j : Nat} (h : Known hasSea i s) (h' : Known hasSea j t) (lt : i < j)
    (few : j < 2 ^ 20) :
    (s.player.nodePieces.map Piece.coord).Disjoint (t.player.nodePieces.map Piece.coord) := by
  obtain ⟨-, r, kept, follows⟩ := h
  obtain ⟨-, r', kept', follows'⟩ := h'
  have four := follows.fits.settlements
  have four' := follows'.fits.settlements
  intro x here there
  rw [Player.nodePieces, follows.plays.pieces, (follows.fits.perm_nodes i).mem_iff] at here
  rw [Player.nodePieces, follows'.plays.pieces, (follows'.fits.perm_nodes j).mem_iff] at there
  obtain ⟨a, ha, rfl⟩ := List.mem_map.mp here
  obtain ⟨b, hb, same⟩ := List.mem_map.mp there
  rw [List.mem_range] at ha hb
  rw [coord_settlement, coord_settlement, ofNat_inj (by omega) (by omega)] at same
  omega

theorem Known.clash {j : Nat} (h : Known hasSea i s) (h' : Known hasSea j t) (lt : i < j)
    (few : j < 2 ^ 20) {piece other : Piece} (here : piece ∈ s.player.edgePieces)
    (there : other ∈ t.player.edgePieces) (same : piece.coord = other.coord) :
    j = i + 1 ∧ piece.kind = .ship ∧ other.kind = .road := by
  obtain ⟨-, r, kept, follows⟩ := h
  obtain ⟨-, r', kept', follows'⟩ := h'
  rw [Player.edgePieces, follows.plays.pieces] at here
  rw [Player.edgePieces, follows'.plays.pieces] at there
  exact follows.fits.clash follows'.fits lt few here there same

theorem Known.occupied_of_piece (h : Known hasSea i s) {piece : Piece}
    (mem : piece ∈ s.player.pieces) : s.vacant = false := by
  by_contra vacant
  have none := (h.1.idle (Bool.eq_true_of_not_eq_false vacant))
  rw [none] at mem
  exact List.not_mem_nil mem

/-- The two pieces that a ship and the next seat bring to one edge. -/
theorem Known.shared_of_ship (h : Known hasSea i s) (h' : Known hasSea (i + 1) t)
    (ship : ∃ piece ∈ s.player.pieces, piece.kind = .ship) (taken : t.vacant = false) :
    ∃ x, x ∈ s.player.edgePieces.map Piece.coord ∧ x ∈ t.player.edgePieces.map Piece.coord := by
  obtain ⟨piece, mem, kind⟩ := ship
  obtain ⟨-, r, kept, follows⟩ := h
  obtain ⟨-, r', kept', follows'⟩ := h'
  have two := follows'.fits.settled taken
  rw [Player.edgePieces, Player.edgePieces, follows.plays.pieces, follows'.plays.pieces]
  rw [follows.plays.pieces] at mem
  have edge : piece ∈ (r.board i).filter Piece.isEdge :=
    List.mem_filter.mpr ⟨mem, by simp [Piece.isEdge, kind]⟩
  obtain ⟨a, -, rfl⟩ | ⟨a, afloat, -⟩ := follows.fits.mem_edges.mp edge
  · cases kind
  · refine ⟨(Sample.ship i 0).coord, List.mem_map.mpr ⟨Sample.ship i 0, ?_, rfl⟩,
      List.mem_map.mpr ⟨road (i + 1) 0, ?_, (coord_first_ship i).symm⟩⟩
    · exact follows.fits.mem_edges.mpr (.inr ⟨0, by omega, rfl⟩)
    · exact follows'.fits.mem_edges.mpr (.inl ⟨0, by omega, rfl⟩)

end Seats

end Sample

namespace Game

variable {g : Game} {i : Nat}

/-- A seat that is not vacant exists, if there is a vacancy for each player. -/
theorem exists_of_not_isVacant (size : g.vacant.length = g.players.length)
    (h : ¬ g.isVacant i = true) : ∃ p, g.player? i = some p := by
  refine Option.isSome_iff_exists.mp (isSome_getElem? g.players i |>.mpr ?_)
  by_contra outside
  have none : g.vacant[i]? = none := List.getElem?_eq_none (by omega)
  exact h (by rw [isVacant, none]; rfl)

/-- No two buildings of a sample game stand in one place, and no two roads or ships of one seat. A
road and a ship of different seats share an edge exactly where somebody sits behind a player with
ships, and no other two pieces ever do. -/
theorem sample_places (seed : UInt64) {maxPlayers : Nat} (startTime : Instant)
    (filled : 1 ≤ maxPlayers) (few : maxPlayers ≤ 2 ^ 20) :
    ∃ g, sample? seed maxPlayers startTime = some g ∧ g.maxPlayers = maxPlayers ∧ g.nodes.Nodup ∧
      (∀ i p, g.player? i = some p → (p.edgePieces.map Piece.coord).Nodup) ∧
      (∀ i j p q, i < j → g.player? i = some p → g.player? j = some q →
        ∀ piece ∈ p.edgePieces, ∀ other ∈ q.edgePieces, piece.coord = other.coord →
          j = i + 1 ∧ piece.kind = .ship ∧ other.kind = .road) ∧
      (g.edges.Nodup ↔ ∀ i p, g.player? i = some p →
        (∃ piece ∈ p.pieces, piece.kind = .ship) → g.isVacant (i + 1) = true) := by
  obtain ⟨g, others, drawn, size, known⟩ := exists_sample seed startTime filled few
  have inside {i : Nat} {p : Player} (there : g.player? i = some p) : i < 2 ^ 20 := by
    have lt : i < g.seats.length := by
      rw [length_seats]
      exact (List.getElem?_eq_some_iff.mp there).1
    have count := known.size
    omega
  have seat {i : Nat} {p : Player} (there : g.player? i = some p) :=
    known.seats i _ (seat_of_player? there)
  have count : g.maxPlayers = maxPlayers := by rw [← length_seats, known.size, size]
  refine ⟨g, drawn, count, ?_, ?_, ?_, ?_⟩
  · refine nodup_flatMap_iff.mpr ⟨fun p mem => ?_, fun i j p q lt here there => ?_⟩
    · obtain ⟨i, here⟩ := List.mem_iff_getElem?.mp mem
      exact (seat here).nodup_nodes (inside here)
    · exact (seat here).disjoint_nodes (seat there) lt (inside there)
  · exact fun i p here => (seat here).nodup_edges (inside here)
  · intro i j p q lt here there piece mine other yours same
    exact (seat here).clash (seat there) lt (inside there) mine yours same
  · constructor
    · intro apart i p here ship
      by_contra vacant
      obtain ⟨q, there⟩ := exists_of_not_isVacant known.vacant vacant
      have taken : g.isVacant (i + 1) = false := Bool.eq_false_of_not_eq_true vacant
      obtain ⟨x, mine, yours⟩ := (seat here).shared_of_ship (seat there) ship taken
      exact (nodup_flatMap_iff.mp apart).2 i (i + 1) p q (Nat.lt_succ_self i) here there mine yours
    · intro alone
      refine nodup_flatMap_iff.mpr ⟨fun p mem => ?_, fun i j p q lt here there x mine yours => ?_⟩
      · obtain ⟨i, here⟩ := List.mem_iff_getElem?.mp mem
        exact (seat here).nodup_edges (inside here)
      · obtain ⟨piece, mem, rfl⟩ := List.mem_map.mp mine
        obtain ⟨other, mem', same⟩ := List.mem_map.mp yours
        obtain ⟨rfl, ship, -⟩ := (seat here).clash (seat there) lt (inside there) mem mem' same.symm
        have vacant := alone i p here ⟨piece, (List.mem_filter.mp mem).1, ship⟩
        have taken : g.isVacant (i + 1) = false :=
          (seat there).occupied_of_piece (List.mem_filter.mp mem').1
        exact absurd (vacant.symm.trans taken) Bool.noConfusion

/-- Somebody sits behind a player with two ships. -/
theorem sample_places_neighbours :
    ∃ g, sample? 6 2 (.mk 0 0) = some g ∧ g.nodes.Nodup ∧ ¬ g.edges.Nodup := by
  obtain ⟨g, drawn, -, nodes, -, -, edges⟩ :=
    sample_places 6 (.mk 0 0) (show 1 ≤ 2 by decide) (by decide)
  have shown : (sample? 6 2 (.mk 0 0)).map (fun g =>
      ((g.player? 0).map fun p => p.pieces.any fun piece => piece.kind == .ship, g.isVacant 1)) =
      some (some true, false) := by
    decide +kernel
  rw [drawn, Option.map_some, Option.some.injEq, Prod.mk.injEq, Option.map_eq_some_iff] at shown
  obtain ⟨⟨p, there, ship⟩, taken⟩ := shown
  refine ⟨g, drawn, nodes, fun apart => ?_⟩
  obtain ⟨piece, mem, kind⟩ := List.any_eq_true.mp ship
  have vacant := edges.mp apart 0 p there ⟨piece, mem, eq_of_beq kind⟩
  exact absurd (taken.symm.trans vacant) Bool.false_ne_true

/-- The ship of seat zero and the first road of seat one lie on one edge. -/
theorem sample_edge_shared :
    ∃ g, sample? 6 2 (.mk 0 0) = some g ∧ g.edges.count 0x44 = 2 ∧ ¬ g.edges.Nodup := by
  have shown : (sample? 6 2 (.mk 0 0)).map (fun g => g.edges.count 0x44) = some 2 := by
    decide +kernel
  obtain ⟨g, drawn, twice⟩ := Option.map_eq_some_iff.mp shown
  refine ⟨g, drawn, twice, fun apart => ?_⟩
  have once := List.nodup_iff_count_le_one.mp apart 0x44
  omega

end Game
end SavedGames
