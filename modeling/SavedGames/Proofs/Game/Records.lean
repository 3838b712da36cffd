import Mathlib
import SavedGames.Proofs.Game.Cycle
import SavedGames.Proofs.Game.Relaid

/-!
# Where the seats of a restored game may build

The records of potentials may come in any order, and speak of a seat more than once or not at all.
The last one that speaks of a seat decides for it, and the first of all decides on the land areas.
The records that a game is saved with give every seat back what it had.
-/
namespace SavedGames

/-- The last record that speaks of seat `i`. -/
def Potentials.lastFor? (records : List Potentials) (i : Nat) : Option Potentials :=
  (records.filter fun r => r.scope.covers i).getLast?

/-- The player may build where the record says, and nowhere if there is none. -/
structure Player.BuildsBy (p : Player) (r? : Option Potentials) : Prop where
  nodes : p.potentialNodes = (r?.map Potentials.nodes).getD []
  seaEdges : p.seaEdges = (r?.map Potentials.seaEdges).getD []

/-- The board has the land areas of the record, and is not split if there is none. -/
structure Board.SplitBy (b : Board) (r? : Option Potentials) : Prop where
  count : b.landAreaCount = (r?.map Potentials.landAreaCount).getD 0
  starting : b.startingLandArea = (r?.map Potentials.startingLandArea).getD 0
  nodes : b.landAreaNodes = (r?.map Potentials.landAreaNodes).getD []

theorem Board.splitBy_of_ofLayout {l : Layout} {b : Board} (h : ofLayout l = .ok b)
    (records : List Potentials) : (b.withLandAreasOf records).SplitBy records.head? := by
  cases records with
  | nil =>
    obtain ⟨-, plain⟩ := frame_ofLayout h
    rw [← plain]
    exact ⟨rfl, rfl, rfl⟩
  | cons record records => exact ⟨rfl, rfl, rfl⟩

namespace Player

variable {p : Player}

theorem buildsBy_withPotentialsAt (h : p.BuildsBy none) (i : Nat) (records : List Potentials) :
    (p.withPotentialsAt i records).BuildsBy (Potentials.lastFor? records i) := by
  unfold withPotentialsAt Potentials.lastFor?
  split <;> rename_i last <;> rw [last]
  · exact ⟨rfl, rfl⟩
  · exact h

/-- No seat has potentials of its own. -/
theorem buildsBy_ofRecord (i : Nat) (s : SeatRecord) (hasSea : Bool) :
    (ofRecord i s hasSea).BuildsBy none := by
  obtain ⟨resources, knights, stock, warships, elements⟩ :=
    (s.nameplate hasSea i).withElements_frame s.elements
  rw [SeatRecord.nameplate] at elements
  rw [ofRecord, elements, withCards_eq]
  cases s.vacant <;> exact ⟨rfl, rfl⟩

end Player

namespace Game

variable {g h l : Game} {m : Snapshot} {now : Instant} {i : Nat}

/-- Every seat may build where the last record that speaks of it says, and the board is split as the
first record says. -/
structure HasRecords (g : Game) (records : List Potentials) : Prop where
  players : ∀ i < g.maxPlayers, ∃ p, g.player? i = some p ∧
    p.BuildsBy (Potentials.lastFor? records i)
  board : g.board.SplitBy records.head?

theorem hasRecords_of_restore (h : restore m now = .ok g) : g.HasRecords m.board.potentials := by
  constructor
  · intro i inside
    have count : i < m.seats.length := maxPlayers_of_restore h ▸ inside
    have there := getElem?_of_restore h (List.getElem?_eq_getElem count)
    refine ⟨_, player?_of_seat there, ?_⟩
    exact Player.buildsBy_withPotentialsAt (Player.buildsBy_ofRecord i _ _) i _
  · obtain ⟨-, options, board, startTime, -, laid, -, rfl⟩ := Snapshot.restore_eq_ok.mp h
    exact Board.splitBy_of_ofLayout laid _

/-- The players may build where the other game reports it, and the land areas are the same. -/
structure HasPotentialsOf (l g : Game) : Prop where
  players : ∀ i < g.maxPlayers, ∃ p r, l.player? i = some p ∧
    g.potentials (.only (UInt64.ofNat i)) = [r] ∧ p.BuildsBy (some r)
  count : l.board.landAreaCount = g.board.landAreaCount
  starting : l.board.startingLandArea = g.board.startingLandArea
  nodes : l.board.landAreaNodes = g.board.landAreaNodes

/-- The records of a game can be restored to every game with as many seats. -/
theorem restoreAllPotentials_potentials (filled : g.players ≠ []) (numbered : g.IsNumbered)
    (fits : g.maxPlayers ≤ 2 ^ 64) (count : h.maxPlayers = g.maxPlayers) :
    ∃ l, (h.withLandAreas (g.potentials .every)).restoreAllPotentials (g.potentials .every) =
      .ok l ∧ l.HasPotentialsOf g := by
  have inRange : ∀ r ∈ g.potentials .every, r.InRange
      (h.withLandAreas (g.potentials .every)).maxPlayers := by
    rw [withLandAreas_eq]
    have same : h.players.length = g.players.length := count
    simpa only [maxPlayers, same] using potentials_inRange numbered
  refine ⟨_, restoreAllPotentials_eq inRange, ?_⟩
  rw [withLandAreas_eq, withLandAreasOf_potentials h.board filled]
  refine ⟨fun i inside => ?_, rfl, rfl, rfl⟩
  have there : g.players[i]? = some g.players[i] := List.getElem?_eq_getElem inside
  obtain ⟨p, place⟩ : ∃ p, h.players[i]? = some p :=
    ⟨_, List.getElem?_eq_getElem (inside.trans_eq count.symm)⟩
  have player := withPotentialsAt_potentials numbered fits there p
  refine ⟨p.withPotentialsAt i (g.potentials .every), _, ?_, potentials_only fits there, ?_⟩
  · simp [player?, withPotentials, place]
  · rw [player]
    exact ⟨rfl, rfl⟩

theorem hasPotentialsOf_of_restore (filled : g.players ≠ []) (numbered : g.IsNumbered)
    (fits : g.maxPlayers ≤ 2 ^ 64) (records : m.board.potentials = g.potentials .every)
    (count : m.seats.length = g.maxPlayers)
    (restored : restore m now = .ok l) : l.HasPotentialsOf g := by
  obtain ⟨valid, options, board, startTime, -, -, -, rfl⟩ := Snapshot.restore_eq_ok.mp restored
  have seats : (m.seated options board startTime).maxPlayers = g.maxPlayers := by
    simp [maxPlayers, Snapshot.seated, count]
  have waiting :=
    Snapshot.restoreAllPotentials_seated options board startTime valid.potentials
  obtain ⟨l, done, same⟩ := restoreAllPotentials_potentials filled numbered fits seats
  rw [records, done] at waiting
  rwa [← Except.ok.inj waiting]

/-- Each seat has a record of its own, which is what the game gives for this seat alone. -/
structure PerSeat (g : Game) (records : List Potentials) : Prop where
  length : records.length = g.maxPlayers
  scope : ∀ (i : Nat) (r : Potentials), records[i]? = some r → r.scope = .only (UInt64.ofNat i)
  record : ∀ (i : Nat) (r : Potentials), records[i]? = some r →
    g.potentials (.only (UInt64.ofNat i)) = [r]

theorem perSeat_of_differ (numbered : g.IsNumbered) (fits : g.maxPlayers ≤ 2 ^ 64)
    (differ : ¬ g.Agree) : g.PerSeat (g.potentials .every) := by
  have seat (i : Nat) (r : Potentials) (h : (g.potentials .every)[i]? = some r) :
      ∃ p, g.players[i]? = some p ∧ g.potentialsOf (.only (UInt64.ofNat i)) p = r := by
    rw [potentials_of_differ differ, List.getElem?_map, Option.map_eq_some_iff] at h
    obtain ⟨p, there, rfl⟩ := h
    exact ⟨p, there, by rw [numbered i p there]⟩
  constructor
  · rw [potentials_of_differ differ, List.length_map, maxPlayers]
  · intro i r h
    obtain ⟨p, -, rfl⟩ := seat i r h
    rfl
  · intro i r h
    obtain ⟨p, there, rfl⟩ := seat i r h
    exact potentials_only fits there

theorem single_iff_agree (filled : g.players ≠ []) :
    (∃ r, g.potentials .every = [r] ∧ r.scope = .every) ↔ g.Agree := by
  constructor
  · rintro ⟨r, single, every⟩
    by_contra differ
    rw [potentials_of_differ differ] at single
    obtain ⟨p, -, rfl⟩ := List.mem_map.mp (single ▸ List.mem_singleton_self r)
    cases every
  · intro agree
    obtain ⟨p, -, single⟩ := potentials_of_agree filled agree
    exact ⟨_, single, rfl⟩

/-- A restored game follows the last record for each seat and the first record of all. The records
of a numbered game are one for all seats exactly if its players agree, and otherwise one for each
seat in order, where the numbers of the seats fit 64 bits. Restored, they give every seat and the
board what the game reports of them. -/
theorem records_expand :
    (∀ (m : Snapshot) (now : Instant) (g : Game), restore m now = .ok g →
      g.maxPlayers = m.seats.length ∧ g.HasRecords m.board.potentials) ∧
    ∀ g : Game, g.players ≠ [] → g.IsNumbered → g.maxPlayers ≤ 2 ^ 64 →
      ((∃ r, g.potentials .every = [r] ∧ r.scope = .every) ↔ g.Agree) ∧
      (¬ g.Agree → g.PerSeat (g.potentials .every)) ∧
      (∀ h : Game, h.maxPlayers = g.maxPlayers → ∃ l,
        (h.withLandAreas (g.potentials .every)).restoreAllPotentials (g.potentials .every) = .ok l ∧
          l.HasPotentialsOf g) ∧
      ∀ (m : Snapshot) (now : Instant) (l : Game), m.board.potentials = g.potentials .every →
        m.seats.length = g.maxPlayers → restore m now = .ok l → l.HasPotentialsOf g := by
  constructor
  · intro m now g restored
    exact ⟨maxPlayers_of_restore restored, hasRecords_of_restore restored⟩
  · intro g filled numbered fits
    refine ⟨single_iff_agree filled, perSeat_of_differ numbered fits, ?_, ?_⟩
    · intro h count
      exact restoreAllPotentials_potentials filled numbered fits count
    · intro m now l records count restored
      exact hasPotentialsOf_of_restore filled numbered fits records count restored

/-- A save of two seats whose records come out of order and more than once. -/
def patchwork : Snapshot where
  version := modelVersion
  minVersion := 2000
  name := "islands"
  options := none
  duration := 60
  currentPlayer := -1
  phase := .play
  dice := 0
  board :=
    { layout := .positional ⟨[3, 4], [8], 1⟩
      potentials := [⟨.only 1, [34], 2, 1, [[34], [69]], []⟩, ⟨.every, [69], 0, 0, [], [[515]]⟩,
        ⟨.only 1, [71], 3, 0, [], []⟩] }
  seats := [SeatRecord.empty, SeatRecord.empty]
  constraints := []

/-- The first seat follows the record for all, the second one its last record, and the board the
first record. Saved again, each seat has a record of its own. -/
theorem patchwork_expanded :
    ∃ g p q, restore patchwork (.mk 3600 0) = .ok g ∧ g.player? 0 = some p ∧ g.player? 1 = some q ∧
      p.potentialNodes = [69] ∧ p.seaEdges = [[515]] ∧ q.potentialNodes = [71] ∧ q.seaEdges = [] ∧
      g.board.landAreaNodes = [[34], [69]] ∧ (g.potentials .every).length = 2 ∧
      ∃ l, (g.withLandAreas (g.potentials .every)).restoreAllPotentials (g.potentials .every) =
        .ok l ∧ l.HasPotentialsOf g := by
  obtain ⟨expand, save⟩ := records_expand
  obtain ⟨g, restored⟩ : ∃ g, restore patchwork (.mk 3600 0) = .ok g := ⟨_, rfl⟩
  obtain ⟨count, players, board⟩ := expand patchwork (.mk 3600 0) g restored
  have two : g.maxPlayers = 2 := count
  obtain ⟨p, first, hp⟩ := players 0 (by omega)
  obtain ⟨q, second, hq⟩ := players 1 (by omega)
  have filled : g.players ≠ [] := List.ne_nil_of_length_pos (by rw [maxPlayers] at two; omega)
  obtain ⟨-, each, again, -⟩ := save g filled (isNumbered_of_restore restored) (by omega)
  have differ : ¬ g.Agree := by
    intro agree
    have same := (agree p (List.mem_of_getElem? first) q (List.mem_of_getElem? second)).1
    rw [hp.nodes, hq.nodes] at same
    exact absurd same (by decide)
  exact ⟨g, p, q, restored, first, second, hp.nodes, hp.seaEdges, hq.nodes, hq.seaEdges,
    board.nodes, (each differ).length.trans two, again g rfl⟩

end Game
end SavedGames
