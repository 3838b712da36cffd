import Mathlib
import SavedGames.Game.Restore
import SavedGames.Proofs.Game.Seats
import SavedGames.Proofs.Lists
import SavedGames.Proofs.Snapshot.Valid

/-!
# What a snapshot is restored to

A snapshot that passes its check is restored unless its options, its layout or its start time
prevent it. One loop fills the seats of a new game, each with the record of its own number, and
another one hands out the potentials: of the records that cover a seat the last one decides for it.
-/
namespace SavedGames

/-- The seat is one of those that the scope speaks of. -/
def SeatScope.covers (i : Nat) : SeatScope → Bool
  | every => true
  | only seat => seat.toNat == i

def Board.withLandAreasOf (b : Board) : List Potentials → Board
  | [] => b
  | record :: _ => b.withLandAreas record

namespace Player

/-- The player of seat `i` with the potentials of the last record for this seat. -/
def withPotentialsAt (i : Nat) (records : List Potentials) (p : Player) : Player :=
  match (records.filter fun r => r.scope.covers i).getLast? with
  | some record => p.withPotentials record
  | none => p

-- a record replaces both parts of the potentials, so none before the last one can be seen
theorem withPotentialsAt_cons (i : Nat) (record : Potentials) (records : List Potentials)
    (p : Player) :
    p.withPotentialsAt i (record :: records) =
      (p.withPotentialsAt i [record]).withPotentialsAt i records := by
  by_cases covers : record.scope.covers i
  · cases last : (records.filter fun r => r.scope.covers i).getLast? with
    | none => simp [withPotentialsAt, covers, last, List.getLast?_cons]
    | some r => simp [withPotentialsAt, covers, last, List.getLast?_cons, withPotentials]
  · simp [withPotentialsAt, covers]

/-- Where all records for a seat agree and there is one, it does not matter which is taken. -/
theorem withPotentialsAt_agree {i : Nat} {records : List Potentials} {p : Player}
    {nodes : List Int32} {seaEdges : List (List Int32)}
    (covered : ∃ r ∈ records, r.scope.covers i = true)
    (agree : ∀ r ∈ records, r.scope.covers i = true → r.nodes = nodes ∧ r.seaEdges = seaEdges) :
    p.withPotentialsAt i records = { p with potentialNodes := nodes, seaEdges := seaEdges } := by
  cases last : (records.filter fun r => r.scope.covers i).getLast? with
  | none =>
    obtain ⟨r, hr, covers⟩ := covered
    have empty := List.getLast?_eq_none_iff.mp last
    exact absurd (List.filter_eq_nil_iff.mp empty r hr) (by simp [covers])
  | some r =>
    obtain ⟨hr, covers⟩ := List.mem_filter.mp (List.mem_of_getLast? last)
    obtain ⟨rfl, rfl⟩ := agree r hr covers
    simp [withPotentialsAt, last, withPotentials]

theorem withPotentialsAt_frame (i : Nat) (records : List Potentials) (p : Player) :
    ∃ potentialNodes seaEdges,
      p.withPotentialsAt i records = { p with potentialNodes, seaEdges } := by
  unfold withPotentialsAt
  split
  · exact ⟨_, _, rfl⟩
  · exact ⟨p.potentialNodes, p.seaEdges, rfl⟩

theorem withElement_frame (p : Player) (tag : Element) (n : Int32) :
    ∃ resources knights stock warships,
      p.withElement tag n = { p with resources, knights, stock, warships } := by
  cases tag <;> exact ⟨_, _, _, _, rfl⟩

theorem withElements_frame (es : Elements) (p : Player) :
    ∃ resources knights stock warships,
      p.withElements es = { p with resources, knights, stock, warships } := by
  induction es generalizing p with
  | nil => exact ⟨p.resources, p.knights, p.stock, p.warships, rfl⟩
  | cons e es ih =>
    obtain ⟨resources, knights, stock, warships, rest⟩ := ih (p.withElement e.1 e.2)
    obtain ⟨_, _, _, _, first⟩ := p.withElement_frame e.1 e.2
    refine ⟨resources, knights, stock, warships, ?_⟩
    change (p.withElement e.1 e.2).withElements es = _
    rw [rest, first]

theorem foldl_hold_new (cs : List Card) (p : Player) :
    cs.foldl (fun p c => p.hold (.card c) .new) p =
      { p with hand := { p.hand with new := p.hand.new ++ cs.map .card } } := by
  induction cs generalizing p with
  | nil => simp
  | cons c cs ih =>
    rw [List.foldl_cons, ih]
    simp [hold, Hand.add]

theorem foldl_hold_old (cs : List Card) (p : Player) :
    cs.foldl (fun p c => p.hold (.card c) (oldHolding c)) p =
      { p with
        hand := { p.hand with
          playable := p.hand.playable ++ (cs.filter fun c => !c.isVictoryPoint).map .card
          kept := p.hand.kept ++ (cs.filter Card.isVictoryPoint).map .card } } := by
  induction cs generalizing p with
  | nil => simp
  | cons c cs ih =>
    rw [List.foldl_cons, ih]
    by_cases point : c.isVictoryPoint <;> simp [hold, Hand.add, oldHolding, point]

theorem withCards_eq (p : Player) (newCards oldCards : List Card) :
    p.withCards newCards oldCards =
      { p with
        hand := {
          new := p.hand.new ++ newCards.map .card
          playable := p.hand.playable ++
            (oldCards.filter fun c => !c.isVictoryPoint).map .card
          kept := p.hand.kept ++ (oldCards.filter Card.isVictoryPoint).map .card } } := by
  rw [withCards, foldl_hold_new, foldl_hold_old]

end Player

namespace SeatRecord

/-- The seat of a record, with the potentials that the records give to seat `i`. -/
def restored (s : SeatRecord) (hasSea : Bool) (i : Nat) (records : List Potentials) : Seat where
  player := (Player.ofRecord i s hasSea).withPotentialsAt i records
  vacant := s.vacant

def hand (s : SeatRecord) : Hand where
  new := s.newCards.map .card
  playable := (s.oldCards.filter fun c => !c.isVictoryPoint).map .card
  kept := (s.oldCards.filter Card.isVictoryPoint).map .card

variable (s : SeatRecord) (hasSea : Bool) (i : Nat) (records : List Potentials)

/-- The player of a seat whose record is empty but for the marks of the player. -/
def nameplate : Player :=
  { Player.fresh i hasSea with
    name := s.name, totalVp := s.totalVp, isRobot := s.isRobot
    isBuiltInRobot := s.isBuiltInRobot, robotClass := s.robotClass, faceId := s.faceId }

variable {s}

theorem ofRecord_of_vacant (vacant : s.vacant = true) :
    Player.ofRecord i s hasSea = s.nameplate hasSea i := by
  rw [Player.ofRecord, if_pos vacant]
  rfl

/-- Whatever the elements and the potentials say, they leave the rest of a player alone. -/
theorem restored_frame (occupied : s.vacant = false) :
    ∃ resources knights stock warships potentialNodes seaEdges,
      (s.restored hasSea i records).player = {
        number := i, name := s.name, totalVp := s.totalVp, isRobot := s.isRobot
        isBuiltInRobot := s.isBuiltInRobot, robotClass := s.robotClass, faceId := s.faceId
        hand := s.hand, pieces := s.pieces, fortress := s.fortress
        resources, knights, stock, warships, potentialNodes, seaEdges } := by
  obtain ⟨nodes, edges, potentials⟩ :=
    Player.withPotentialsAt_frame i records (.ofRecord i s hasSea)
  obtain ⟨resources, knights, stock, warships, elements⟩ :=
    (s.nameplate hasSea i).withElements_frame s.elements
  refine ⟨resources, knights, stock, warships, nodes, edges, ?_⟩
  rw [nameplate] at elements
  rw [restored, potentials, Player.ofRecord, occupied, if_neg Bool.false_ne_true, elements,
    Player.withCards_eq]
  rfl

/-- A restored player has the number of the seat. -/
theorem number_restored : (s.restored hasSea i records).player.number = i := by
  cases vacant : s.vacant with
  | true =>
    obtain ⟨nodes, edges, potentials⟩ :=
      Player.withPotentialsAt_frame i records (.ofRecord i s hasSea)
    rw [restored, potentials, ofRecord_of_vacant _ _ vacant]
    rfl
  | false =>
    obtain ⟨_, _, _, _, _, _, player⟩ := s.restored_frame hasSea i records vacant
    rw [player]

end SeatRecord

namespace Game

variable {g : Game}

/-- By induction on the records: what stands in front of the first one left is filled already. -/
theorem restoreSeats_eq {filled players : List Player} {marked vacant : List Bool}
    {records : List SeatRecord} (hasPlayers : g.players = filled ++ players)
    (hasVacancies : g.vacant = marked ++ vacant) (even : marked.length = filled.length)
    (playersLeft : players.length = records.length)
    (vacanciesLeft : vacant.length = records.length) :
    g.restoreSeats filled.length records =
      { g with
        players := filled ++ List.zipWith (fun p s => .ofRecord p.number s g.hasSea) players records
        vacant := marked ++ records.map SeatRecord.vacant } := by
  induction records generalizing g filled players marked vacant with
  | nil =>
    obtain rfl := List.eq_nil_of_length_eq_zero playersLeft
    obtain rfl := List.eq_nil_of_length_eq_zero vacanciesLeft
    simp [restoreSeats, ← hasPlayers, ← hasVacancies]
  | cons s records ih =>
    obtain ⟨p, players, rfl⟩ := List.exists_cons_of_length_eq_add_one playersLeft
    obtain ⟨v, vacant, rfl⟩ := List.exists_cons_of_length_eq_add_one vacanciesLeft
    let next : Game := { g with
      players := (filled ++ [.ofRecord p.number s g.hasSea]) ++ players
      vacant := (marked ++ [s.vacant]) ++ vacant }
    have step : ((g.setVacant filled.length s.vacant).modifyPlayer filled.length fun p =>
        .ofRecord p.number s g.hasSea) = next := by
      have here : g.vacant.set filled.length s.vacant = marked ++ s.vacant :: vacant := by
        rw [hasVacancies, ← even]
        simp
      simp only [setVacant, modifyPlayer, here, hasPlayers, modify_length_append, next,
        List.append_assoc, List.singleton_append]
    have rest := ih (g := next) rfl rfl (by simpa using even) (by simpa using playersLeft)
      (by simpa using vacanciesLeft)
    rw [restoreSeats, step]
    simpa [next, hasSea] using rest

def withPotentials (g : Game) (records : List Potentials) : Game :=
  { g with players := g.players.mapIdx fun i p => p.withPotentialsAt i records }

theorem maxPlayers_withPotentials (g : Game) (records : List Potentials) :
    (g.withPotentials records).maxPlayers = g.maxPlayers := by
  simp [maxPlayers, withPotentials]

theorem withPotentials_nil (g : Game) : g.withPotentials [] = g := by
  have same : (g.players.mapIdx fun i p => p.withPotentialsAt i []) = g.players := mapIdx_id _
  rw [withPotentials, same]

theorem withPotentials_cons (g : Game) (record : Potentials) (records : List Potentials) :
    g.withPotentials (record :: records) =
      (g.withPotentials [record]).withPotentials records := by
  have same : (g.players.mapIdx fun i p => p.withPotentialsAt i (record :: records)) =
      (g.players.mapIdx fun i p => p.withPotentialsAt i [record]).mapIdx fun i p =>
        p.withPotentialsAt i records := by
    rw [List.mapIdx_mapIdx]
    congr 1
    funext i p
    simp only [Function.comp, Player.withPotentialsAt_cons i record records]
  rw [withPotentials, same]
  rfl

theorem withLandAreas_eq (g : Game) (records : List Potentials) :
    g.withLandAreas records = { g with board := g.board.withLandAreasOf records } := by
  cases records <;> rfl

theorem restorePotentials_eq {record : Potentials} (h : record.InRange g.maxPlayers) :
    g.restorePotentials record = .ok (g.withPotentials [record]) := by
  cases scope : record.scope with
  | every =>
    have same : (g.players.map fun p => p.withPotentials record) =
        g.players.mapIdx fun i p => p.withPotentialsAt i [record] :=
      List.ext_getElem? fun i => by simp [Player.withPotentialsAt, SeatScope.covers, scope]
    rw [restorePotentials, withPotentials, scope, ← same]
  | only seat =>
    have same : (g.players.modify seat.toNat fun p => p.withPotentials record) =
        g.players.mapIdx fun i p => p.withPotentialsAt i [record] := by
      refine List.ext_getElem? fun i => ?_
      by_cases here : seat.toNat = i <;>
        simp [Player.withPotentialsAt, SeatScope.covers, scope, here]
    simp only [restorePotentials, scope, if_pos (h seat scope), modifyPlayer, withPotentials, same]

theorem restoreAllPotentials_eq {records : List Potentials}
    (h : ∀ r ∈ records, r.InRange g.maxPlayers) :
    g.restoreAllPotentials records = .ok (g.withPotentials records) := by
  induction records generalizing g with
  | nil => rw [withPotentials_nil, restoreAllPotentials]
  | cons record records ih =>
    obtain ⟨here, others⟩ := List.forall_mem_cons.mp h
    have rest := ih (g := g.withPotentials [record]) (by rwa [maxPlayers_withPotentials])
    simp only [restoreAllPotentials, restorePotentials_eq here, bind, Except.bind, rest,
      withPotentials_cons g record records]

end Game

namespace Snapshot

variable {m : Snapshot} {now : Instant} {g : Game} {i : Nat}

/-- The new game of a snapshot, with every seat vacant. -/
def unseated (m : Snapshot) (options : Option Options) (board : Board) (startTime : Instant) :
    Game :=
  { Game.new m.name m.seats.length board startTime with
    options
    currentPlayer := m.currentPlayer
    phase := .loading
    minVersion := m.minVersion
    dice := m.dice }

/-- The game of a snapshot before the records of potentials are looked at. -/
def seated (m : Snapshot) (options : Option Options) (board : Board) (startTime : Instant) :
    Game :=
  { m.unseated options board startTime with
    players := m.seats.mapIdx fun i s => .ofRecord i s board.hasSea
    vacant := m.seats.map SeatRecord.vacant }

/-- The game of a snapshot, which waits to be resumed. -/
def waiting (m : Snapshot) (options : Option Options) (board : Board) (startTime : Instant) :
    Game :=
  { m.seated options board startTime with
    board := board.withLandAreasOf m.board.potentials
    players := m.seats.mapIdx fun i s =>
      (s.restored board.hasSea i m.board.potentials).player }

theorem restoreSeats_unseated (options : Option Options) (board : Board) (startTime : Instant) :
    (m.unseated options board startTime).restoreSeats 0 m.seats =
      m.seated options board startTime := by
  have players : (m.unseated options board startTime).players =
      [] ++ (List.range m.seats.length).map (Player.fresh · board.hasSea) := rfl
  have vacant : (m.unseated options board startTime).vacant =
      [] ++ List.replicate m.seats.length true := rfl
  refine (Game.restoreSeats_eq players vacant rfl (by simp) (by simp)).trans ?_
  rw [zipWith_map_range]
  rfl

theorem restoreAllPotentials_seated (options : Option Options) (board : Board)
    (startTime : Instant) (h : ∀ p ∈ m.board.potentials, p.InRange m.seats.length) :
    ((m.seated options board startTime).withLandAreas m.board.potentials).restoreAllPotentials
      m.board.potentials = .ok (m.waiting options board startTime) := by
  have inRange : ∀ p ∈ m.board.potentials, p.InRange
      ({ m.seated options board startTime with
        board := board.withLandAreasOf m.board.potentials } : Game).maxPlayers := by
    simpa [Game.maxPlayers, seated] using h
  rw [Game.withLandAreas_eq]
  refine (Game.restoreAllPotentials_eq inRange).trans ?_
  have players : ((m.seated options board startTime).players.mapIdx fun i p =>
      p.withPotentialsAt i m.board.potentials) = (m.waiting options board startTime).players :=
    List.ext_getElem? fun i => by simp [seated, waiting, SeatRecord.restored, Function.comp_def]
  rw [Game.withPotentials, players]
  rfl

/-- A snapshot is restored if it is valid, its options and its layout can be read, and the game
began at a time that can be represented. -/
theorem restore_eq_ok :
    Game.restore m now = .ok g ↔
      m.Valid ∧ ∃ options board startTime, Game.unpackOptions m.options = .ok options ∧
        Board.ofLayout m.board.layout = .ok board ∧
        now.subSeconds? m.duration.toInt = some startTime ∧
        g = m.waiting options board startTime := by
  rw [← check_eq_ok, Game.restore, then_eq_ok]
  refine and_congr_right fun check => ?_
  have inRange := (check_eq_ok.mp check).potentials
  simp only [bind_eq_ok, exists_and_left]
  refine exists_congr fun options => and_congr_right fun _ => ?_
  refine exists_congr fun board => and_congr_right fun _ => ?_
  cases started : now.subSeconds? m.duration.toInt with
  | none => simp
  | some startTime =>
    have filled := restoreSeats_unseated (m := m) options board startTime
    have restored := restoreAllPotentials_seated options board startTime inRange
    rw [← filled, unseated] at restored
    simp [restored, eq_comm]

theorem getElem?_seats_waiting (options : Option Options) (board : Board) (startTime : Instant)
    (i : Nat) :
    (m.waiting options board startTime).seats[i]? =
      m.seats[i]?.map fun s => s.restored board.hasSea i m.board.potentials := by
  cases there : m.seats[i]? <;>
    simp [Game.getElem?_seats, Game.player?, Game.isVacant, waiting, seated, there,
      SeatRecord.restored]

end Snapshot

namespace Game

variable {m : Snapshot} {now : Instant} {g : Game}

theorem hasSea_waiting (options : Option Options) (board : Board) (startTime : Instant) :
    (m.waiting options board startTime).hasSea = board.hasSea := by
  unfold Snapshot.waiting hasSea
  cases m.board.potentials <;> rfl

theorem maxPlayers_waiting (options : Option Options) (board : Board) (startTime : Instant) :
    (m.waiting options board startTime).maxPlayers = m.seats.length := by
  simp [maxPlayers, Snapshot.waiting]

/-- The seats of a restored game are numbered, and each has its vacancy. -/
theorem consistent_waiting (options : Option Options) (board : Board) (startTime : Instant) :
    (m.waiting options board startTime).Consistent where
  numbered := by
    intro i p there
    simp only [Snapshot.waiting, List.getElem?_mapIdx, Option.map_eq_some_iff] at there
    obtain ⟨s, -, rfl⟩ := there
    exact s.number_restored _ i _
  vacant := by simp [Snapshot.waiting, Snapshot.seated]

theorem maxPlayers_of_restore (h : restore m now = .ok g) : g.maxPlayers = m.seats.length := by
  obtain ⟨-, options, board, startTime, -, -, -, rfl⟩ := Snapshot.restore_eq_ok.mp h
  exact maxPlayers_waiting options board startTime

theorem isNumbered_of_restore (h : restore m now = .ok g) : g.IsNumbered := by
  obtain ⟨-, options, board, startTime, -, -, -, rfl⟩ := Snapshot.restore_eq_ok.mp h
  exact (consistent_waiting options board startTime).numbered

theorem getElem?_of_restore {i : Nat} {s : SeatRecord} (h : restore m now = .ok g)
    (there : m.seats[i]? = some s) :
    g.seats[i]? = some (s.restored g.hasSea i m.board.potentials) := by
  obtain ⟨-, options, board, startTime, -, -, -, rfl⟩ := Snapshot.restore_eq_ok.mp h
  rw [hasSea_waiting, Snapshot.getElem?_seats_waiting, there, Option.map_some]

end Game

end SavedGames
