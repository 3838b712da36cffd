import Mathlib
import SavedGames.Proofs.Game.Reload
import SavedGames.Proofs.Snapshot.Lossless

/-!
# Loading a save and saving it again

The first save after loading is a normal form of the one that was loaded: it keeps the turn and the
occupied seats, and it is left as it is by every further cycle at the same age of the game. A cycle
within a leap second is not always one: a game that began on the day before, later in the day, loses
a second of its age.
-/
namespace SavedGames

namespace Hand

/-- The hand has no victory point to play, and keeps nothing else. -/
structure IsSorted (h : Hand) : Prop where
  playable : ∀ item ∈ h.playable, item.isVictoryPoint = false
  kept : ∀ item ∈ h.kept, item.isVictoryPoint = true

theorem settled_of_isSorted {h : Hand} (sorted : h.IsSorted) : h.settled = h := by
  have playable : (h.playable.filter fun item => !item.isVictoryPoint) = h.playable :=
    List.filter_eq_self.mpr fun item hi => by simp [sorted.playable item hi]
  have kept : h.kept.filter Item.isVictoryPoint = h.kept :=
    List.filter_eq_self.mpr sorted.kept
  have noneKept : (h.kept.filter fun item => !item.isVictoryPoint) = [] :=
    List.filter_eq_nil_iff.mpr fun item hi => by simp [sorted.kept item hi]
  have nonePlayable : h.playable.filter Item.isVictoryPoint = [] :=
    List.filter_eq_nil_iff.mpr fun item hi => by simp [sorted.playable item hi]
  simp [settled, playable, kept, noneKept, nonePlayable]

end Hand

namespace Seat

variable {s : Seat} {hasSea : Bool}

theorem elements_settled (p : Player) (hasSea : Bool) :
    (p.settled hasSea).view.elements hasSea = p.view.elements hasSea := by
  cases hasSea <;> rfl

/-- A save does not change by what it does not keep. -/
theorem record_settled (sorted : s.vacant = false → s.player.hand.IsSorted) :
    (s.settled hasSea).record hasSea = s.record hasSea := by
  cases vacant : s.vacant with
  | true => simp [settled, record, vacant]
  | false =>
    have hand := Hand.settled_of_isSorted (sorted vacant)
    have elements := elements_settled s.player hasSea
    simp only [settled, record, vacant, Bool.false_eq_true, if_false, elements]
    simp only [Player.settled, hand]

theorem potentialNodes_settled :
    (s.settled hasSea).player.potentialNodes = s.player.potentialNodes := by
  cases vacant : s.vacant <;> simp [settled, vacant, Player.settled]

theorem seaEdges_settled : (s.settled hasSea).player.seaEdges = s.player.seaEdges := by
  cases vacant : s.vacant <;> simp [settled, vacant, Player.settled]

end Seat

namespace Game

variable {g : Game}

theorem hasSea_settled (g : Game) (startTime : Instant) : (g.settled startTime).hasSea = g.hasSea :=
  Board.hasSea_settled g.board

theorem potentialsOf_settled (g : Game) (startTime : Instant) (scope : SeatScope) (s : Seat) :
    (g.settled startTime).potentialsOf scope (s.settled g.hasSea).player =
      g.potentialsOf scope s.player := by
  have board : g.board.settled.landAreaCount = g.board.landAreaCount ∧
      g.board.settled.startingLandArea = g.board.startingLandArea ∧
      g.board.settled.landAreaNodes = g.board.landAreaNodes := by
    cases e : g.board.encoding <;> simp [Board.settled, e]
  simp [potentialsOf, settled, Seat.potentialNodes_settled, Seat.seaEdges_settled, board]

theorem number_settled (s : Seat) (hasSea : Bool) :
    (s.settled hasSea).player.number = s.player.number := by
  cases vacant : s.vacant <;> simp [Seat.settled, vacant, Player.settled, Player.fresh]

theorem potentials_settled (g : Game) (startTime : Instant) :
    (g.settled startTime).potentials .every = g.potentials .every := by
  have settled : (g.settled startTime).players =
      g.seats.map fun s => (s.settled g.hasSea).player := rfl
  have players : g.players = g.seats.map Seat.player := g.map_player_seats.symm
  cases all : g.seats with
  | nil => simp [potentials, settled, players, all]
  | cons first rest =>
    simp only [potentials, settled, players, all, List.map_cons]
    simp [potentialsOf_settled, number_settled, samePotentials, Seat.potentialNodes_settled,
      Seat.seaEdges_settled, Function.comp_def]

/-- Where the hands are sorted, only the age of the game can make a difference to its save. -/
theorem snapshot_settled (sorted : ∀ s ∈ g.seats, s.vacant = false → s.player.hand.IsSorted)
    (startTime saved again : Instant) :
    (g.settled startTime).snapshot again =
      { g.snapshot saved with duration := Instant.elapsedSeconds startTime again } := by
  have seats : (g.settled startTime).seats.map (Seat.record g.hasSea) =
      g.seats.map (Seat.record g.hasSea) := by
    rw [seats_settled, List.map_map]
    exact List.map_congr_left fun s hs => Seat.record_settled (sorted s hs)
  simp only [snapshot, hasSea_settled, potentials_settled, seats]
  simp only [settled, Board.layout_settled]

end Game

namespace SeatRecord

variable {s : SeatRecord} (hasSea : Bool) (i : Nat) (records : List Potentials)

/-- The cards of earlier turns with the victory points behind the others. -/
def sortedCards (s : SeatRecord) : List Card :=
  (s.oldCards.filter fun c => !c.isVictoryPoint) ++ s.oldCards.filter Card.isVictoryPoint

theorem isSorted_hand (s : SeatRecord) : s.hand.IsSorted := by
  constructor
  · intro item hi
    obtain ⟨c, hc, rfl⟩ := List.mem_map.mp hi
    have plain := (List.mem_filter.mp hc).2
    simpa [Item.isVictoryPoint] using plain
  · intro item hi
    obtain ⟨c, hc, rfl⟩ := List.mem_map.mp hi
    exact (List.mem_filter.mp hc).2

theorem isSorted_restored (occupied : s.vacant = false) :
    (s.restored hasSea i records).player.hand.IsSorted := by
  obtain ⟨_, _, _, _, _, _, player⟩ := restored_frame hasSea i records occupied
  rw [player]
  exact s.isSorted_hand

theorem holdsCards_restored : (s.restored hasSea i records).HoldsCards := by
  intro occupied holding item hi
  obtain ⟨_, _, _, _, _, _, player⟩ := restored_frame hasSea i records occupied
  rw [player] at hi
  obtain ⟨c, rfl⟩ : ∃ c, Item.card c = item := by
    cases holding <;> exact (List.mem_map.mp hi).imp fun c hc => hc.2
  rfl

theorem record_restored (sea : Bool) (occupied : s.vacant = false) :
    ∃ elements, (s.restored hasSea i records).record sea =
      { s with elements, oldCards := s.sortedCards } := by
  obtain ⟨_, _, _, _, _, _, player⟩ := restored_frame hasSea i records occupied
  have cards (cs : List Card) : (cs.map Item.card).filterMap Item.card? = cs := by
    rw [List.filterMap_map]
    exact List.filterMap_some
  have vacant : (s.restored hasSea i records).vacant = false := occupied
  refine ⟨(s.restored hasSea i records).player.view.elements sea, ?_⟩
  have old : (s.hand.playable ++ s.hand.kept).filterMap Item.card? = s.sortedCards := by
    rw [hand, ← List.map_append, cards, sortedCards]
  simp only [Seat.record, vacant, if_neg Bool.false_ne_true, player, old, occupied]
  simp only [hand, cards]

end SeatRecord

namespace Snapshot

variable {m n : Snapshot} {now loaded saved startTime : Instant} {options : Option Options}
  {board : Board}

/-- The save of the game that a snapshot is resumed to, whatever its constraints say. -/
def cycle (m : Snapshot) (loaded saved : Instant) : Except SaveError Snapshot := do
  let waiting ← Game.restore m loaded
  let game ← (m.resume true []).changed waiting
  game.capture saved

/-- One cycle after another, each loaded and saved at instants of its own. -/
def cycles (m : Snapshot) : List (Instant × Instant) → Except SaveError Snapshot
  | [] => .ok m
  | (loaded, saved) :: times => do cycles (← m.cycle loaded saved) times

/-- A game loaded at the one instant is as old at the other as it was when it was saved. -/
def SameAge (m : Snapshot) (loaded saved : Instant) : Prop :=
  ∃ startTime, loaded.subSeconds? m.duration.toInt = some startTime ∧
    Instant.elapsedSeconds startTime saved = m.duration

/-- The later snapshot keeps the turn of the earlier one and its occupied seats. -/
structure Keeps (m n : Snapshot) : Prop where
  turn : n = { m with
    duration := n.duration
    options := n.options
    board := n.board
    seats := n.seats
    constraints := n.constraints }
  count : n.seats.length = m.seats.length
  vacancy : n.seats.map SeatRecord.vacant = m.seats.map SeatRecord.vacant
  seats : ∀ (i : Nat) (s : SeatRecord), m.seats[i]? = some s → s.vacant = false →
    ∃ elements, n.seats[i]? = some { s with elements, oldCards := s.sortedCards }

/-- The game of a snapshot in its saved phase. -/
def resumed (m : Snapshot) (options : Option Options) (board : Board) (startTime : Instant) :
    Game :=
  { m.waiting options board startTime with phase := m.phase }

theorem getElem?_resumed (i : Nat) :
    (m.resumed options board startTime).seats[i]? =
      m.seats[i]?.map fun s => s.restored board.hasSea i m.board.potentials :=
  m.getElem?_seats_waiting options board startTime i

theorem length_resumed : (m.resumed options board startTime).seats.length = m.seats.length := by
  rw [Game.length_seats]
  exact Game.maxPlayers_waiting options board startTime

theorem consistent_resumed : (m.resumed options board startTime).Consistent :=
  have consistent := Game.consistent_waiting (m := m) options board startTime
  ⟨consistent.numbered, consistent.vacant⟩

/-- Every seat of the resumed game comes from a record. -/
theorem of_mem_resumed {t : Seat} (ht : t ∈ (m.resumed options board startTime).seats) :
    ∃ (i : Nat) (s : SeatRecord), m.seats[i]? = some s ∧
      s.restored board.hasSea i m.board.potentials = t := by
  obtain ⟨i, there⟩ := List.mem_iff_getElem?.mp ht
  rw [getElem?_resumed] at there
  obtain ⟨s, seat, eq⟩ := Option.map_eq_some_iff.mp there
  exact ⟨i, s, seat, eq⟩

theorem holdsCards_resumed : ∀ t ∈ (m.resumed options board startTime).seats, t.HoldsCards := by
  intro t ht
  obtain ⟨i, s, -, rfl⟩ := of_mem_resumed ht
  exact SeatRecord.holdsCards_restored _ _ _

theorem isSorted_resumed : ∀ t ∈ (m.resumed options board startTime).seats,
    t.vacant = false → t.player.hand.IsSorted := by
  intro t ht occupied
  obtain ⟨i, s, -, rfl⟩ := of_mem_resumed ht
  exact SeatRecord.isSorted_restored _ _ _ occupied

/-- The pieces in an occupied seat are still its own. -/
theorem owned_resumed (valid : m.Valid) :
    ∀ (i : Nat) (t : Seat), (m.resumed options board startTime).seats[i]? = some t →
      t.vacant = false → ∀ piece ∈ t.player.pieces ++ t.player.fortress.toList,
        piece.owner.toNat = i := by
  intro i t there occupied piece mem
  rw [getElem?_resumed] at there
  obtain ⟨s, seat, rfl⟩ := Option.map_eq_some_iff.mp there
  obtain ⟨_, _, _, _, _, _, player⟩ := s.restored_frame board.hasSea i m.board.potentials occupied
  rw [player] at mem
  exact (valid.records i s seat).owned piece mem

/-- The save of a resumed game passes the check that the snapshot passed. -/
theorem valid_resumed (valid : m.Valid) :
    ((m.resumed options board startTime).snapshot saved).Valid where
  version := rfl
  minVersion := valid.minVersion
  name := valid.name
  seats := by
    rw [← List.length_pos_iff, Game.snapshot, List.length_map, length_resumed]
    exact List.length_pos_iff.mpr valid.seats
  player := by
    rw [seatLimit, Game.snapshot, List.length_map, length_resumed]
    exact valid.player
  phase := valid.phase
  duration := Instant.elapsedSeconds_nonneg _ _
  potentials := by
    have consistent : (m.resumed options board startTime).Consistent := consistent_resumed
    have inRange := Game.potentials_inRange consistent.numbered
    simpa [Game.snapshot, Game.maxPlayers] using inRange
  records := Game.validAt_snapshot.mpr (owned_resumed valid)

theorem keeps_resumed (valid : m.Valid) :
    m.Keeps ((m.resumed options board startTime).snapshot saved) where
  turn := by
    have version := valid.version
    simp only [Game.snapshot, resumed, waiting, seated, unseated, Game.new, ← version]
  count := by rw [Game.snapshot, List.length_map, length_resumed]
  vacancy := by
    refine List.ext_getElem? fun i => ?_
    cases there : m.seats[i]? <;>
      simp [Game.snapshot, getElem?_resumed, there, SeatRecord.restored]
  seats := by
    intro i s there occupied
    obtain ⟨elements, record⟩ := s.record_restored board.hasSea i m.board.potentials
      (m.resumed options board startTime).hasSea occupied
    exact ⟨elements, by simp [Game.snapshot, getElem?_resumed, there, record]⟩

/-- A loadable snapshot is saved again as the game that it is resumed to. -/
theorem cycle_eq (valid : m.Valid)
    (restored : Game.restore m loaded = .ok (m.waiting options board startTime)) :
    m.cycle loaded saved = .ok ((m.resumed options board startTime).snapshot saved) := by
  have resume : (m.resume true []).changed (m.waiting options board startTime) =
      .ok (m.resumed options board startTime) :=
    Change.changed_eq_ok.mpr (resume_eq_ok.mpr ⟨rfl, rfl, rfl⟩)
  have captured : (m.resumed options board startTime).capture saved = _ :=
    Game.capture_eq valid.phase holdsCards_resumed
  simp only [cycle, restored, resume, captured, bind, Except.bind]

/-- The save of a game with sorted hands is saved again as itself, but for the age of the game. -/
theorem cycle_snapshot {g : Game} {first : Instant} (consistent : g.Consistent)
    (small : g.seats.length < 2 ^ 31) (savable : g.phase.isSavable = true)
    (cards : ∀ s ∈ g.seats, s.HoldsCards)
    (sorted : ∀ s ∈ g.seats, s.vacant = false → s.player.hand.IsSorted)
    (valid : (g.snapshot first).Valid)
    (start : loaded.subSeconds? (g.snapshot first).duration.toInt = some startTime) :
    (g.snapshot first).cycle loaded saved =
      .ok { g.snapshot first with duration := Instant.elapsedSeconds startTime saved } := by
  have restored := Game.restore_snapshot consistent small cards valid start
  have resume := Game.resume_snapshot g first startTime true
  have settledCards : ∀ t ∈ (g.settled startTime).seats, t.HoldsCards := by
    intro t ht
    rw [Game.seats_settled] at ht
    obtain ⟨s, hs, rfl⟩ := List.mem_map.mp ht
    exact Seat.holdsCards_settled _ (cards s hs)
  have captured : (g.settled startTime).capture saved = _ :=
    Game.capture_eq savable settledCards
  have again := Game.snapshot_settled sorted startTime first saved
  simp only [cycle, restored, resume, captured, again, bind, Except.bind]

/-- The hands of a resumed game are sorted, so a cycle has only the age of its save to change. -/
theorem cycle_resumed {first began : Instant} (valid : m.Valid) (small : m.seats.length < 2 ^ 31)
    (start : loaded.subSeconds?
      ((m.resumed options board startTime).snapshot first).duration.toInt = some began) :
    ((m.resumed options board startTime).snapshot first).cycle loaded saved =
      .ok { (m.resumed options board startTime).snapshot first with
        duration := Instant.elapsedSeconds began saved } := by
  have size : (m.resumed options board startTime).seats.length < 2 ^ 31 := by
    rwa [length_resumed]
  have savable : (m.resumed options board startTime).phase.isSavable = true := valid.phase
  exact cycle_snapshot consistent_resumed size savable holdsCards_resumed isSorted_resumed
    (valid_resumed valid) start

theorem cycles_fixed {times : List (Instant × Instant)}
    (h : ∀ t ∈ times, n.cycle t.1 t.2 = .ok n) : n.cycles times = .ok n := by
  induction times with
  | nil => rfl
  | cons t times ih =>
    obtain ⟨here, others⟩ := List.forall_mem_cons.mp h
    simp only [cycles, here, ih others, bind, Except.bind]

theorem age_bounds (valid : m.Valid) :
    0 ≤ m.duration.toInt ∧ m.duration.toInt ≤ Instant.maxAge := by
  have high := m.duration.toInt_lt
  refine ⟨by simpa [Int32.le_iff_toInt_le] using valid.duration, ?_⟩
  rw [Instant.maxAge]
  omega

/-- The first save after loading keeps the turn and the occupied seats, can be loaded in its turn,
and comes back from a cycle as it was, but for a second of its age that each of the two cycles can
lose. None is lost outside of leap seconds, and no cycle that keeps the age changes anything. -/
theorem cycle_reaches_fixed_point {waiting : Game} (small : m.seats.length < 2 ^ 31)
    (h : Game.restore m now = .ok waiting) :
    ∃ n again, m.cycle now now = .ok n ∧ n.check = .ok () ∧ Game.restore n now = .ok again ∧
      m.Keeps n ∧
      n.duration.toInt = m.duration.toInt - Instant.lostSecond waiting.startTime now now ∧
      (∃ age : Int32, n.cycle now now = .ok { n with duration := age } ∧
        age.toInt = n.duration.toInt - Instant.lostSecond again.startTime now now) ∧
      (¬ now.InLeapSecond → n.duration = m.duration ∧ n.cycle now now = .ok n) ∧
      ∀ times : List (Instant × Instant), (∀ t ∈ times, n.SameAge t.1 t.2) →
        n.cycles times = .ok n := by
  obtain ⟨valid, options, board, startTime, -, -, start, rfl⟩ := restore_eq_ok.mp h
  have size : (m.resumed options board startTime).seats.length < 2 ^ 31 := by
    rwa [length_resumed]
  have again : ((m.resumed options board startTime).snapshot now).Valid := valid_resumed valid
  obtain ⟨nonneg, young⟩ := age_bounds valid
  obtain ⟨nonneg', young'⟩ := age_bounds again
  have age : ((m.resumed options board startTime).snapshot now).duration.toInt =
      m.duration.toInt - Instant.lostSecond startTime now now :=
    Instant.toInt_elapsedSeconds_of_subSeconds? nonneg young start
  have lost := Instant.lostSecond_cases startTime now now
  obtain ⟨later, start'⟩ := Instant.exists_subSeconds?_of_le start nonneg' (by omega)
  have age' := Instant.toInt_elapsedSeconds_of_subSeconds? nonneg' young' start'
  have restored :=
    Game.restore_snapshot consistent_resumed size holdsCards_resumed again start'
  refine ⟨_, _, cycle_eq valid h, check_eq_ok.mpr again, restored, keeps_resumed valid, age,
    ⟨_, cycle_resumed valid small start', age'⟩, fun usual => ⟨?_, ?_⟩,
    fun times same => cycles_fixed fun t ht => ?_⟩
  · rw [Instant.lostSecond_of_not_inLeapSecond usual, Int.sub_zero] at age
    exact Int32.toInt_inj.mp age
  · rw [Instant.lostSecond_of_not_inLeapSecond usual, Int.sub_zero] at age'
    rw [cycle_resumed valid small start', Int32.toInt_inj.mp age']
  · obtain ⟨began, start, kept⟩ := same t ht
    rw [cycle_resumed valid small start, kept]

theorem specimen_reaches_fixed_point :
    ∃ waiting n, Game.restore specimen (.mk 2000 0) = .ok waiting ∧
      specimen.cycle (.mk 2000 0) (.mk 2000 0) = .ok n ∧ specimen.Keeps n ∧
      n.duration = specimen.duration ∧ n.cycle (.mk 2000 0) (.mk 2000 0) = .ok n := by
  cases h : Game.restore specimen (.mk 2000 0) with
  | error e =>
    have loads : (Game.restore specimen (.mk 2000 0)).isOk = true := by decide
    rw [h] at loads
    cases loads
  | ok waiting =>
    obtain ⟨n, -, saved, -, -, keeps, -, -, usual, -⟩ := cycle_reaches_fixed_point (by decide) h
    obtain ⟨age, again⟩ := usual (by decide)
    exact ⟨waiting, n, rfl, saved, keeps, age, again⟩

/-- The leap second behind 12:34:59, of which a half has passed. -/
def leapInstant : Instant := .mk 131699 1500000000

/-- A game that began in the evening of the day before is a second younger after a cycle. -/
theorem leap_second_lost :
    ∃ waiting n, Game.restore { specimen with duration := 60000 } leapInstant = .ok waiting ∧
      ({ specimen with duration := 60000 } : Snapshot).cycle leapInstant leapInstant = .ok n ∧
      n.duration = 59999 :=
  ⟨_, _, rfl, rfl, rfl⟩

end Snapshot

end SavedGames
