import SavedGames.Game
import SavedGames.Snapshot.Check

/-! A game built from a snapshot. It waits to be resumed, and is as old as the saved game was. -/
namespace SavedGames

namespace Player

def withElement (p : Player) (element : Element) (n : Int32) : Player :=
  match element.resource?, element.piece? with
  | some r, _ => { p with resources := p.resources.set r n }
  | none, some kind => { p with stock := p.stock.set kind n }
  | none, none =>
    match element with
    | .knights => { p with knights := n }
    | .warships => { p with warships := n }
    | _ => p

/-- A later entry with the same tag replaces an earlier one. -/
def withElements (p : Player) (es : Elements) : Player :=
  es.foldl (fun p e => p.withElement e.1 e.2) p

/-- How a card of an earlier turn is held: a victory point is kept, the others can be played. -/
def oldHolding (c : Card) : Holding := if c.isVictoryPoint then .kept else .playable

def withCards (p : Player) (newCards oldCards : List Card) : Player :=
  let p := newCards.foldl (fun p c => p.hold (.card c) .new) p
  oldCards.foldl (fun p c => p.hold (.card c) (oldHolding c)) p

/-- A vacant seat keeps a name, but gets nothing that belongs to play. -/
def ofRecord (number : Nat) (s : SeatRecord) (hasSea : Bool) : Player :=
  let p := { fresh number hasSea with
    name := s.name
    totalVp := s.totalVp
    isRobot := s.isRobot
    isBuiltInRobot := s.isBuiltInRobot
    robotClass := s.robotClass
    faceId := s.faceId }
  if s.vacant then p
  else
    { (p.withElements s.elements).withCards s.newCards s.oldCards with
      pieces := s.pieces
      fortress := s.fortress }

def withPotentials (p : Player) (record : Potentials) : Player :=
  { p with potentialNodes := record.nodes, seaEdges := record.seaEdges }

end Player

namespace Game

/-- Fills the seats from `first` on. -/
def restoreSeats (g : Game) (first : Nat) : List SeatRecord → Game
  | [] => g
  | s :: records =>
    let g := (g.setVacant first s.vacant).modifyPlayer first fun p =>
      .ofRecord p.number s g.hasSea
    g.restoreSeats (first + 1) records

def restorePotentials (g : Game) (record : Potentials) : Except SaveError Game :=
  match record.scope with
  | .every =>
    .ok { g with players := g.players.map fun p => p.withPotentials record }
  | .only seat =>
    if seat.toNat < g.maxPlayers then
      .ok (g.modifyPlayer seat.toNat fun p => p.withPotentials record)
    else .error (.missingSeat seat.toNat g.maxPlayers)

def restoreAllPotentials : Game → List Potentials → Except SaveError Game
  | g, [] => .ok g
  | g, record :: records => do restoreAllPotentials (← g.restorePotentials record) records

/-- Land areas are taken from the first record. -/
def withLandAreas (g : Game) (records : List Potentials) : Game :=
  match records with
  | [] => g
  | record :: _ => { g with board := g.board.withLandAreas record }

def unpackOptions : Option String → Except SaveError (Option Options)
  | none => .ok none
  | some packed => ((Options.parse packed).map some).mapError .options

/-- The game of a snapshot that passes its check. -/
def restore (m : Snapshot) (now : Instant) : Except SaveError Game := do
  m.check
  let options ← unpackOptions m.options
  let board ← Board.ofLayout m.board.layout
  match now.subSeconds? m.duration.toInt with
  | none => .error .unrepresentableTime
  | some startTime =>
    let g : Game := { new m.name m.seats.length board startTime with
      options
      currentPlayer := m.currentPlayer
      phase := .loading
      minVersion := m.minVersion
      dice := m.dice }
    let g := g.restoreSeats 0 m.seats
    (g.withLandAreas m.board.potentials).restoreAllPotentials m.board.potentials

end Game
end SavedGames
