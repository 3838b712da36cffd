import SavedGames.Change
import SavedGames.Game.Board
import SavedGames.Game.Player
import SavedGames.Snapshot.Capture

/-! A running game: a board, the state of the turn, and seats in which players sit. -/
namespace SavedGames

structure Game where
  name : String
  options : Option Options := none
  startTime : Instant
  /-- A seat, or `-1` before the first turn. -/
  currentPlayer : Int32 := -1
  phase : Phase := .beginning
  minVersion : Int32 := 1000
  dice : Int32 := 0
  board : Board
  /-- Every seat has a player from the start, also while nobody sits there. -/
  players : List Player
  /-- Whether a seat is vacant, for each of them. -/
  vacant : List Bool
  deriving DecidableEq

/-- One seat's player, and whether the seat is vacant. -/
structure Seat where
  player : Player
  vacant : Bool
  deriving DecidableEq, Repr

namespace Game

/-- No memory holds a game of more seats. -/
def maxSeats : Nat := twoTo 48

/-- A new game, with every seat vacant. -/
def new (name : String) (maxPlayers : Nat) (board : Board) (startTime : Instant) : Game where
  name
  startTime
  board
  players := (List.range maxPlayers).map fun number => .fresh number board.hasSea
  vacant := List.replicate maxPlayers true

def start? (name : String) (maxPlayers : Nat) (board : Board) (startTime : Instant) :
    Option Game :=
  if maxSeats < maxPlayers then none else some (new name maxPlayers board startTime)

def maxPlayers (g : Game) : Nat := g.players.length

def hasSea (g : Game) : Bool := g.board.hasSea

def player? (g : Game) (seat : Nat) : Option Player := g.players[seat]?

/-- Changes the player of a seat. A seat that does not exist changes nothing. -/
def modifyPlayer (g : Game) (seat : Nat) (f : Player → Player) : Game :=
  { g with players := g.players.modify seat f }

def setVacant (g : Game) (seat : Nat) (vacant : Bool) : Game :=
  { g with vacant := g.vacant.set seat vacant }

/-- Seats a player, and marks the seat as occupied. -/
def sitDown (seat : Nat) (name : String) : Change Game SaveError Unit := do
  let g ← get
  if seat < g.maxPlayers then
    modify fun g => g.modifyPlayer seat fun p => { p with name := some name }
    modify fun g => g.setVacant seat false
  else throw (.missingSeat seat g.maxPlayers)

/-- A seat that does not exist is vacant. -/
def isVacant (g : Game) (seat : Nat) : Bool := (g.vacant[seat]?).getD true

/-- The players whose seats are occupied. Each looks up the seat of its own number; there is no
answer if one of them finds nothing there. -/
def occupants? (vacant : List Bool) : List Player → Option (List Player)
  | [] => some []
  | p :: players => do
    let isVacant ← vacant[p.number]?
    let occupants ← occupants? vacant players
    return if isVacant then occupants else p :: occupants

def seated? (g : Game) : Option (List Player) := occupants? g.vacant g.players

def session (g : Game) : Session where
  name := g.name
  options := g.options
  startTime := g.startTime
  currentPlayer := g.currentPlayer
  phase := g.phase
  minVersion := g.minVersion
  dice := g.dice
  maxPlayers := g.maxPlayers
  hasSea := g.hasSea
  isVacant := g.isVacant
  seat? seat := (g.player? seat).map Player.view

def potentialsOf (g : Game) (scope : SeatScope) (p : Player) : Potentials where
  scope
  nodes := p.potentialNodes
  landAreaCount := g.board.landAreaCount
  startingLandArea := g.board.startingLandArea
  landAreaNodes := g.board.landAreaNodes
  seaEdges := p.seaEdges

/-- Two players may build in the same places. -/
def samePotentials (p q : Player) : Bool :=
  p.potentialNodes == q.potentialNodes && p.seaEdges == q.seaEdges

/-- One record for all seats if they agree, otherwise one for each. -/
def potentials (g : Game) : SeatScope → List Potentials
  | .only seat =>
    ((g.player? seat.toNat).map fun p => g.potentialsOf (.only seat) p).toList
  | .every =>
    match g.players with
    | [] => []
    | first :: _ =>
      if g.players.all fun p => samePotentials p first then [g.potentialsOf .every first]
      else g.players.map fun p => g.potentialsOf (.only (UInt64.ofNat p.number)) p

def projection (g : Game) : Projection where
  layout := .known g.board.layout
  potentials := g.potentials

/-- A snapshot of the game. -/
def capture (g : Game) (now : Instant) : Except SaveError Snapshot :=
  g.session.capture g.projection now

end Game
end SavedGames
