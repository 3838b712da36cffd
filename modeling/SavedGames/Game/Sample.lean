import SavedGames.Game
import SavedGames.Generator

/-! Sample games: games in progress on every kind of board, with vacant seats, robots, cards in each
state and pieces of a scenario. A sample depends on its seed and its number of seats alone. -/
namespace SavedGames.Sample

open Generator (between chance pick)

def number (lo hi : Nat) (h : lo ≤ hi := by decide) : Draw Int32 := do
  return Int32.ofNat (← between lo hi h)

def numbers (count lo hi : Nat) (h : lo ≤ hi := by decide) : Draw (List Int32) :=
  Generator.list count fun _ => number lo hi h

/-- `count` coordinates from `base` on, `stride` apart. -/
def spaced (base stride count : Nat) : List Int32 :=
  (List.range count).map fun i => Int32.ofNat (base + i * stride)

def playerNames : List String :=
  ["Ada", "Bram", "Cleo", "Dario", "Edda", "Finn", "Greta", "Hugo", "Ines", "Jory", "Kasia",
    "Lars", "Mira", "Nils", "Odile", "Pavel", "Quinn", "Rosa", "Sven", "Tamsin"]

/-- The class of the robots that come with the server, and that of the others. -/
def robotClass (builtIn : Bool) : String := if builtIn then "builtin.Robot" else "bots.SmartRobot"

def phases : List Phase := [.rollOrCard, .play, .placingRobber, .waitingForDiscards]

def playableCards : List Card := [.knight, .roads, .discovery, .monopoly]

def victoryCards : List Card := [.capitol, .market, .university, .temple, .chapel]

/-- More than four seats need the board for six players. -/
def encoding (maxPlayers : Nat) : Draw Encoding := do
  if 4 < maxPlayers then return .sixPlayer
  if ← chance 50 then return .large
  return .classic

def hexCount : Encoding → Nat
  | .classic => 37
  | .sixPlayer => 56
  | .large => 48

/-- Hexes of kind zero have no number. -/
def hexNumbers : List Int32 → Draw (List Int32)
  | [] => return []
  | hex :: hexes => do
    let n ← if hex = 0 then pure (-1) else number 0 9
    return n :: (← hexNumbers hexes)

def harbors (e : Encoding) : Draw (List Int32) := do
  if e = .classic then return []
  numbers (← between 5 9) 0 5

def landHexes (e : Encoding) : Draw (List Int32) := do
  if e.hasSea then return spaced 0x0103 2 (← between 8 16)
  return []

def pirateHex (e : Encoding) : Draw Int32 := do
  if e.hasSea then
    if ← chance 50 then return 0x0a0b
  return 0

def board (e : Encoding) : Draw Board := do
  let hexes ← numbers (hexCount e) 0 6
  return {
    encoding := e
    hexes
    numbers := ← hexNumbers hexes
    robberHex := 0x55 + (← number 0 4) * 2
    harbors := ← harbors e
    landHexes := ← landHexes e
    pirateHex := ← pirateHex e }

def options (maxPlayers : Nat) (hasSea : Bool) : Draw Options := do
  let redeal ← chance 50
  let points ← pick [10, 12, 13] (by decide)
  let settings :=
    [(Options.maxPlayersKey, .number (Int32.ofNat maxPlayers)), ("RD", .flag redeal),
      ("VP", .flaggedNumber true points)] ++
    if hasSea then [("SBL", .flag true)] else []
  return settings.foldl .set .empty

/-- The first coordinate of a seat's pieces. -/
def firstNode (seat : Nat) : Int32 := 0x23 + Int32.ofNat seat * 0x20

/-- Settlements, each with a road beside it. -/
def settle (seat : Nat) (p : Player) (count : Nat) : Player :=
  (List.range count).foldl (fun p i =>
    let node := firstNode seat + Int32.ofNat i * 4
    (p.place { kind := .settlement, coord := node, owner := UInt64.ofNat seat }).place
      { kind := .road, coord := node + 1, owner := UInt64.ofNat seat }) p

def buildCities (seat : Nat) (p : Player) (count : Nat) : Player :=
  (List.range count).foldl (fun p i =>
    p.place {
      kind := .city
      coord := firstNode seat + Int32.ofNat i * 4
      owner := UInt64.ofNat seat }) p

def launch (seat : Nat) (p : Player) (count : Nat) : Player :=
  (List.range count).foldl (fun p i =>
    p.place {
      kind := .ship
      coord := firstNode seat + 0x21 + Int32.ofNat i * 2
      owner := UInt64.ofNat seat }) p

/-- Seat zero is never a robot's. -/
def robot (seat : Nat) (p : Player) : Draw Player := do
  if 0 < seat then
    if ← chance 50 then
      let builtIn ← chance 70
      return { p with
        isRobot := true
        isBuiltInRobot := builtIn
        robotClass := some (robotClass builtIn) }
  return p

def resources : Draw Resources := do
  return {
    clay := ← number 0 4
    ore := ← number 0 4
    sheep := ← number 0 4
    wheat := ← number 0 4
    wood := ← number 0 4 }

/-- Ships and warships, and for seat zero perhaps a fortress. -/
def seafaring (seat : Nat) (p : Player) : Draw Player := do
  let p := launch seat p (← between 0 3)
  let p := { p with warships := ← number 0 2 }
  if seat = 0 then
    if ← chance 50 then
      return { p with fortress := some (.fortress 0x0c05 (UInt64.ofNat seat) (← number 1 6)) }
  return p

def draw (cards : List Card) (h : cards ≠ []) (holding : Holding) (p : Player) : Draw Player := do
  return p.hold (.card (← pick cards h)) holding

def newCards (p : Player) : Draw Player := do
  if ← chance 40 then draw playableCards (by decide) .new p else return p

def oldCards : Nat → Player → Draw Player
  | 0, p => return p
  | n + 1, p => do oldCards n (← draw playableCards (by decide) .playable p)

/-- A player in the middle of a game. Each settlement and each kept card counts one point, each city
two. -/
def player (seat : Nat) (hasSea : Bool) : Draw Player := do
  let name ← pick playerNames (by decide)
  let p ← robot seat { Player.fresh seat hasSea with name := some name, faceId := ← number 1 70 }
  let p := { p with resources := ← resources, knights := ← number 0 3 }
  let settlements ← between 2 4
  let cities ← between 0 1
  let p := buildCities seat (settle seat p settlements) cities
  let p ← if hasSea then seafaring seat p else pure p
  let p ← newCards p
  let p ← oldCards (← between 0 2) p
  let lucky ← chance 30
  let p ← if lucky then draw victoryCards (by decide) .kept p else pure p
  let points := settlements + cities + if lucky then 1 else 0
  return { p with totalVp := Int32.ofNat points }

/-- Every fourth seat, on the average, stays vacant; seat zero does not. -/
def seat (hasSea : Bool) (i : Nat) : Draw Seat := do
  if 0 < i then
    if ← chance 25 then return { player := .fresh i hasSea, vacant := true }
  return { player := ← player i hasSea, vacant := false }

def ownNodes (i : Nat) : Draw (List Int32) := do
  return spaced (0x60 + i * 0x10) 2 (← between 0 3)

def ownEdges (i : Nat) : Draw (List (List Int32)) := do
  return [spaced (0x0200 + i * 0x20) 1 (← between 1 4)]

/-- Where the players may build: all in the same places, or each in its own. -/
def withPotentials (hasSea perSeat : Bool) (sharedNodes : List Int32) :
    List Player → Draw (List Player)
  | [] => return []
  | p :: players => do
    let nodes ← if perSeat then ownNodes p.number else pure sharedNodes
    let edges ← if hasSea && perSeat then ownEdges p.number else pure p.seaEdges
    let p := { p with potentialNodes := nodes, seaEdges := edges }
    return p :: (← withPotentials hasSea perSeat sharedNodes players)

def withLandAreas (b : Board) (sharedNodes : List Int32) : Draw Board := do
  if b.hasSea then
    if ← chance 50 then
      return { b with
        landAreaCount := 2
        startingLandArea := 1
        landAreaNodes := [[], sharedNodes, [0x0a05, 0x0a07]] }
  return b

def dice (phase : Phase) : Draw Int32 := do
  if phase = .rollOrCard then return 0
  if phase = .placingRobber ∨ phase = .waitingForDiscards then return 7
  number 2 12

/-- The numbers of the occupied seats. -/
def occupied : Nat → List Seat → List Nat
  | _, [] => []
  | i, s :: seats => if s.vacant then occupied (i + 1) seats else i :: occupied (i + 1) seats

def name (seed : UInt64) : String := "sample-" ++ Decimal.text seed.toNat

/-- Draws a game for one seat more than `others`. -/
def drawGame (name : String) (others : Nat) (startTime : Instant) : Draw Game := do
  let maxPlayers := others + 1
  let e ← encoding maxPlayers
  let b ← board e
  let o ← options maxPlayers e.hasSea
  let first ← player 0 e.hasSea
  let rest ← Generator.listFrom (seat e.hasSea) 1 others
  let seats := { player := first, vacant := false } :: rest
  let sharedNodes := spaced 0x40 2 (← between 0 4)
  let players ← withPotentials e.hasSea (← chance 50) sharedNodes (seats.map Seat.player)
  let b ← withLandAreas b sharedNodes
  let phase ← pick phases (by decide)
  let rolled ← dice phase
  let current ← pick (0 :: occupied 1 rest) (by simp)
  return {
    name
    options := some o
    startTime
    currentPlayer := Int32.ofNat current
    phase
    minVersion := e.minVersion
    dice := rolled
    board := b
    players
    vacant := seats.map Seat.vacant }

end Sample

/-- The sample game of a seed. There is none without seats, or with too many. -/
def Game.sample? (seed : UInt64) (maxPlayers : Nat) (startTime : Instant) : Option Game :=
  match maxPlayers with
  | 0 => none
  | others + 1 =>
    if maxSeats ≤ others then none
    else
      some ((Sample.drawGame (Sample.name seed) others startTime).run (Generator.ofSeed seed)).1

end SavedGames
