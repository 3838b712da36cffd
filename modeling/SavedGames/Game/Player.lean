import SavedGames.Counter
import SavedGames.Session

/-! A seat's player in a running game: resources, stock, hand and pieces. Resources and stock are
counters: there is no change of them that does not fit. -/
namespace SavedGames

structure Resources where
  clay : Int32 := 0
  ore : Int32 := 0
  sheep : Int32 := 0
  wheat : Int32 := 0
  wood : Int32 := 0
  unknown : Int32 := 0
  deriving DecidableEq, Repr

namespace Resources

def amount (rs : Resources) : Resource → Int32
  | .clay => rs.clay
  | .ore => rs.ore
  | .sheep => rs.sheep
  | .wheat => rs.wheat
  | .wood => rs.wood
  | .unknown => rs.unknown

def set (rs : Resources) (r : Resource) (n : Int32) : Resources :=
  match r with
  | .clay => { rs with clay := n }
  | .ore => { rs with ore := n }
  | .sheep => { rs with sheep := n }
  | .wheat => { rs with wheat := n }
  | .wood => { rs with wood := n }
  | .unknown => { rs with unknown := n }

def add? (rs : Resources) (r : Resource) (n : Int32) : Option Resources :=
  (Counter.sum? (rs.amount r) n).map (rs.set r)

def total? (rs : Resources) : Option Int32 := Counter.total? (Resource.all.map rs.amount)

end Resources

/-- Pieces that a player can still build. -/
structure Stock where
  roads : Int32
  settlements : Int32
  cities : Int32
  ships : Int32
  deriving DecidableEq, Repr

namespace Stock

/-- There are ships only on a board with a sea. -/
def full (hasSea : Bool) : Stock := ⟨15, 5, 4, if hasSea then 15 else 0⟩

def count (s : Stock) : PieceKind → Int32
  | .road => s.roads
  | .settlement => s.settlements
  | .city => s.cities
  | .ship => s.ships
  | .fortress | .village => 0

/-- Kinds that nobody builds are not counted. -/
def set (s : Stock) (kind : PieceKind) (n : Int32) : Stock :=
  match kind with
  | .road => { s with roads := n }
  | .settlement => { s with settlements := n }
  | .city => { s with cities := n }
  | .ship => { s with ships := n }
  | .fortress | .village => s

/-- The stock with so many more pieces of a kind. -/
def add? (s : Stock) (kind : PieceKind) (n : Int32) : Option Stock :=
  (Counter.sum? (s.count kind) n).map (s.set kind)

end Stock

/-- The items of a player, in the order in which they came. -/
structure Hand where
  new : List Item := []
  playable : List Item := []
  kept : List Item := []
  deriving DecidableEq, Repr

namespace Hand

def items (h : Hand) : Holding → List Item
  | .new => h.new
  | .playable => h.playable
  | .kept => h.kept

def add (h : Hand) (item : Item) : Holding → Hand
  | .new => { h with new := h.new ++ [item] }
  | .playable => { h with playable := h.playable ++ [item] }
  | .kept => { h with kept := h.kept ++ [item] }

def size (h : Hand) : Nat := h.new.length + h.playable.length + h.kept.length

end Hand

structure Player where
  /-- The number of the seat. -/
  number : Nat
  name : Option String := none
  totalVp : Int32 := 0
  isRobot : Bool := false
  isBuiltInRobot : Bool := false
  robotClass : Option String := none
  faceId : Int32 := defaultFace
  resources : Resources := {}
  knights : Int32 := 0
  stock : Stock
  warships : Int32 := 0
  hand : Hand := {}
  pieces : List Piece := []
  fortress : Option Piece := none
  potentialNodes : List Int32 := []
  /-- Edges for ships, by coastline. -/
  seaEdges : List (List Int32) := []
  deriving DecidableEq, Repr

namespace Player

/-- A player with a full stock and nothing else. -/
def fresh (number : Nat) (hasSea : Bool) : Player := { number, stock := Stock.full hasSea }

/-- Takes the first settlement at a node off the board, and puts it back into stock. -/
def removeSettlement? (p : Player) (coord : Int32) : Option Player :=
  match p.pieces.findIdx? fun q => q.kind == .settlement && q.coord == coord with
  | some i =>
    (p.stock.add? .settlement 1).map fun stock =>
      { p with pieces := p.pieces.eraseIdx i, stock }
  | none => some p

/-- Places a piece from stock. A city replaces the settlement at its node. -/
def place? (p : Player) (piece : Piece) : Option Player := do
  let p ← if piece.kind = .city then p.removeSettlement? piece.coord else some p
  let stock ← p.stock.add? piece.kind (-1)
  return { p with pieces := p.pieces ++ [piece], stock }

/-- Places a piece where the stock can be counted, and nothing otherwise. -/
def place (p : Player) (piece : Piece) : Player := (p.place? piece).getD p

def hold (p : Player) (item : Item) (holding : Holding) : Player :=
  { p with hand := p.hand.add item holding }

def view (p : Player) : SeatView where
  name := p.name
  totalVp := p.totalVp
  isRobot := p.isRobot
  isBuiltInRobot := p.isBuiltInRobot
  robotClass := p.robotClass
  faceId := p.faceId
  resource := p.resources.amount
  knights := p.knights
  stock := p.stock.count
  warships := p.warships
  items := p.hand.items
  pieces := p.pieces
  fortress := p.fortress

end Player
end SavedGames
