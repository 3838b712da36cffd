import SavedGames.Json.Choice
import SavedGames.Json.Value

/-! Development cards and the other items of a player's hand. -/
namespace SavedGames

inductive Card where
  /-- A card whose kind other players cannot see. -/
  | unknown
  | roads
  | discovery
  | monopoly
  | capitol
  | market
  | university
  | temple
  | chapel
  | knight
  deriving DecidableEq, Repr

namespace Card

def code : Card → Int32
  | unknown => 0
  | roads => 1
  | discovery => 2
  | monopoly => 3
  | capitol => 4
  | market => 5
  | university => 6
  | temple => 7
  | chapel => 8
  | knight => 9

def name : Card → String
  | unknown => "Unknown"
  | roads => "Roads"
  | discovery => "Discovery"
  | monopoly => "Monopoly"
  | capitol => "Capitol"
  | market => "Market"
  | university => "University"
  | temple => "Temple"
  | chapel => "Chapel"
  | knight => "Knight"

/-- A card that is worth a victory point is kept to the end of the game and never played. -/
def isVictoryPoint : Card → Bool
  | capitol | market | university | temple | chapel => true
  | _ => false

def ofCode? (code : Int32) : Option Card :=
  match code with
  | 0 => some unknown
  | 1 => some roads
  | 2 => some discovery
  | 3 => some monopoly
  | 4 => some capitol
  | 5 => some market
  | 6 => some university
  | 7 => some temple
  | 8 => some chapel
  | 9 => some knight
  | _ => none

def ofCode (code : Int32) : Except String Card :=
  match ofCode? code with
  | some card => .ok card
  | none => .error ("unknown dev card type " ++ Decimal.text code.toInt)

def read : Json.Reader Card := Json.Reader.int32.refine ofCode

def json (c : Card) : Json := Json.int32 c.code

end Card

/-- Where an item is between its receipt and the end of the game. -/
inductive Holding where
  /-- Received this turn and not yet playable. -/
  | new
  | playable
  | kept
  deriving DecidableEq, Repr

namespace Holding

def all : List Holding := [new, playable, kept]

def code : Holding → Int32
  | new => 1
  | playable => 2
  | kept => 3

def key : Holding → String
  | new => "new"
  | playable => "playable"
  | kept => "kept"

def read : Json.Reader Holding := Json.choice (all.map fun h => .plain h.key h)

def json (h : Holding) : Json := .str h.key

end Holding

inductive Item where
  | card (card : Card)
  /-- An item of a scenario, such as a harbor still to be placed. -/
  | special (type : Int32)
  deriving DecidableEq, Repr

namespace Item

def code : Item → Int32
  | card c => c.code
  | special type => type

def read : Json.Reader Item :=
  Json.tagged "ItemKind"
    [.withFields "dev_card" "ItemKind::DevCard" (.cons (.required "card" Card.read) .nil)
        fun (c, ()) => card c,
      .withFields "special" "ItemKind::Special" (.cons (.required "item_type" .int32) .nil)
        fun (type, ()) => special type]

def json : Item → Json
  | card c => .obj [("kind", .str "dev_card"), ("card", c.json)]
  | special type => .obj [("kind", .str "special"), ("item_type", .int32 type)]

end Item

structure HeldItem where
  item : Item
  holding : Holding
  deriving DecidableEq, Repr

namespace HeldItem

def read : Json.Reader HeldItem :=
  Json.record "InventoryItem"
    (.cons (.required "kind" Item.read) <| .cons (.required "state" Holding.read) .nil)
    fun (item, holding, ()) => ⟨item, holding⟩

def json (h : HeldItem) : Json := .obj [("kind", h.item.json), ("state", h.holding.json)]

end HeldItem
end SavedGames
