import SavedGames.Json.Reader
import SavedGames.Json.Value

/-! The phase of a game, by its code. Codes without a name occur too: they keep their number. -/
namespace SavedGames

structure Phase where
  code : Int32
  deriving DecidableEq, Repr

namespace Phase

/-- Every named phase, with its name. -/
def names : List (Int32 × String) :=
  [(0, "new"), (1, "ready"), (5, "start1a"), (6, "start1b"), (10, "start2a"), (11, "start2b"),
    (12, "start3a"), (13, "start3b"), (15, "roll_or_card"), (20, "play1"), (30, "placing_road"),
    (31, "placing_settlement"), (32, "placing_city"), (33, "placing_robber"),
    (34, "placing_pirate"), (35, "placing_ship"), (40, "placing_free_road1"),
    (41, "placing_free_road2"), (42, "placing_inv_item"), (50, "waiting_for_discards"),
    (51, "waiting_for_rob_choose_player"), (52, "waiting_for_discovery"),
    (53, "waiting_for_monopoly"), (54, "waiting_for_robber_or_pirate"),
    (55, "waiting_for_rob_cloth_or_resource"), (56, "waiting_for_pick_gold_resource"),
    (100, "special_building"), (990, "loading"), (992, "loading_resuming"), (1000, "over")]

def beginning : Phase := ⟨0⟩

/-- The first phase after the initial placement. -/
def rollOrCard : Phase := ⟨15⟩

def play : Phase := ⟨20⟩

def placingRobber : Phase := ⟨33⟩

def waitingForDiscards : Phase := ⟨50⟩

/-- A game built from a save waits in this phase until it is resumed. -/
def loading : Phase := ⟨990⟩

def loadingResuming : Phase := ⟨992⟩

def isLoading (p : Phase) : Bool := p == loading || p == loadingResuming

/-- The initial placement is over, and the game does not wait to be resumed. -/
def isSavable (p : Phase) : Bool := rollOrCard.code ≤ p.code && !p.isLoading

def name? (p : Phase) : Option String := names.lookup p.code

/-- The name with the code behind it, or the code alone. -/
def text (p : Phase) : String :=
  let code := Decimal.text p.code.toInt
  match p.name? with
  | some name => name ++ " (" ++ code ++ ")"
  | none => code

def read : Json.Reader Phase := Json.Reader.int32.map Phase.mk

def json (p : Phase) : Json := Json.int32 p.code

end Phase
end SavedGames
