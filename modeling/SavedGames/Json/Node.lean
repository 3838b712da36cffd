import SavedGames.Json.Numeral

/-! What a reader of a JSON text meets, from left to right. A fault in the text stands in the tree
at its place, and nothing follows it, so that whoever reads the tree in order meets the faults of
the text and its own objections in the order of the text. -/
namespace SavedGames.Json

/-- A text or key whose escapes do not form characters is `none`. -/
inductive Node where
  | broken
  | null
  | bool (b : Bool)
  | num (n : Numeral)
  | str (s : Option String)
  | arr (items : List Node) (closed : Bool)
  | obj (members : List (Option String × Node)) (closed : Bool)
  deriving Repr

namespace Node

mutual

/-- The text of the tree follows the grammar, whatever its values stand for. -/
def isSound : Node → Bool
  | broken => false
  | arr items closed => areSound items && closed
  | obj members closed => membersSound members && closed
  | _ => true
termination_by structural node => node

def areSound : List Node → Bool
  | [] => true
  | item :: items => item.isSound && areSound items
termination_by structural items => items

def membersSound : List (Option String × Node) → Bool
  | [] => true
  | (_, value) :: members => value.isSound && membersSound members
termination_by structural members => members

end

mutual

/-- The tree can be kept whole: its numbers and texts have values, and it opens at most `room`
containers inside each other. -/
def isKeepable (room : Nat) : Node → Bool
  | broken => false
  | null => true
  | bool _ => true
  | num n => n.value?.isSome
  | str s => s.isSome
  | arr items closed => 0 < room && areKeepable (room - 1) items && closed
  | obj members closed => 0 < room && membersKeepable (room - 1) members && closed
termination_by structural node => node

def areKeepable (room : Nat) : List Node → Bool
  | [] => true
  | item :: items => item.isKeepable room && areKeepable room items
termination_by structural items => items

def membersKeepable (room : Nat) : List (Option String × Node) → Bool
  | [] => true
  | (key, value) :: members =>
    key.isSome && value.isKeepable room && membersKeepable room members
termination_by structural members => members

end

end Node
end SavedGames.Json
