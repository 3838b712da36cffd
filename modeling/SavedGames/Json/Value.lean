/-! A JSON value to be written. Numbers are whole, and the members of an object keep their order. -/
namespace SavedGames

inductive Json where
  | null
  | bool (b : Bool)
  | int (n : Int)
  | str (s : String)
  | arr (items : List Json)
  | obj (members : List (String × Json))
  deriving Repr

namespace Json

def int32 (n : Int32) : Json := .int n.toInt

def natural (n : Nat) : Json := .int n

def int32s (ns : List Int32) : Json := .arr (ns.map int32)

def optional (write : α → Json) : Option α → Json
  | none => .null
  | some a => write a

/-- A member that is left out when there is nothing to write. -/
def memberIf (present : Bool) (name : String) (value : Json) : List (String × Json) :=
  if present then [(name, value)] else []

end Json
end SavedGames
