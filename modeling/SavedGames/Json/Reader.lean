import SavedGames.Json.Fault
import SavedGames.Json.Document
import SavedGames.TextMap

/-! Readers of JSON values. A reader is told how many containers may still be opened inside each
other, and refuses the one that goes beyond. -/
namespace SavedGames.Json

abbrev Reader (α : Type) := Nat → Node → Except Fault α

/-- How many containers may be open at once. -/
def maxDepth : Nat := 127

/-- The tree is read before anyone looks at what follows it. -/
def Document.read (read : Reader α) (document : Document) : Except Fault α := do
  let a ← read maxDepth document.root
  if document.ended then .ok a else .error .malformed

def decode (read : Reader α) (text : String) : Except Fault α := (Document.ofText text).read read

namespace Reader

/-- A whole number from `low` on and below `high`. -/
def within (low high : Int) (expected : Expected) : Reader Int := fun _ node =>
  match node with
  | .num n =>
    match n.value? with
    | some (.integer i) =>
      if low ≤ i ∧ i < high then .ok i else .error (.unfit (.outOfRange i expected))
    | _ => .error (node.mismatch expected)
  | _ => .error (node.mismatch expected)

def map (f : α → β) (read : Reader α) : Reader β := fun room node => (read room node).map f

/-- A value that is read first and then accepted or refused for a reason of its own. -/
def refine (f : α → Except String β) (read : Reader α) : Reader β := fun room node => do
  let a ← read room node
  match f a with
  | .ok b => .ok b
  | .error reason => .error (.unfit (.rejected reason))

def int32 : Reader Int32 := map Int32.ofInt (within (-0x80000000) 0x80000000 .int32)

def uint64 : Reader UInt64 :=
  map (fun n => UInt64.ofNat n.toNat) (within 0 0x10000000000000000 .unsigned)

def bool : Reader Bool := fun _ node =>
  match node with
  | .bool b => .ok b
  | _ => .error (node.mismatch .boolean)

def text : Reader String := fun _ node =>
  match node with
  | .str (some s) => .ok s
  | _ => .error (node.mismatch .text)

def optional (read : Reader α) : Reader (Option α) := fun room node =>
  match node with
  | .null => .ok none
  | _ => (read room node).map some

def all (read : Node → Except Fault α) : List Node → Except Fault (List α)
  | [] => .ok []
  | item :: items => do
    let a ← read item
    let as ← all read items
    return a :: as

def list (read : Reader α) : Reader (List α) := fun room node =>
  match node with
  | .arr items closed =>
    match room with
    | 0 => .error .malformed
    | room + 1 => do
      let as ← all (read room) items
      if closed then .ok as else .error .malformed
  | _ => .error (node.mismatch .sequence)

/-- Each entry replaces an earlier one with the same key. -/
def entries (read : Node → Except Fault α) :
    TextMap α → List (Option String × Node) → Except Fault (TextMap α)
  | found, [] => .ok found
  | _, (none, _) :: _ => .error .malformed
  | found, (some key, value) :: members => do
    let a ← read value
    entries read (found.insert key a) members

def table (read : Reader α) : Reader (TextMap α) := fun room node =>
  match node with
  | .obj members closed =>
    match room with
    | 0 => .error .malformed
    | room + 1 => do
      let found ← entries (read room) .empty members
      if closed then .ok found else .error .malformed
  | _ => .error (node.mismatch .map)

end Reader
end SavedGames.Json
