import SavedGames.Instant
import SavedGames.Snapshot.Check

/-! The catalogue of saved games: a table with one numbered row a save, and the questions that are
asked of it. A whole number belongs into some of its columns, but something else can come to stand
there from outside. -/
namespace SavedGames

namespace Cell

def int32? (c : Cell) (index : Nat) (column : String) : Except CatalogueFault Int32 :=
  match c with
  | integer n =>
    if -0x80000000 ≤ n ∧ n < 0x80000000 then .ok (Int32.ofInt n) else .error (.outOfRange n index)
  | _ => .error (.notInteger c.kind index column)

/-- A time in milliseconds. -/
def time? (c : Cell) (index : Nat) (column : String) : Except CatalogueFault Instant :=
  match c with
  | integer n =>
    match Instant.ofMillis? n with
    | some t => .ok t
    | none => .error (.notTime n)
  | _ => .error (.notInteger c.kind index column)

end Cell

/-- A row as it is kept. -/
structure SavedRow where
  /-- The number that the table gives to the row. -/
  rowid : Nat
  id : String
  name : String
  version : Cell
  phase : Cell
  savedAt : Cell
  text : String
  deriving DecidableEq, Repr

/-- A row as it is listed. -/
structure Listing where
  id : String
  name : String
  version : Int32
  phase : Phase
  savedAt : Instant
  bytes : Nat
  deriving DecidableEq, Repr

namespace SavedRow

def ofSnapshot (rowid : Nat) (id : String) (m : Snapshot) (savedAt : Instant) : SavedRow where
  rowid
  id
  name := m.name
  version := .integer m.version.toInt
  phase := .integer m.phase.code.toInt
  savedAt := .integer savedAt.millis
  text := m.text false

/-- The time is looked at before the other columns. -/
def listing (r : SavedRow) : Except CatalogueFault Listing := do
  let savedAt ← r.savedAt.time? 4 "saved_at"
  let version ← r.version.int32? 2 "model_version"
  let phase ← r.phase.int32? 3 "game_state"
  return ⟨r.id, r.name, version, ⟨phase⟩, savedAt, r.text.utf8ByteSize⟩

inductive Column where
  | id
  | name
  | version
  | phase
  | savedAt
  | text
  deriving DecidableEq, Repr

/-- The row with another value in a column, which is turned into a number or a text as the column
asks for. -/
def set (r : SavedRow) (column : Column) (value : Cell) : SavedRow :=
  match column with
  | .id => { r with id := value.toText }
  | .name => { r with name := value.toText }
  | .version => { r with version := value.asNumber }
  | .phase => { r with phase := value.asNumber }
  | .savedAt => { r with savedAt := value.asNumber }
  | .text => { r with text := value.toText }

/-- Of two rows the one that was saved later comes first. -/
def savedAtDescending (a b : SavedRow) : Bool := b.savedAt.le a.savedAt

/-- Of two rows the one with the greater number comes first. -/
def rowidDescending (a b : SavedRow) : Bool := b.rowid ≤ a.rowid

end SavedRow

/-- A question for the rows that fulfil a condition, in an order, and for so many of them at
most. -/
structure Query where
  condition : SavedRow → Bool := fun _ => true
  /-- Where rows are equal for one comparison, the next one decides. -/
  order : List (SavedRow → SavedRow → Bool) := []
  limit : Option Nat := none

namespace Query

def precedes : List (SavedRow → SavedRow → Bool) → SavedRow → SavedRow → Bool
  | [], _, _ => true
  | le :: order, a, b => le a b && (!le b a || precedes order a b)

def run (q : Query) (rows : List SavedRow) : List SavedRow :=
  let found := (rows.filter q.condition).mergeSort (precedes q.order)
  match q.limit with
  | some n => found.take n
  | none => found

/-- The save under an identifier. -/
def byId (id : String) : Query where
  condition row := row.id = id

/-- The newest save of a game, and of the same time the later inserted one. -/
def latest (name : String) : Query where
  condition row := row.name = name
  order := [SavedRow.savedAtDescending, SavedRow.rowidDescending]
  limit := some 1

/-- Every save, newest first, and of the same time the later inserted first. -/
def newestFirst : Query where
  order := [SavedRow.savedAtDescending, SavedRow.rowidDescending]

end Query

structure Catalogue where
  rows : List SavedRow
  deriving DecidableEq, Repr

namespace Catalogue

def empty : Catalogue := ⟨[]⟩

/-- A number above those that are there. -/
def nextRowid (c : Catalogue) : Nat := (c.rows.map SavedRow.rowid).foldr max 0 + 1

def insert (c : Catalogue) (id : String) (m : Snapshot) (savedAt : Instant) : Catalogue :=
  ⟨c.rows ++ [.ofSnapshot c.nextRowid id m savedAt]⟩

/-- A snapshot is read back and checked. -/
def snapshot? : Option SavedRow → Except SaveError (Option Snapshot)
  | none => .ok none
  | some row => (Snapshot.ofText row.text).map some

def load (c : Catalogue) (id : String) : Except SaveError (Option Snapshot) :=
  snapshot? ((Query.byId id).run c.rows).head?

def latest (c : Catalogue) (name : String) : Except SaveError (Option Snapshot) :=
  snapshot? ((Query.latest name).run c.rows).head?

def listings : List SavedRow → Except CatalogueFault (List Listing)
  | [] => .ok []
  | row :: rows => do
    let first ← row.listing
    let rest ← listings rows
    return first :: rest

def list (c : Catalogue) : Except SaveError (List Listing) :=
  (listings (Query.newestFirst.run c.rows)).mapError .catalogue

/-- Whether there was such a row, and the catalogue without it. -/
def delete (c : Catalogue) (id : String) : Bool × Catalogue :=
  (c.rows.any fun row => row.id = id, ⟨c.rows.filter fun row => row.id ≠ id⟩)

/-- Changes a column of a row from outside, and gives the number of rows changed. -/
def setCell (c : Catalogue) (id : String) (column : SavedRow.Column) (value : Cell) :
    Nat × Catalogue :=
  (c.rows.countP fun row => row.id = id,
    ⟨c.rows.map fun row => if row.id = id then row.set column value else row⟩)

end Catalogue

/-- A place for a catalogue. There is none until the table has been made. -/
structure Store where
  table : Option Catalogue := none
  deriving DecidableEq, Repr

namespace Store

/-- Makes the table; one that exists stays. -/
def migrate (s : Store) : Store := ⟨some (s.table.getD .empty)⟩

def catalogue (s : Store) : Except SaveError Catalogue :=
  match s.table with
  | some c => .ok c
  | none => .error (.catalogue .notMigrated)

end Store
end SavedGames
