import SavedGames.SaveError

/-! What a snapshot must fulfil before a game is built from it. The conditions are looked at in a
fixed order, and the first one that does not hold is reported. -/
namespace SavedGames.Snapshot

def require (condition : Prop) [Decidable condition] (fault : SaveError) : Except SaveError Unit :=
  if condition then .ok () else .error fault

def isBlankName (name : String) : Bool := (Text.trim name.toList).isEmpty

/-- The number of seats as it is compared with the current player: cut to 32 bits. -/
def seatLimit (m : Snapshot) : Int32 := Int32.ofNat m.seats.length

def checkPotentials (seats : Nat) : List Potentials → Except SaveError Unit
  | [] => .ok ()
  | record :: records =>
    match record.scope with
    | .only seat =>
      if seats ≤ seat.toNat then .error (.invalid (.potentialsWithoutSeat seat seats))
      else checkPotentials seats records
    | .every => checkPotentials seats records

def misowned? (seat : Nat) (record : SeatRecord) : Option Piece :=
  record.owned.find? fun piece => piece.owner.toNat ≠ seat

def checkSeats : Nat → List SeatRecord → Except SaveError Unit
  | _, [] => .ok ()
  | seat, record :: records =>
    if record.vacant ∧ record.hasPlay then .error (.invalid (.vacantSeatInPlay seat))
    else
      match misowned? seat record with
      | some piece => .error (.invalid (.misownedPiece seat piece))
      | none => checkSeats (seat + 1) records

/-- Looks at the turn and the names first, then at the potentials, then at each seat. -/
def check (m : Snapshot) : Except SaveError Unit := do
  require (m.version = modelVersion) (.incompatibleVersion m.version)
  require (m.minVersion ≤ engineVersion) (.engineTooOld m.minVersion)
  require (!isBlankName m.name) (.invalid .emptyName)
  require (m.seats ≠ []) (.invalid .noSeats)
  require (-1 ≤ m.currentPlayer ∧ m.currentPlayer < m.seatLimit)
    (.invalid (.currentPlayerOutOfRange m.currentPlayer m.seats.length))
  require m.phase.isSavable (.invalid (.phaseNotResumable m.phase))
  require (0 ≤ m.duration) (.invalid .negativeDuration)
  checkPotentials m.seats.length m.board.potentials
  checkSeats 0 m.seats

/-- The snapshot that a text holds, whatever is in it. -/
def decode (text : String) : Except SaveError Snapshot :=
  (Json.decode read text).mapError .serialization

/-- The snapshot that a text holds, if a game can be built from it. -/
def ofText (text : String) : Except SaveError Snapshot := do
  let m ← decode text
  m.check
  return m

end SavedGames.Snapshot
