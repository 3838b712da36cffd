import SavedGames.Game

/-! Resuming a game that was built from a snapshot. The constraints of the snapshot, and further
demands of the caller, are looked at in order; if all hold, the saved phase comes back and nothing
else changes. -/
namespace SavedGames

/-- A named condition on a session. The reason says why it does not hold. -/
structure Demand where
  name : String
  check : Session → Except String Unit

namespace Constraint

/-- Why a seat does not meet a constraint. -/
inductive Unmet where
  | noSeat (seat : SeatNumber) (maxPlayers : Nat)
  | noPlayer (seat : SeatNumber)
  | nobody (seat : SeatNumber)
  | mismatch (seat : SeatNumber)
  deriving DecidableEq, Repr

def Unmet.message : Unmet → String
  | noSeat seat maxPlayers =>
    "seat " ++ seatText seat.toNat ++ " does not exist (max players: " ++
      Decimal.text maxPlayers ++ ")"
  | noPlayer seat => "seat " ++ seatText seat.toNat ++ " has no player"
  | nobody seat => "seat " ++ seatText seat.toNat ++ " is vacant"
  | mismatch seat => "seat " ++ seatText seat.toNat ++ " occupant does not match"

/-- Who sits in a seat; nobody in a vacant one. -/
def occupant (s : Session) (seat : SeatNumber) : Except Unmet (Option SeatView) :=
  if s.maxPlayers ≤ seat.toNat then .error (.noSeat seat s.maxPlayers)
  else if s.isVacant seat.toNat then .ok none
  else
    match s.seat? seat.toNat with
    | some view => .ok (some view)
    | none => .error (.noPlayer seat)

/-- The occupant is of the kind that the constraint asks for. -/
def admits (v : SeatView) : Constraint → Bool
  | vacant _ => false
  | human _ => !v.isRobot
  | robot _ => v.isRobot
  | builtInRobot _ => v.isBuiltInRobot
  | robotClass _ name => v.robotClass == some name

def isVacancy : Constraint → Bool
  | vacant _ => true
  | _ => false

def check (c : Constraint) (s : Session) : Except Unmet Unit := do
  match ← occupant s c.seat with
  | none => if c.isVacancy then .ok () else .error (.nobody c.seat)
  | some view => if c.admits view then .ok () else .error (.mismatch c.seat)

def demand (c : Constraint) : Demand where
  name := c.name
  check s := (c.check s).mapError Unmet.message

end Constraint

/-- The first demand that does not hold is reported. -/
def checkDemands (s : Session) : List Demand → Except SaveError Unit
  | [] => .ok ()
  | d :: ds =>
    match d.check s with
    | .ok () => checkDemands s ds
    | .error reason => .error (.unmetConstraint d.name reason)

namespace Snapshot

/-- Brings a game back into its saved phase. The constraints may be passed over, the waiting phase
may not. -/
def resume (m : Snapshot) (ignoreConstraints : Bool) (extra : List Demand) :
    Change Game SaveError Unit := do
  let g ← get
  if g.phase ≠ .loading then throw (.notLoading g.phase)
  if !ignoreConstraints then
    checkDemands g.session (m.constraints.map Constraint.demand ++ extra)
  modify fun g => { g with phase := m.phase }

end Snapshot
end SavedGames
