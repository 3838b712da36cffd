import SavedGames.Json.Reader
import SavedGames.Json.Value

/-! Seats are numbered from zero. A record of a save speaks of one seat or of all of them. -/
namespace SavedGames

abbrev SeatNumber := UInt64

def seatNumberJson (seat : SeatNumber) : Json := Json.natural seat.toNat

def seatText (seat : Nat) : String := Decimal.text seat

inductive SeatScope where
  | every
  | only (seat : SeatNumber)
  deriving DecidableEq, Repr

namespace SeatScope

/-- The code of all seats is `-1`, that of one seat its number cut to 32 bits. -/
def code : SeatScope → Int32
  | every => -1
  | only seat => seat.toUInt32.toInt32

def ofCode (code : Int32) : Except String SeatScope :=
  if code = -1 then .ok every
  else if 0 ≤ code then .ok (only (UInt64.ofNat code.toInt.toNat))
  else .error ("invalid seat selector " ++ Decimal.text code.toInt)

def read : Json.Reader SeatScope := Json.Reader.int32.refine ofCode

def json (s : SeatScope) : Json := Json.int32 s.code

end SeatScope
end SavedGames
