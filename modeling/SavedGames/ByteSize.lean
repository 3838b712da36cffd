import SavedGames.Binary64
import SavedGames.Text.Decimal

/-! Sizes for people: in MB, or in GB from one GB on, with three significant digits below a hundred
units and whole units from there on. The byte count is a double before it is divided. -/
namespace SavedGames

/-- A size in a unit, as a fraction, to be written with some decimals. -/
structure ByteSize where
  numerator : Nat
  denominator : Nat
  unit : String
  deriving DecidableEq, Repr

namespace ByteSize

def megabyte : Nat := twoTo 20

def gigabyte : Nat := twoTo 30

/-- The count as a double. Counts of 64 bits are far below the largest double. -/
def rounded (bytes : Nat) : Nat :=
  match Binary64.nearest bytes 1 with
  | some x => x.numerator / x.denominator
  | none => bytes

def ofBytes (bytes : Nat) : ByteSize :=
  let n := rounded bytes
  if gigabyte ≤ n then ⟨n, gigabyte, "GB"⟩ else ⟨n, megabyte, "MB"⟩

/-- The number of zeros between the point and the first digit of a size below one, and one more. -/
def leadingPlace (s : ByteSize) : Nat → Nat → Nat
  | 0, place => place
  | fuel + 1, place =>
    if s.denominator ≤ s.numerator * tenTo place then place else leadingPlace s fuel (place + 1)

def atLeast (s : ByteSize) (n : Nat) : Bool := n * s.denominator ≤ s.numerator

def decimals (s : ByteSize) : Nat :=
  if s.numerator = 0 then 2
  else if s.atLeast 100 then 0
  else if s.atLeast 10 then 1
  else if s.atLeast 1 then 2
  else 2 + s.leadingPlace s.denominator 1

/-- `n` hundredths, thousandths and so on, written with a point before the last `places` digits. -/
def pointed (places n : Nat) : List Char :=
  let ds := Decimal.padded (places + 1) n
  if places = 0 then ds else ds.take (ds.length - places) ++ '.' :: ds.drop (ds.length - places)

/-- The size in units of its last decimal, a half to the even neighbour. -/
def scaled (s : ByteSize) : Nat := roundHalfEven (s.numerator * tenTo s.decimals) s.denominator

def text (s : ByteSize) : String :=
  String.ofList (pointed s.decimals s.scaled ++ ' ' :: s.unit.toList)

inductive Fault where
  | negative (bytes : Int)
  deriving DecidableEq, Repr

def Fault.message : Fault → String
  | negative bytes =>
    "byte count can't be negative: " ++ String.ofList (Decimal.write bytes)

/-- A byte count as people read it. -/
def describe (bytes : Int) : Except Fault String :=
  if bytes < 0 then .error (.negative bytes) else .ok (ofBytes bytes.toNat).text

end ByteSize
end SavedGames
