/-! Days of the Gregorian calendar, also before its introduction, counted from the start of 1970.
A year is taken to begin in March, so that a leap day is its last. -/
namespace SavedGames

structure Day where
  year : Int
  month : Nat
  day : Nat
  deriving DecidableEq, Repr

namespace Day

def isLeapYear (year : Int) : Bool := year % 4 == 0 && (year % 100 != 0 || year % 400 == 0)

def monthLength (year : Int) (month : Nat) : Nat :=
  match month with
  | 2 => if isLeapYear year then 29 else 28
  | 4 | 6 | 9 | 11 => 30
  | _ => 31

/-- Days in 400 years. -/
def cycle : Int := 146097

/-- Days from the start of March of the year 0 to the start of 1970. -/
def marchToEpoch : Int := 719468

def number (d : Day) : Int :=
  let year := if d.month ≤ 2 then d.year - 1 else d.year
  let month := (d.month + 9) % 12
  let inCycle := year % 400
  let dayOfYear := (153 * month + 2) / 5 + d.day - 1
  year / 400 * cycle + inCycle * 365 + inCycle / 4 - inCycle / 100 + dayOfYear - marchToEpoch

def ofNumber (n : Int) : Day :=
  let n := n + marchToEpoch
  let inCycle := n % cycle
  let yearOfCycle := (inCycle - inCycle / 1460 + inCycle / 36524 - inCycle / 146096) / 365
  let dayOfYear := (inCycle - (365 * yearOfCycle + yearOfCycle / 4 - yearOfCycle / 100)).toNat
  let month := (5 * dayOfYear + 2) / 153
  let day := dayOfYear - (153 * month + 2) / 5 + 1
  let year := n / cycle * 400 + yearOfCycle
  if month < 10 then ⟨year, month + 3, day⟩ else ⟨year + 1, month - 9, day⟩

end Day
end SavedGames
