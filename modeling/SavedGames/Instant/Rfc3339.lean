import SavedGames.Instant
import SavedGames.Instant.Calendar
import SavedGames.Json.Record
import SavedGames.Json.Value
import SavedGames.Text.Blank

/-! Instants as text, in the form of RFC 3339. Reading is lenient: a number may have fewer digits
than its place asks for, blanks may stand around the parts of date and time, and a leap second is
taken. Writing gives the time at Greenwich with as many digits of a second as it needs. -/
namespace SavedGames

inductive TimeFault where
  | outOfRange
  | impossible
  | invalid
  | tooShort
  | tooLong
  deriving DecidableEq, Repr

def TimeFault.message : TimeFault → String
  | outOfRange => "input is out of range"
  | impossible => "no possible date and time matching input"
  | invalid => "input contains invalid characters"
  | tooShort => "premature end of input"
  | tooLong => "trailing input"

namespace Instant

abbrev Scan (α : Type) := List Char → Except TimeFault (α × List Char)

def limit : Nat := twoTo 63

/-- A number of one to `width` digits. -/
def scanNumber (width : Nat) : Scan Nat := fun cs =>
  let ds := (cs.take width).takeWhile Char.isDigit
  if cs = [] then .error .tooShort
  else if ds = [] then .error .invalid
  else
    let n := Nat.ofDigitChars 10 ds 0
    if limit ≤ n then .error .outOfRange else .ok (n, cs.drop ds.length)

/-- A number that stands in the given bounds. -/
def scanPart (low high : Nat) : Scan Nat := fun cs => do
  let (n, rest) ← scanNumber 2 (Text.trimStart cs)
  if low ≤ n ∧ n ≤ high then .ok (n, rest) else .error .outOfRange

/-- Four digits at most, or a sign and any number of digits. -/
def scanYear : Scan Int := fun cs => do
  let (year, rest) ← match Text.trimStart cs with
    | '-' :: cs => (scanNumber cs.length cs).map fun (n, rest) => (-(n : Int), rest)
    | '+' :: cs => (scanNumber cs.length cs).map fun (n, rest) => ((n : Int), rest)
    | cs => (scanNumber 4 cs).map fun (n, rest) => ((n : Int), rest)
  if -0x80000000 ≤ year ∧ year < 0x80000000 then .ok (year, rest) else .error .outOfRange

def scanMark (mark : Char) (cs : List Char) : Except TimeFault (List Char) :=
  match Text.trimStart cs with
  | [] => .error .tooShort
  | c :: rest => if c = mark then .ok rest else .error .invalid

def scanDate : Scan (Int × Nat × Nat) := fun cs => do
  let (year, cs) ← scanYear cs
  let (month, cs) ← scanPart 1 12 (← scanMark '-' cs)
  let (day, cs) ← scanPart 1 31 (← scanMark '-' cs)
  return ((year, month, day), cs)

/-- Digits of a second: nine count, and more are passed over. -/
def scanNano : Scan Nat
  | '.' :: cs => do
    let (n, rest) ← scanNumber 9 cs
    let width := cs.length - rest.length
    return (n * tenTo (9 - width), rest.dropWhile Char.isDigit)
  | cs => .ok (0, cs)

def scanTime : Scan (Nat × Nat × Nat × Nat) := fun cs => do
  let (hour, cs) ← scanPart 0 23 cs
  let (minute, cs) ← scanPart 0 59 (← scanMark ':' cs)
  let (second, cs) ← scanPart 0 60 (← scanMark ':' cs)
  let (nano, cs) ← scanNano cs
  return ((hour, minute, second, nano), cs)

def scanDayMark : List Char → Except TimeFault (List Char)
  | [] => .error .tooShort
  | c :: cs => if c = 'T' ∨ c = 't' ∨ c = ' ' then .ok cs else .error .invalid

/-- Two digits, the first of them at most `top`. -/
def scanTwoDigits (top : Char) : Scan Nat
  | a :: b :: cs =>
    if a.isDigit ∧ b.isDigit then
      if a ≤ top then .ok (Nat.ofDigitChars 10 [a, b] 0, cs) else .error .outOfRange
    else .error .invalid
  | [a] => .error (if a.toNat < 0x80 then .tooShort else .invalid)
  | [] => .error .tooShort

def isOffsetMark (c : Char) : Bool := c == ':' || Text.isBlank c

def scanOffsetSize : Scan Int := fun cs => do
  let (hours, cs) ← scanTwoDigits '9' cs
  let (minutes, cs) ← scanTwoDigits '5' (cs.dropWhile isOffsetMark)
  return ((hours * 3600 + minutes * 60 : Nat), cs)

/-- Seconds east of Greenwich. The minus sign may be a hyphen or the mathematical sign. -/
def scanOffset : Scan Int
  | [] => .error .tooShort
  | 'Z' :: cs | 'z' :: cs => .ok (0, cs)
  | '+' :: cs => scanOffsetSize cs
  | '-' :: cs | '\u2212' :: cs => (scanOffsetSize cs).map fun (n, rest) => (-n, rest)
  | u :: t :: c :: cs =>
    if u.toUpper = 'U' ∧ t.toUpper = 'T' ∧ c.toUpper = 'C' then .ok (0, cs) else .error .invalid
  | _ => .error .invalid

/-- The date and the offset are looked at after the whole text. -/
def ofParts (date : Int × Nat × Nat) (time : Nat × Nat × Nat × Nat) (offset : Int) :
    Except TimeFault Instant :=
  let (year, month, day) := date
  let (hour, minute, second, nano) := time
  let leap := second = 60
  let d : Day := ⟨year, month, day⟩
  if Day.monthLength year month < day then .error .outOfRange
  else
    let inDay := hour * 3600 + minute * 60 + (if leap then 59 else second)
    let nano := if leap then nanosPerSecond + nano else nano
    let shown := d.number * secondsPerDay + inDay
    if (ofSecond? shown nano).isNone then .error .outOfRange
    else if secondsPerDay ≤ offset.natAbs then .error .outOfRange
    else
      match ofSecond? (shown - offset) nano with
      | some t => .ok t
      | none => .error .impossible

def parse (text : String) : Except TimeFault Instant := do
  let (date, cs) ← scanDate text.toList
  let (time, cs) ← scanTime (← scanDayMark cs)
  let (offset, cs) ← scanOffset (Text.trimStart cs)
  if Text.trimStart cs = [] then ofParts date time offset else .error .tooLong

def yearChars (year : Int) : List Char :=
  if 0 ≤ year ∧ year ≤ 9999 then Decimal.padded 4 year.toNat
  else (if year < 0 then '-' else '+') :: Decimal.padded 4 year.natAbs

/-- No digits, three, six or nine. -/
def fractionChars (nano : Nat) : List Char :=
  if nano = 0 then []
  else if nano % 1000000 = 0 then '.' :: Decimal.padded 3 (nano / 1000000)
  else if nano % 1000 = 0 then '.' :: Decimal.padded 6 (nano / 1000)
  else '.' :: Decimal.padded 9 nano

def dateChars (t : Instant) : List Char :=
  let d := Day.ofNumber (t.second / secondsPerDay)
  yearChars d.year ++ '-' :: Decimal.padded 2 d.month ++ '-' :: Decimal.padded 2 d.day

def timeChars (t : Instant) : List Char :=
  let leap := t.nano / nanosPerSecond
  let inDay := (t.second % secondsPerDay).toNat
  Decimal.padded 2 (inDay / 3600) ++ ':' :: Decimal.padded 2 (inDay / 60 % 60) ++
    ':' :: Decimal.padded 2 (inDay % 60 + leap)

def text (t : Instant) : String :=
  String.ofList <|
    t.dateChars ++ 'T' :: t.timeChars ++ fractionChars (t.nano % nanosPerSecond) ++ ['Z']

def read : Json.Reader Instant := fun room node =>
  match Json.Reader.text room node with
  | .ok s =>
    match parse s with
    | .ok t => .ok t
    | .error fault => .error (.unfit (.rejected fault.message))
  | .error _ => .error (node.mismatch .dateTime)

/-- A clock that stands still. -/
def readPinned : Json.Reader Instant :=
  Json.record "FixedClock" (.cons (.required "at" read) .nil) fun (at_, ()) => at_

def pinnedJson (t : Instant) : Json := .obj [("at", .str t.text)]

end Instant
end SavedGames
