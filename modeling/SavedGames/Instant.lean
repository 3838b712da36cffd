/-! Points in time at Greenwich, in seconds and nanoseconds since the start of 1970. A leap second
has no number of its own: it is written as more than a thousand million nanoseconds of the second
before it. Only the years -262143 to 262142 exist. -/
namespace SavedGames

namespace Instant

def nanosPerSecond : Nat := 1000000000

/-- The first second of the first year. -/
def firstSecond : Int := -8334601228800

/-- The last second of the last year. -/
def lastSecond : Int := 8210266876799

end Instant

structure Instant where
  second : Int
  nano : Nat
  exists_year : Instant.firstSecond ≤ second ∧ second ≤ Instant.lastSecond := by decide
  nano_lt : nano < 2 * Instant.nanosPerSecond := by decide
  deriving DecidableEq, Repr

namespace Instant

def ofSecond? (second : Int) (nano : Nat) : Option Instant :=
  if h : (firstSecond ≤ second ∧ second ≤ lastSecond) ∧ nano < 2 * nanosPerSecond then
    some ⟨second, nano, h.1, h.2⟩
  else none

/-- The instant is in the leap second behind its second. -/
def InLeapSecond (t : Instant) : Prop := nanosPerSecond ≤ t.nano

instance (t : Instant) : Decidable t.InLeapSecond := inferInstanceAs (Decidable (_ ≤ _))

def nanoseconds (t : Instant) : Int := t.second * nanosPerSecond + t.nano

def ofMillis? (ms : Int) : Option Instant :=
  ofSecond? (ms / 1000) ((ms % 1000).toNat * 1000000)

/-- Whole milliseconds since the start of 1970, rounded down. -/
def millis (t : Instant) : Int := t.nanoseconds / 1000000

/-- The instant outside of leap seconds that is so many nanoseconds past a second, or before it. -/
def carry? (second nano : Int) : Option Instant :=
  ofSecond? (second + nano / nanosPerSecond) (nano % nanosPerSecond).toNat

/-- The instant that a number of nanoseconds leads to. A leap second counts for who begins in it: it
is left behind as a whole, or for the second before it, unless the end is in it too. -/
def add? (t : Instant) (span : Int) : Option Instant :=
  let seconds := span.tdiv nanosPerSecond
  let fraction := span.tmod nanosPerSecond
  if t.InLeapSecond then
    if 0 < seconds ∨ 0 < fraction ∧ 2 * nanosPerSecond - fraction ≤ t.nano then
      carry? (t.second + seconds) (t.nano - nanosPerSecond + fraction)
    else if seconds < 0 then carry? (t.second + 1 + seconds) (t.nano - nanosPerSecond + fraction)
    else ofSecond? t.second (t.nano + fraction).toNat
  else carry? (t.second + seconds) (t.nano + fraction)

def addMillis? (t : Instant) (ms : Int) : Option Instant := t.add? (ms * 1000000)

def subSeconds? (t : Instant) (seconds : Int) : Option Instant :=
  t.add? (-(seconds * nanosPerSecond))

def secondsPerDay : Int := 86400

def secondOfDay (t : Instant) : Int := t.second % secondsPerDay

/-- The nanoseconds from one instant to another. Of the leap seconds between them only one is
counted that an end is in, and only if this end comes earlier in its day than the other one in its
own. -/
def since (now start : Instant) : Int :=
  let leap :=
    if start.secondOfDay < now.secondOfDay ∧ start.InLeapSecond then (nanosPerSecond : Int)
    else if now.secondOfDay < start.secondOfDay ∧ now.InLeapSecond then -nanosPerSecond
    else 0
  now.nanoseconds - start.nanoseconds + leap

/-- Whole seconds from `start` to `now`, a half upwards: none if `now` comes first, and at most what
32 bits hold. -/
def elapsedSeconds (start now : Instant) : Int32 :=
  let ms := (now.since start).tdiv 1000000
  Int32.ofInt (min ((max ms 0 + 500) / 1000) 0x7fffffff)

end Instant
end SavedGames
