/-! Counters: whole numbers of 32 bits. There is no sum where the exact one does not fit. -/
namespace SavedGames.Counter

def fits (n : Int) : Bool := -0x80000000 ≤ n && n < 0x80000000

def sum? (m n : Int32) : Option Int32 :=
  if fits (m.toInt + n.toInt) then some (m + n) else none

/-- The sum from left to right, which no partial sum may leave. -/
def totalFrom? : Int32 → List Int32 → Option Int32
  | sum, [] => some sum
  | sum, n :: ns => (sum? sum n).bind fun sum => totalFrom? sum ns

def total? (ns : List Int32) : Option Int32 := totalFrom? 0 ns

end SavedGames.Counter
