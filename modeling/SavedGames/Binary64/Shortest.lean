import SavedGames.Binary64
import SavedGames.Text.Decimal

/-! The shortest decimal that reads back as a given magnitude: of the decimals with the fewest
digits inside its rounding interval, the nearest. -/
namespace SavedGames.Binary64

/-- `digits * 10 ^ power`, without a trailing zero digit. -/
structure Shortest where
  digits : Nat
  power : Int
  deriving DecidableEq, Repr

/-- The value and the ends of its rounding interval, in quarters of the last place. -/
structure Interval where
  value : Nat
  low : Nat
  high : Nat
  closed : Bool
  deriving Repr

def interval (x : Binary64) : Interval :=
  let v := 4 * x.significand
  let halfGap := x.significand == twoTo 52 && leastExponent < x.exponent
  ⟨v, if halfGap then v - 1 else v - 2, v + 2, x.significand % 2 == 0⟩

/-- The multiple of `10 ^ power` next to the value that lies inside the interval. -/
def onGrid? (x : Binary64) (power : Int) : Option Nat :=
  let q := x.exponent - 2
  let grid := tenTo power.toNat * twoTo (-q).toNat
  let unit := tenTo (-power).toNat * twoTo q.toNat
  let i := x.interval
  let value := i.value * unit
  let inside (d : Nat) : Bool :=
    let lo := i.low * unit
    let hi := i.high * unit
    0 < d && if i.closed then lo ≤ d * grid && d * grid ≤ hi else lo < d * grid && d * grid < hi
  let below := value / grid
  let fromBelow := value - below * grid
  let fromAbove := (below + 1) * grid - value
  let lowerFirst := fromBelow < fromAbove || (fromBelow == fromAbove && below % 2 == 0)
  let (near, far) := if lowerFirst then (below, below + 1) else (below + 1, below)
  if inside near then some near else if inside far then some far else none

def searchDown (x : Binary64) : Nat → Int → Shortest
  | 0, power => ⟨0, power⟩
  | fuel + 1, power =>
    match x.onGrid? power with
    | some d => ⟨d, power⟩
    | none => searchDown x fuel (power - 1)

/-- The coarsest decimal grid with a point in the interval has the fewest digits. -/
def shortest (x : Binary64) : Shortest := x.searchDown 700 310

/-- How a decimal is written: positional for leading exponents from `-5` to `15`, always with a
point; otherwise with a signed exponent. -/
def Shortest.write (s : Shortest) : List Char :=
  let ds := Decimal.digits s.digits
  let lead := (ds.length : Int) - 1 + s.power
  if -5 ≤ lead ∧ lead < 16 then
    if 0 ≤ s.power then ds ++ List.replicate s.power.toNat '0' ++ ['.', '0']
    else if 0 ≤ lead then ds.take (lead.toNat + 1) ++ '.' :: ds.drop (lead.toNat + 1)
    else ['0', '.'] ++ List.replicate (-lead - 1).toNat '0' ++ ds
  else
    let mantissa := match ds with
      | [] => []
      | [d] => [d]
      | d :: rest => d :: '.' :: rest
    let sign := if lead < 0 then '-' else '+'
    mantissa ++ 'e' :: sign :: Decimal.digits lead.natAbs

def write (x : Binary64) : List Char :=
  if x.isZero then ['0', '.', '0'] else x.shortest.write

end SavedGames.Binary64
