import SavedGames.Binary64.Extended

/-! Numbers in scientific notation: digits with at most one point among them, and perhaps a power of
ten behind them. A number is not rounded in one step: its first digits are gathered in 64 bits, and
these are scaled by tens with a rounding at each step. -/
namespace SavedGames

structure Scientific where
  negative : Bool
  whole : List Char
  /-- The digits behind the point, if there is a point. -/
  fraction : Option (List Char)
  power : Option Int
  deriving DecidableEq, Repr

namespace Scientific

section Reading

def sign : List Char → Bool × List Char
  | '-' :: cs => (true, cs)
  | '+' :: cs => (false, cs)
  | cs => (false, cs)

def digit (c : Char) : Nat := c.toNat - '0'.toNat

/-- Leading zeros apart, a power of more than five digits counts as ten thousand. -/
def powerOf (ds : List Char) : Nat :=
  ds.foldl (fun n d => if n < 10000 then n * 10 + digit d else 10000) 0

def power? : List Char → Option (Option Int)
  | [] => some none
  | c :: cs =>
    let (down, ds) := sign cs
    if (c = 'e' ∨ c = 'E') ∧ ds ≠ [] ∧ ds.all Char.isDigit then
      some (some (if down then -(powerOf ds : Int) else powerOf ds))
    else none

/-- Digits must stand on one side of the point at least. -/
def ofChars? (cs : List Char) : Option Scientific :=
  let (negative, cs) := sign cs
  let whole := cs.takeWhile Char.isDigit
  let (fraction, rest) := match cs.dropWhile Char.isDigit with
    | '.' :: cs => (some (cs.takeWhile Char.isDigit), cs.dropWhile Char.isDigit)
    | cs => (none, cs)
  if whole = [] ∧ fraction.getD [] = [] then none
  else (power? rest).map fun power => ⟨negative, whole, fraction, power⟩

end Reading

section Value

def signed (n : Scientific) (magnitude : Nat) : Int :=
  if n.negative then -(magnitude : Int) else magnitude

/-- The number, if digits are all that is written. -/
def integer? (n : Scientific) : Option Int :=
  if n.fraction = none ∧ n.power = none then some (n.signed (Nat.ofDigitChars 10 n.whole 0))
  else none

/-- Up to this number 64 bits have room for one digit more. -/
def room : Nat := 1844674407370955160

/-- Digits taken up while there is room, and how many were left over. -/
def gather : Nat → List Char → Nat × Nat
  | m, [] => (m, 0)
  | m, c :: cs => if room ≤ m then (m, cs.length + 1) else gather (m * 10 + digit c) cs

/-- Tens are taken into the significand while there is room, and the others are left. -/
def raised : Nat → Nat → Nat × Nat
  | m, 0 => (m, 0)
  | m, e + 1 => if m ≤ room then raised (m * 10) e else (m, e + 1)

/-- Tens are taken out of the significand while there are any, and the others are left. -/
def lowered : Nat → Nat → Nat × Nat
  | m, 0 => (m, 0)
  | m, e + 1 => if m % 10 = 0 then lowered (m / 10) e else (m, e + 1)

/-- The steps by which `e` tens are gone through. -/
def strides (step : Nat → Extended) (e : Nat) : List Extended :=
  List.replicate (e / 100) (step 100) ++ List.replicate (e % 100 / 10) (step 10) ++
    List.replicate (e % 10) (step 1)

/-- The double next to `m` times ten to `e`, if there is one. -/
def scaled (m : Nat) (e : Int) : Option Binary64 :=
  let (m, tens) := if 0 ≤ e then raised m e.toNat else lowered m (-e).toNat
  let step := fun k =>
    if 0 ≤ e then Extended.nearest (tenTo k) 1 else Extended.nearest 1 (tenTo k)
  if tens = 0 then Binary64.nearest m 1
  else ((strides step tens).foldl Extended.mul (Extended.nearest m 1)).toBinary64?

def magnitude? (n : Scientific) : Option Binary64 :=
  let places := n.fraction.getD []
  let (m, surplus) := gather 0 (n.whole ++ places)
  scaled m (n.power.getD 0 + surplus - places.length)

end Value

end Scientific
end SavedGames
