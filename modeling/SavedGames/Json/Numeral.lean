import SavedGames.Binary64
import SavedGames.Text.Decimal

/-! A number as it is written in a JSON text, and what it stands for: a whole number of 64 bits
where the text shows one, otherwise a double. The decimal is not rounded in one step: its digits are
gathered in 64 bits and then scaled by powers of ten, with a rounding at each step. -/
namespace SavedGames.Json

structure Numeral where
  negative : Bool
  whole : List Char
  /-- The digits after the point, if there is a point. -/
  fraction : List Char
  /-- Whether the exponent is negative, and its digits. -/
  exponent : Option (Bool × List Char)
  deriving DecidableEq, Repr

inductive Number where
  | integer (n : Int)
  | real (negative : Bool) (magnitude : Binary64)
  deriving DecidableEq, Repr

namespace Numeral

/-- Digits taken up while the significand fits 64 bits, and how many were left over. -/
def gather : Nat → List Char → Nat × Nat
  | m, [] => (m, 0)
  | m, c :: cs =>
    let next := m * 10 + (c.toNat - '0'.toNat)
    if twoTo 64 ≤ next then (m, cs.length + 1) else gather next cs

def significand? (n : Nat) : Option Binary64 := Binary64.nearest n 1

/-- `x` times ten to `exponent`. A small exponent is reached in strides of 308. -/
def scaledByTen : Nat → Binary64 → Int → Option Binary64
  | 0, x, _ => some x
  | fuel + 1, x, exponent =>
    if exponent.natAbs ≤ 308 then
      (Binary64.powerOfTen exponent.natAbs).bind fun p =>
        if 0 ≤ exponent then x.mul p else x.div p
    else if x.isZero then some x
    else if 0 ≤ exponent then none
    else
      (Binary64.powerOfTen 308).bind x.div |>.bind fun y => scaledByTen fuel y (exponent + 308)

def magnitude? (m : Nat) (exponent : Int) : Option Binary64 :=
  (significand? m).bind fun x => scaledByTen (exponent.natAbs / 308 + 2) x exponent

/-- The magnitude of a number with a point, an exponent or too many digits. An exponent beyond 31
bits is not added up: it makes zero, or no number at all. -/
def real? (n : Numeral) : Option Binary64 :=
  let (m, surplus) := gather 0 n.whole
  let (m, lost) := gather m n.fraction
  let shift : Int := (surplus : Int) - ((n.fraction.length - lost : Nat) : Int)
  match n.exponent with
  | none => magnitude? m shift
  | some (down, ds) =>
    let e := Nat.ofDigitChars 10 ds 0
    if twoTo 31 ≤ e then
      if m ≠ 0 ∧ !down then none else some Binary64.zero
    else magnitude? m (if down then shift - e else shift + e)

/-- What the number stands for; nothing if it is too large for a double. -/
def value? (n : Numeral) : Option Number :=
  let (m, surplus) := gather 0 n.whole
  if n.fraction = [] ∧ n.exponent = none ∧ surplus = 0 ∧ (!n.negative ∨ (0 < m ∧ m ≤ twoTo 63)) then
    some (.integer (if n.negative then -(m : Int) else m))
  else (real? n).map (.real n.negative)

end Numeral
end SavedGames.Json
