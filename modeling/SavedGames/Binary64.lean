/-! Double-precision numbers in exact arithmetic: a finite magnitude is a whole significand below
`2 ^ 53` times a power of two. Every operation rounds its exact result to the nearest magnitude, a
half to the even neighbour. -/
namespace SavedGames

def twoTo (n : Nat) : Nat := Nat.pow 2 n

def tenTo (n : Nat) : Nat := Nat.pow 10 n

/-- `num / den` as a whole number, a half to the even neighbour. -/
def roundHalfEven (num den : Nat) : Nat :=
  let q := num / den
  let r := num % den
  if den < 2 * r ∨ (2 * r = den ∧ q % 2 = 1) then q + 1 else q

structure Binary64 where
  significand : Nat
  exponent : Int
  deriving DecidableEq, Repr

namespace Binary64

def leastExponent : Int := -1074
def greatestExponent : Int := 971

def zero : Binary64 := ⟨0, leastExponent⟩

def isZero (x : Binary64) : Bool := x.significand == 0

/-- Numerator and denominator of `num / den / 2 ^ e`. -/
def scaled (num den : Nat) (e : Int) : Nat × Nat :=
  if 0 ≤ e then (num, den * twoTo e.toNat) else (num * twoTo (-e).toNat, den)

/-- The exponent that gives `num / den` a significand of 53 bits, or the least one. -/
def exponentFor (num den : Nat) : Int :=
  let guess : Int := num.log2 - den.log2 - 52
  let (n, d) := scaled num den guess
  max leastExponent (if n < d * twoTo 52 then guess - 1 else guess)

/-- The magnitude nearest to `num / den`, or nothing beyond the largest. -/
def nearest (num den : Nat) : Option Binary64 :=
  if num = 0 then some zero else
    let e := exponentFor num den
    let (n, d) := scaled num den e
    let m := roundHalfEven n d
    let x : Binary64 := if m = twoTo 53 then ⟨twoTo 52, e + 1⟩ else ⟨m, e⟩
    if greatestExponent < x.exponent then none else some x

def numerator (x : Binary64) : Nat := x.significand * twoTo x.exponent.toNat
def denominator (x : Binary64) : Nat := twoTo (-x.exponent).toNat

def greatest : Binary64 := ⟨twoTo 53 - 1, greatestExponent⟩

def mul (x y : Binary64) : Option Binary64 :=
  nearest (x.numerator * y.numerator) (x.denominator * y.denominator)

def div (x y : Binary64) : Option Binary64 :=
  nearest (x.numerator * y.denominator) (x.denominator * y.numerator)

def powerOfTen (k : Nat) : Option Binary64 := nearest (tenTo k) 1

end Binary64
end SavedGames
