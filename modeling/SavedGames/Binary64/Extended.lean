import SavedGames.Binary64

/-! Magnitudes with a significand of 64 bits, for the steps on the way to a double. -/
namespace SavedGames

structure Extended where
  significand : Nat
  exponent : Int
  deriving DecidableEq, Repr

namespace Extended

/-- The magnitude nearest to `num / den`, which is not zero. -/
def nearest (num den : Nat) : Extended :=
  let guess : Int := num.log2 - den.log2 - 63
  let (n, d) := Binary64.scaled num den guess
  let exponent := if n < d * twoTo 63 then guess - 1 else guess
  let (n, d) := Binary64.scaled num den exponent
  ⟨roundHalfEven n d, exponent⟩

def mul (x y : Extended) : Extended :=
  let product := nearest (x.significand * y.significand) 1
  { product with exponent := product.exponent + x.exponent + y.exponent }

/-- Nothing beyond the largest double rounds down to it. -/
def toBinary64? (x : Extended) : Option Binary64 :=
  let num := x.significand * twoTo x.exponent.toNat
  let den := twoTo (-x.exponent).toNat
  if Binary64.greatest.numerator * den < num then none else Binary64.nearest num den

end Extended
end SavedGames
