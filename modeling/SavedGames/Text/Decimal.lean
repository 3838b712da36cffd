/-! Whole numbers in decimal digits. A written number has no leading zeros and only a minus sign;
a number is also read with leading zeros and with a plus sign. -/
namespace SavedGames.Decimal

def digits (n : Nat) : List Char := Nat.toDigits 10 n

def write (n : Int) : List Char :=
  if n < 0 then '-' :: digits n.natAbs else digits n.natAbs

def text (n : Int) : String := String.ofList (write n)

/-- Digits and nothing else, at least one of them. -/
def natural? (cs : List Char) : Option Nat :=
  if cs ≠ [] ∧ cs.all Char.isDigit then some (Nat.ofDigitChars 10 cs 0) else none

/-- Digits with at most one sign in front. -/
def integer? : List Char → Option Int
  | '-' :: cs => (natural? cs).map fun n => -(n : Int)
  | '+' :: cs => (natural? cs).map Int.ofNat
  | cs => (natural? cs).map Int.ofNat

def int32? (cs : List Char) : Option Int32 :=
  (integer? cs).bind fun n =>
    if -0x80000000 ≤ n ∧ n < 0x80000000 then some (Int32.ofInt n) else none

/-- An unsigned number takes a plus sign but no minus sign, not even before a zero. -/
def uint64? (cs : List Char) : Option UInt64 :=
  let unsigned := match cs with
    | '+' :: rest => natural? rest
    | _ => natural? cs
  unsigned.bind fun n => if n < UInt64.size then some (UInt64.ofNat n) else none

/-- The digits of `n`, with zeros in front up to the given width. -/
def padded (width n : Nat) : List Char :=
  let ds := digits n
  List.replicate (width - ds.length) '0' ++ ds

end SavedGames.Decimal
