import SavedGames.Binary64
import SavedGames.Counter

/-! A permuted congruential generator: a multiplicative step on 128 bits, and an output that folds
the two halves of the state and rotates them by its top bits. -/
namespace SavedGames

structure Generator where
  state : BitVec 128
  deriving DecidableEq, Repr

/-- A value that is drawn from the generator. -/
abbrev Draw (α : Type) := StateM Generator α

namespace Generator

def multiplier : BitVec 128 := 0x2360ED051FC65DA44385DF649FCCF645

/-- Four of these steps spread a seed over the state. -/
def seedStep (s : UInt64) : UInt64 := s * 6364136223846793005 + 11634580027462260723

def seedWord (s : UInt64) : BitVec 32 :=
  let folded := (((s >>> 18) ^^^ s) >>> 27).toUInt32
  folded.toBitVec.rotateRight (s >>> 59).toNat

def seedMask : UInt64 := 0x9e3779b97f4a7c15

def ofSeed (seed : UInt64) : Generator :=
  let a := seedStep (seed ^^^ seedMask)
  let b := seedStep a
  let c := seedStep b
  let d := seedStep c
  ⟨(seedWord d ++ seedWord c ++ seedWord b ++ seedWord a) ||| 1⟩

def output (s : BitVec 128) : BitVec 64 :=
  (s.extractLsb' 64 64 ^^^ s.extractLsb' 0 64).rotateRight (s >>> 122).toNat

/-- The next 64 bits. -/
def word : Draw (BitVec 64) := fun r =>
  let state := r.state * multiplier
  (output state, ⟨state⟩)

/-- A number below `n`. -/
def below (n : Nat) (h : 0 < n) : Draw (Fin n) := do
  return ⟨(← word).toNat % n, Nat.mod_lt _ h⟩

/-- The top 53 bits: a fraction of `2 ^ 53`. -/
def fraction : Draw Nat := do return (← word).toNat / twoTo 11

/-- True with the given chance of a hundred. The chance is a double. -/
def chance (percent : Nat) : Draw Bool := do
  let roll ← fraction
  return match Binary64.nearest percent 100 with
    | some p => roll * p.denominator < p.numerator * twoTo 53
    | none => true

/-- How many numbers stand from `lo` to `hi`. -/
def span (lo hi : Int32) : Nat := (hi.toInt - lo.toInt + 1).toNat

theorem span_pos {lo hi : Int32} (h : lo ≤ hi) : 0 < span lo hi := by
  have := Int32.le_iff_toInt_le.1 h
  unfold span
  omega

/-- A number from `lo` to `hi`, as an offset of 32 bits from `lo`. There is none where the offset
turns negative and leads out of 32 bits. -/
def range? (lo hi : Int32) (h : lo ≤ hi) : Draw (Option Int32) := do
  return Counter.sum? lo (Int32.ofNat (← below (span lo hi) (span_pos h)))

/-- A natural number from `lo` to `hi`. -/
def between (lo hi : Nat) (_h : lo ≤ hi := by decide) : Draw Nat := do
  return lo + (← below (hi - lo + 1) (Nat.succ_pos _))

def pick (items : List α) (h : items ≠ []) : Draw α := do
  return items.get (← below items.length (List.length_pos_iff.2 h))

/-- As many draws as asked for, each told its place. -/
def listFrom (draw : Nat → Draw α) : Nat → Nat → Draw (List α)
  | _, 0 => return []
  | i, n + 1 => do
    let a ← draw i
    let as ← listFrom draw (i + 1) n
    return a :: as

def list (n : Nat) (draw : Nat → Draw α) : Draw (List α) := listFrom draw 0 n

end Generator
end SavedGames
