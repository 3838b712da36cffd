import SavedGames.Binary64.Shortest
import SavedGames.Text.Scientific

/-! A cell of a table: a whole number of 64 bits, a double, or a text. A column for numbers turns a
text into a number where it is written as one. -/
namespace SavedGames

inductive Cell where
  | integer (n : Int)
  | real (negative : Bool) (magnitude : Binary64)
  | text (s : String)
  deriving DecidableEq, Repr

namespace Cell

inductive Kind where
  | integer
  | real
  | text
  deriving DecidableEq, Repr

def Kind.name : Kind → String
  | integer => "Integer"
  | real => "Real"
  | text => "Text"

def kind : Cell → Kind
  | integer _ => .integer
  | real .. => .real
  | text _ => .text

/-- A number as numerator and denominator. -/
def fraction? : Cell → Option (Int × Nat)
  | integer n => some (n, 1)
  | real negative x =>
    some (if negative then -(x.numerator : Int) else x.numerator, x.denominator)
  | text _ => none

def toText : Cell → String
  | integer n => Decimal.text n
  | real negative x => String.ofList (if negative then '-' :: x.write else x.write)
  | text s => s

/-- Numbers come before texts. -/
def le (a b : Cell) : Bool :=
  match a.fraction?, b.fraction? with
  | some (m, d), some (n, e) => m * e ≤ n * d
  | some _, none => true
  | none, some _ => false
  | none, none => !(b.toText < a.toText)

section Numbers

def isPadding (c : Char) : Bool := c == ' ' || ('\t' ≤ c && c ≤ '\r')

def trim (cs : List Char) : List Char :=
  ((cs.dropWhile isPadding).reverse.dropWhile isPadding).reverse

def isInteger (n : Int) : Bool := -0x8000000000000000 ≤ n && n < 0x8000000000000000

/-- A number that is no double counts as this one, which is greater than all of them. -/
def beyond : Binary64 := ⟨twoTo 52, Binary64.greatestExponent + 1⟩

/-- A double that is a whole number is kept as one, the least of 64 bits excepted. -/
def ofDouble (negative : Bool) (x : Binary64) : Cell :=
  let n := x.numerator / x.denominator
  if x.numerator % x.denominator = 0 ∧ n < 0x8000000000000000 then
    integer (if negative then -(n : Int) else n)
  else real negative x

def ofScientific (n : Scientific) : Cell :=
  match n.integer?.filter isInteger with
  | some n => integer n
  | none => ofDouble n.negative (n.magnitude?.getD beyond)

/-- A text in scientific notation, with padding around it, is taken as its number. -/
def ofText (s : String) : Cell :=
  match Scientific.ofChars? (trim s.toList) with
  | some n => ofScientific n
  | none => text s

/-- The cell as it is kept in a column for whole numbers. -/
def asNumber : Cell → Cell
  | text s => ofText s
  | c => c

end Numbers

end Cell
end SavedGames
