import SavedGames.Json.Node
import SavedGames.Text.Hex

/-! The JSON grammar: from a text to the tree of what it holds. A scan gives what follows the
part it has read, or nothing if the text broke off there. -/
namespace SavedGames.Json

structure Document where
  root : Node
  /-- Only blanks follow the root. -/
  ended : Bool
  deriving Repr

namespace Document

def isBlank (c : Char) : Bool := c == ' ' || c == '\n' || c == '\t' || c == '\r'

def skipBlanks (cs : List Char) : List Char := cs.dropWhile isBlank

/-- A part of a text between quotes: a character, or a code unit given by its number. -/
inductive TextUnit where
  | char (c : Char)
  | code (n : Nat)
  deriving DecidableEq, Repr

def codeUnit? (a b c d : Char) : Option Nat := do
  let n := (← Hex.value? a) * 16 + (← Hex.value? b)
  return (n * 16 + (← Hex.value? c)) * 16 + (← Hex.value? d)

def shortEscape? : Char → Option Char
  | '"' => some '"'
  | '\\' => some '\\'
  | '/' => some '/'
  | 'b' => some '\x08'
  | 'f' => some '\x0c'
  | 'n' => some '\n'
  | 'r' => some '\r'
  | 't' => some '\t'
  | _ => none

/-- The text up to its closing quote, and what follows the quote. -/
def textUnits? : List Char → Option (List TextUnit × List Char)
  | [] => none
  | '"' :: rest => some ([], rest)
  | '\\' :: 'u' :: a :: b :: c :: d :: rest => do
    let n ← codeUnit? a b c d
    let (units, rest) ← textUnits? rest
    return (.code n :: units, rest)
  | '\\' :: e :: rest => do
    let c ← shortEscape? e
    let (units, rest) ← textUnits? rest
    return (.char c :: units, rest)
  | c :: rest =>
    if c.toNat < 0x20 ∨ c = '\\' then none
    else (textUnits? rest).map fun (units, rest) => (.char c :: units, rest)

def isLeading (n : Nat) : Bool := 0xD800 ≤ n && n < 0xDC00

def isTrailing (n : Nat) : Bool := 0xDC00 ≤ n && n < 0xE000

/-- The characters of a text. A leading code unit makes one with the trailing unit next to it, and
neither stands alone. -/
def characters? : List TextUnit → Option (List Char)
  | [] => some []
  | .char c :: units => (characters? units).map (c :: ·)
  | .code hi :: .code lo :: units =>
    if isLeading hi then
      if isTrailing lo then
        (characters? units).map
          (Char.ofNat (0x10000 + (hi - 0xD800) * 0x400 + (lo - 0xDC00)) :: ·)
      else none
    else if isTrailing hi then none
    else (characters? (.code lo :: units)).map (Char.ofNat hi :: ·)
  | .code n :: units =>
    if isLeading n || isTrailing n then none else (characters? units).map (Char.ofNat n :: ·)

def text? (units : List TextUnit) : Option String := (characters? units).map String.ofList

/-- The digits at the start, at least one of them. -/
def digits? (cs : List Char) : Option (List Char × List Char) :=
  let ds := cs.takeWhile Char.isDigit
  if ds.isEmpty then none else some (ds, cs.dropWhile Char.isDigit)

def whole? (cs : List Char) : Option (List Char × List Char) :=
  (digits? cs).bind fun (ds, rest) =>
    if 1 < ds.length ∧ ds.head? = some '0' then none else some (ds, rest)

def fraction? : List Char → Option (List Char × List Char)
  | '.' :: cs => digits? cs
  | cs => some ([], cs)

def exponentDigits? : List Char → Option ((Bool × List Char) × List Char)
  | '-' :: cs => (digits? cs).map fun (ds, rest) => ((true, ds), rest)
  | '+' :: cs => (digits? cs).map fun (ds, rest) => ((false, ds), rest)
  | cs => (digits? cs).map fun (ds, rest) => ((false, ds), rest)

def exponent? : List Char → Option (Option (Bool × List Char) × List Char)
  | 'e' :: cs => (exponentDigits? cs).map fun (e, rest) => (some e, rest)
  | 'E' :: cs => (exponentDigits? cs).map fun (e, rest) => (some e, rest)
  | cs => some (none, cs)

def numeral? (cs : List Char) : Option (Numeral × List Char) := do
  let (negative, cs) := match cs with
    | '-' :: cs => (true, cs)
    | cs => (false, cs)
  let (whole, cs) ← whole? cs
  let (fraction, cs) ← fraction? cs
  let (exponent, cs) ← exponent? cs
  return (⟨negative, whole, fraction, exponent⟩, cs)

def scanNumber (cs : List Char) : Node × Option (List Char) :=
  match numeral? cs with
  | some (n, rest) => (.num n, some rest)
  | none => (.broken, none)

def scanText (cs : List Char) : Node × Option (List Char) :=
  match textUnits? cs with
  | some (units, rest) => (.str (text? units), some rest)
  | none => (.broken, none)

def scanLiteral (word : String) (node : Node) (cs : List Char) : Node × Option (List Char) :=
  if word.toList.isPrefixOf cs then (node, some (cs.drop word.length)) else (.broken, none)

mutual

/-- The first argument bounds the depth of the recursion: two for each character suffice. -/
def scanValue : Nat → List Char → Node × Option (List Char)
  | 0, _ => (.broken, none)
  | fuel + 1, cs =>
    match skipBlanks cs with
    | 't' :: cs => scanLiteral "rue" (.bool true) cs
    | 'f' :: cs => scanLiteral "alse" (.bool false) cs
    | 'n' :: cs => scanLiteral "ull" .null cs
    | '"' :: cs => scanText cs
    | '[' :: cs =>
      match skipBlanks cs with
      | ']' :: rest => (.arr [] true, some rest)
      | cs =>
        let (items, closed, rest) := scanItems fuel cs
        (.arr items closed, rest)
    | '\x7b' :: cs =>
      match skipBlanks cs with
      | '\x7d' :: rest => (.obj [] true, some rest)
      | cs =>
        let (members, closed, rest) := scanMembers fuel cs
        (.obj members closed, rest)
    | cs => scanNumber cs

/-- The items of a list, whether it is closed, and what follows it. -/
def scanItems : Nat → List Char → List Node × Bool × Option (List Char)
  | 0, _ => ([], false, none)
  | fuel + 1, cs =>
    match scanValue fuel cs with
    | (item, none) => ([item], false, none)
    | (item, some cs) =>
      match skipBlanks cs with
      | ',' :: cs =>
        let (items, closed, rest) := scanItems fuel cs
        (item :: items, closed, rest)
      | ']' :: rest => ([item], true, some rest)
      | _ => ([item], false, none)

/-- The members of an object, whether it is closed, and what follows it. -/
def scanMembers : Nat → List Char → List (Option String × Node) × Bool × Option (List Char)
  | 0, _ => ([], false, none)
  | fuel + 1, cs =>
    match skipBlanks cs with
    | '"' :: cs =>
      match textUnits? cs with
      | none => ([], false, none)
      | some (units, cs) =>
        let key := text? units
        match skipBlanks cs with
        | ':' :: cs =>
          match scanValue fuel cs with
          | (value, none) => ([(key, value)], false, none)
          | (value, some cs) =>
            match skipBlanks cs with
            | ',' :: cs =>
              let (members, closed, rest) := scanMembers fuel cs
              ((key, value) :: members, closed, rest)
            | '\x7d' :: rest => ([(key, value)], true, some rest)
            | _ => ([(key, value)], false, none)
        | _ => ([(key, .broken)], false, none)
    | _ => ([], false, none)

end

def ofChars (cs : List Char) : Document :=
  match scanValue (2 * cs.length + 2) cs with
  | (root, some rest) => ⟨root, (skipBlanks rest).isEmpty⟩
  | (root, none) => ⟨root, false⟩

def ofText (s : String) : Document := ofChars s.toList

end Document
end SavedGames.Json
