import SavedGames.Change
import SavedGames.TextMap
import SavedGames.Text.Decimal

/-! The options of a game, by short upper-case keys, and their packed text: `KEY=value` pairs in
ascending order of the keys, with commas between them. An option set holds only what the packed
text can carry back. -/
namespace SavedGames

inductive Setting where
  | flag (b : Bool)
  | number (n : Int32)
  | flaggedNumber (b : Bool) (n : Int32)
  | text (s : String)
  deriving DecidableEq, Repr

namespace Setting

def flagChar (b : Bool) : Char := if b then 't' else 'f'

def pack : Setting → List Char
  | flag b => [flagChar b]
  | number n => Decimal.write n.toInt
  | flaggedNumber b n => flagChar b :: Decimal.write n.toInt
  | text s => s.toList

def flagged? : List Char → Option Setting
  | 't' :: cs => (Decimal.int32? cs).map (flaggedNumber true)
  | 'f' :: cs => (Decimal.int32? cs).map (flaggedNumber false)
  | _ => none

/-- Whatever is no flag and no number is text. -/
def unpack (cs : List Char) : Setting :=
  if cs = ['t'] then flag true
  else if cs = ['f'] then flag false
  else
    match Decimal.int32? cs, flagged? cs with
    | some n, _ => number n
    | none, some s => s
    | none, none => text (String.ofList cs)

def isSeparator (c : Char) : Bool := c == ',' || c == '='

def hasSeparator : Setting → Bool
  | text s => s.toList.any isSeparator
  | _ => false

/-- A text that would be read back as something else. -/
def isAmbiguous : Setting → Bool
  | text s => unpack s.toList != text s
  | _ => false

def isPackable (s : Setting) : Bool := !s.hasSeparator && !s.isAmbiguous

end Setting

inductive OptionsFault where
  | badKey (key : String)
  | separatorInText (text : String)
  | ambiguousText (text : String)
  | notPair (packed pair : String)
  | duplicateKey (packed key : String)
  /-- A pair of the packed text that no option set takes. -/
  | badPair (packed : String) (fault : OptionsFault)
  deriving DecidableEq, Repr

namespace OptionsFault

def about (subject reason : String) : String :=
  "Invalid game options '" ++ subject ++ "': " ++ reason

def message : OptionsFault → String
  | badKey key => about key "key must be 1-8 chars of A-Z, 0-9 or _"
  | separatorInText text => about text "text values can't contain ',' or '='"
  | ambiguousText text => about text "text value would read back as another type"
  | notPair packed pair => about packed ("'" ++ pair ++ "' is not KEY=value")
  | duplicateKey packed key => about packed ("duplicate key '" ++ key ++ "'")
  | badPair packed fault => about packed fault.message

end OptionsFault

namespace Options

def isKeyChar (c : Char) : Bool := c.isUpper || c.isDigit || c == '_'

def isKey (key : String) : Bool :=
  0 < key.length && key.length ≤ 8 && key.toList.all isKeyChar

end Options

structure Options where
  settings : TextMap Setting
  packable : ∀ e ∈ settings.entries, Options.isKey e.1 ∧ e.2.isPackable

namespace Options

instance : DecidableEq Options := fun o p =>
  decidable_of_iff (o.settings = p.settings)
    ⟨fun h => by cases o; cases p; cases h; rfl, fun h => h ▸ rfl⟩

def empty : Options := ⟨.empty, by simp [TextMap.empty]⟩

def put (o : Options) (key : String) (s : Setting) (hk : isKey key) (hs : s.isPackable) : Options :=
  ⟨o.settings.insert key s, fun e he => by
    rcases TextMap.mem_insertEntry he with rfl | he
    · exact ⟨hk, hs⟩
    · exact o.packable e he⟩

/-- Sets an option. The key is looked at first, then the text for separators, then what it would
be read back as. -/
def insert (key : String) (s : Setting) : Change Options OptionsFault Unit := do
  if hk : isKey key then
    if hs : s.isPackable then modify fun o => o.put key s hk hs
    else
      let text := String.ofList s.pack
      throw (if s.hasSeparator then .separatorInText text else .ambiguousText text)
  else throw (.badKey key)

/-- What is there after a call to set an option, whether it succeeds or not. -/
def set (o : Options) (e : String × Setting) : Options := ((insert e.1 e.2).on o).2

def get? (o : Options) (key : String) : Option Setting := o.settings.get? key

def size (o : Options) : Nat := o.settings.size

def maxPlayersKey : String := "PL"

/-- The number of players that the options declare. -/
def maxPlayers? (o : Options) : Option Nat :=
  match o.get? maxPlayersKey with
  | some (.number n) | some (.flaggedNumber true n) =>
    if 0 ≤ n then some n.toInt.toNat else none
  | _ => none

def joined : List (List Char) → List Char
  | [] => []
  | [piece] => piece
  | piece :: pieces => piece ++ ',' :: joined pieces

def packPair (e : String × Setting) : List Char := e.1.toList ++ '=' :: e.2.pack

def packChars (o : Options) : List Char := joined (o.settings.entries.map packPair)

def pack (o : Options) : String := String.ofList o.packChars

/-- The pieces between the commas, one more than there are commas. -/
def pieces : List Char → List (List Char)
  | [] => [[]]
  | c :: cs =>
    if c = ',' then [] :: pieces cs
    else
      match pieces cs with
      | [] => [[c]]
      | piece :: rest => (c :: piece) :: rest

/-- What stands before the first `=` and behind it. -/
def splitPair? : List Char → Option (List Char × List Char)
  | [] => none
  | c :: cs => if c = '=' then some ([], cs) else (splitPair? cs).map fun (k, v) => (c :: k, v)

def parsePiece (packed : String) (o : Options) (piece : List Char) :
    Except OptionsFault Options :=
  match splitPair? piece with
  | none => .error (.notPair packed (String.ofList piece))
  | some (key, raw) =>
    let key := String.ofList key
    if o.settings.contains key then .error (.duplicateKey packed key)
    else ((insert key (Setting.unpack raw)).changed o).mapError (.badPair packed)

def parsePieces (packed : String) : Options → List (List Char) → Except OptionsFault Options
  | o, [] => .ok o
  | o, piece :: rest =>
    match parsePiece packed o piece with
    | .ok o => parsePieces packed o rest
    | .error fault => .error fault

def parse (packed : String) : Except OptionsFault Options :=
  if packed.toList = [] then .ok empty else parsePieces packed empty (pieces packed.toList)

end Options
end SavedGames
