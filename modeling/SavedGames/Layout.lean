import SavedGames.Json.Choice
import SavedGames.Json.Value

/-! The layout of a board. A board in the classic encoding is laid out by position; boards in the
other encodings by named parts. -/
namespace SavedGames

/-- Each encoding has coordinates of its own. -/
inductive Encoding where
  | classic
  | sixPlayer
  /-- A large board with a sea. -/
  | large
  deriving DecidableEq, Repr

namespace Encoding

def code : Encoding → Int32
  | classic => 1
  | sixPlayer => 2
  | large => 3

def name : Encoding → String
  | classic => "Original"
  | sixPlayer => "SixPlayer"
  | large => "Large"

def hasSea (e : Encoding) : Bool := e == large

/-- The oldest client that can play on such a board. -/
def minVersion : Encoding → Int32
  | classic => 1000
  | sixPlayer => 1108
  | large => 2000

def ofCode? (code : Int32) : Option Encoding :=
  match code with
  | 1 => some classic
  | 2 => some sixPlayer
  | 3 => some large
  | _ => none

def ofCode (code : Int32) : Except String Encoding :=
  match ofCode? code with
  | some encoding => .ok encoding
  | none => .error ("unknown board encoding format " ++ Decimal.text code.toInt)

def read : Json.Reader Encoding := Json.Reader.int32.refine ofCode

def json (e : Encoding) : Json := Json.int32 e.code

end Encoding

structure PositionalLayout where
  hexes : List Int32
  numbers : List Int32
  robberHex : Int32
  deriving DecidableEq, Repr

namespace PositionalLayout

def read : Json.Reader PositionalLayout :=
  Json.record "OriginalLayout"
    (.cons (.required "hex_layout" (Json.Reader.list .int32)) <|
      .cons (.required "number_layout" (Json.Reader.list .int32)) <|
      .cons (.required "robber_hex" .int32) .nil)
    fun (hexes, numbers, robberHex, ()) => ⟨hexes, numbers, robberHex⟩

def json (l : PositionalLayout) : Json :=
  .obj [("hex_layout", .int32s l.hexes), ("number_layout", .int32s l.numbers),
    ("robber_hex", .int32 l.robberHex)]

end PositionalLayout

inductive LayoutPart where
  | number (n : Int32)
  | numbers (ns : List Int32)
  | text (s : String)
  deriving DecidableEq, Repr

namespace LayoutPart

/-- The first kind that fits is taken, so the whole part is kept before any kind is tried. -/
def read : Json.Reader LayoutPart := fun room node =>
  if node.isKeepable room then
    match Json.Reader.int32 room node, Json.Reader.list .int32 room node,
        Json.Reader.text room node with
    | .ok n, _, _ => .ok (number n)
    | _, .ok ns, _ => .ok (numbers ns)
    | _, _, .ok s => .ok (text s)
    | _, _, _ => .error (.unfit (.noVariant "LayoutPart"))
  else .error .malformed

def json : LayoutPart → Json
  | number n => .int32 n
  | numbers ns => .int32s ns
  | text s => .str s

end LayoutPart

structure PartedLayout where
  encoding : Encoding
  parts : TextMap LayoutPart
  deriving DecidableEq

namespace PartedLayout

def number? (l : PartedLayout) (key : String) : Option Int32 :=
  match l.parts.get? key with
  | some (.number n) => some n
  | _ => none

def numbers? (l : PartedLayout) (key : String) : Option (List Int32) :=
  match l.parts.get? key with
  | some (.numbers ns) => some ns
  | _ => none

def read : Json.Reader PartedLayout :=
  Json.record "GeneralLayout"
    (.cons (.required "encoding_format" Encoding.read) <|
      .cons (.required "parts" (Json.Reader.table LayoutPart.read)) .nil)
    fun (encoding, parts, ()) => ⟨encoding, parts⟩

def json (l : PartedLayout) : Json :=
  .obj [("encoding_format", l.encoding.json),
    ("parts", .obj (l.parts.entries.map fun e => (e.1, e.2.json)))]

end PartedLayout

/-- A layout as it is saved. -/
inductive Layout where
  | positional (layout : PositionalLayout)
  | parted (layout : PartedLayout)
  deriving DecidableEq

namespace Layout

def encoding : Layout → Encoding
  | positional _ => .classic
  | parted layout => layout.encoding

def read : Json.Reader Layout :=
  Json.choice
    [.holding "layout1" (PositionalLayout.read.map positional),
      .holding "layout2" (PartedLayout.read.map parted)]

def json : Layout → Json
  | positional layout => .obj [("layout1", layout.json)]
  | parted layout => .obj [("layout2", layout.json)]

end Layout

/-- A layout as a board reports it. Other shapes than the two known ones cannot be saved. -/
inductive LayoutMessage where
  | known (layout : Layout)
  | other (type : Int32) (typeName : String)
  deriving DecidableEq

namespace LayoutMessage

def type : LayoutMessage → Int32
  | known (.positional _) => 1014
  | known (.parted _) => 1082
  | other type _ => type

end LayoutMessage
end SavedGames
