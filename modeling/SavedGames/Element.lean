import SavedGames.Piece

/-! The counted things of a seat: resources, stocks of pieces, knights and warships. A seat's
elements are an ordered list of tags with values; in a text it is one flat list of numbers. -/
namespace SavedGames

inductive Resource where
  | clay
  | ore
  | sheep
  | wheat
  | wood
  /-- Resources whose kind other players cannot see. -/
  | unknown
  deriving DecidableEq, Repr

namespace Resource

/-- In ascending order of the codes. -/
def all : List Resource := [clay, ore, sheep, wheat, wood, unknown]

def code : Resource → Int32
  | clay => 1
  | ore => 2
  | sheep => 3
  | wheat => 4
  | wood => 5
  | unknown => 6

def name : Resource → String
  | clay => "Clay"
  | ore => "Ore"
  | sheep => "Sheep"
  | wheat => "Wheat"
  | wood => "Wood"
  | unknown => "Unknown"

end Resource

/-- The tag of a counted thing. -/
inductive Element where
  | resource (r : Resource)
  | roads
  | settlements
  | cities
  | ships
  | knights
  | warships
  deriving DecidableEq, Repr

namespace Element

/-- A resource has the same code as a tag. -/
def code : Element → Int32
  | resource r => r.code
  | roads => 10
  | settlements => 11
  | cities => 12
  | ships => 13
  | knights => 15
  | warships => 23

def name : Element → String
  | resource .unknown => "UnknownResource"
  | resource r => r.name
  | roads => "Roads"
  | settlements => "Settlements"
  | cities => "Cities"
  | ships => "Ships"
  | knights => "NumKnights"
  | warships => "ScenarioWarshipCount"

def ofCode? (code : Int32) : Option Element :=
  match code with
  | 1 => some (resource .clay)
  | 2 => some (resource .ore)
  | 3 => some (resource .sheep)
  | 4 => some (resource .wheat)
  | 5 => some (resource .wood)
  | 6 => some (resource .unknown)
  | 10 => some roads
  | 11 => some settlements
  | 12 => some cities
  | 13 => some ships
  | 15 => some knights
  | 23 => some warships
  | _ => none

def resource? : Element → Option Resource
  | resource r => some r
  | _ => none

/-- The tag for the stock of a piece that players build. -/
def stockOf? : PieceKind → Option Element
  | .road => some roads
  | .settlement => some settlements
  | .city => some cities
  | .ship => some ships
  | .fortress | .village => none

/-- The kind of piece whose stock has the tag. -/
def piece? : Element → Option PieceKind
  | roads => some .road
  | settlements => some .settlement
  | cities => some .city
  | ships => some .ship
  | _ => none

end Element

abbrev Elements := List (Element × Int32)

namespace Elements

/-- The elements with one more entry behind the others. -/
def push (es : Elements) (tag : Element) (value : Int32) : Elements := es ++ [(tag, value)]

/-- The value of the first entry with this tag. -/
def value? (es : Elements) (tag : Element) : Option Int32 :=
  (es.find? fun e => e.1 = tag).map Prod.snd

/-- Tag, value, tag, value and so on. -/
def flat (es : Elements) : List Int32 := es.flatMap fun e => [e.1.code, e.2]

inductive FlatFault where
  | oddLength (length : Nat)
  | unknownTag (code : Int32)
  deriving DecidableEq, Repr

def FlatFault.message : FlatFault → String
  | oddLength length =>
    "elements must be (type, value) pairs, got odd length " ++ Decimal.text length
  | unknownTag code => "unknown player element type " ++ Decimal.text code.toInt

def pairs : List Int32 → Except FlatFault Elements
  | code :: value :: rest =>
    match Element.ofCode? code with
    | some tag => (pairs rest).map ((tag, value) :: ·)
    | none => .error (.unknownTag code)
  | _ => .ok []

def ofFlat (ns : List Int32) : Except FlatFault Elements :=
  if ns.length % 2 = 0 then pairs ns else .error (.oddLength ns.length)

def read : Json.Reader Elements :=
  (Json.Reader.list .int32).refine fun ns => (ofFlat ns).mapError FlatFault.message

def json (es : Elements) : Json := Json.int32s es.flat

end Elements
end SavedGames
