import SavedGames.Json.Node
import SavedGames.Binary64.Shortest
import SavedGames.Text.Quoted

/-! Why a JSON text was refused: the text itself is broken, or it holds something else than the
reader expects there. -/
namespace SavedGames.Json

inductive Found where
  | boolean (b : Bool)
  | number (n : Number)
  | text (s : String)
  | null
  | sequence
  | map
  | unitVariant
  deriving DecidableEq, Repr

inductive Expected where
  | int32
  | unsigned
  | boolean
  | text
  | sequence
  | map
  | null
  | record (name : String)
  | tagged (name : String)
  | variant (label : String)
  | variantName
  | variantWithContent
  | dateTime
  deriving DecidableEq, Repr

/-- What was too short or too long, with the number of elements it should have. -/
inductive Extent where
  | record (name : String) (count : Nat)
  | variant (label : String) (count : Nat)
  | exactly (count : Nat)
  deriving DecidableEq, Repr

inductive Misfit where
  | wrongType (found : Found) (expected : Expected)
  | outOfRange (n : Int) (expected : Expected)
  | wrongLength (length : Nat) (expected : Extent)
  | missingField (name : String)
  | duplicateField (name : String)
  | unknownVariant (name : String) (known : List String)
  /-- No variant of the named type fits. -/
  | noVariant (type : String)
  /-- A well-formed value that its own type refuses, with the reason. -/
  | rejected (reason : String)
  deriving DecidableEq, Repr

inductive Fault where
  | malformed
  | unfit (misfit : Misfit)
  deriving DecidableEq, Repr

def Number.text : Number → String
  | .integer n => "integer `" ++ Decimal.text n ++ "`"
  | .real negative x =>
    "floating point `" ++ (if negative then "-" else "") ++ String.ofList x.write ++ "`"

def Found.message : Found → String
  | .boolean b => "boolean `" ++ (if b then "true" else "false") ++ "`"
  | .number n => n.text
  | .text s => "string " ++ Text.quoted s
  | .null => "null"
  | .sequence => "sequence"
  | .map => "map"
  | .unitVariant => "unit variant"

def Expected.message : Expected → String
  | .int32 => "i32"
  | .unsigned => "usize"
  | .boolean => "a boolean"
  | .text => "a string"
  | .sequence => "a sequence"
  | .map => "a map"
  | .null => "unit"
  | .record name => "struct " ++ name
  | .tagged name => "internally tagged enum " ++ name
  | .variant label => "struct variant " ++ label
  | .variantName => "variant identifier"
  | .variantWithContent => "newtype variant"
  | .dateTime => "an RFC 3339 formatted date and time string"

def elementCount (count : Nat) : String :=
  Decimal.text count ++ if count = 1 then " element" else " elements"

def Extent.message : Extent → String
  | .record name count => "struct " ++ name ++ " with " ++ elementCount count
  | .variant label count => "struct variant " ++ label ++ " with " ++ elementCount count
  | .exactly count => elementCount count ++ " in sequence"

def ticked (name : String) : String := "`" ++ name ++ "`"

/-- Two alternatives are joined by `or`, more are listed after `one of`. -/
def alternatives : List String → String
  | [a, b] => ticked a ++ " or " ++ ticked b
  | [a] => ticked a
  | names => "one of " ++ String.intercalate ", " (names.map ticked)

def Misfit.message : Misfit → String
  | .wrongType found expected =>
    "invalid type: " ++ found.message ++ ", expected " ++ expected.message
  | .outOfRange n expected =>
    "invalid value: integer `" ++ Decimal.text n ++ "`, expected " ++ expected.message
  | .wrongLength length expected =>
    "invalid length " ++ Decimal.text length ++ ", expected " ++ expected.message
  | .missingField name => "missing field " ++ ticked name
  | .duplicateField name => "duplicate field " ++ ticked name
  | .unknownVariant name known =>
    "unknown variant " ++ ticked name ++ ", expected " ++ alternatives known
  | .noVariant type => "data did not match any variant of untagged enum " ++ type
  | .rejected reason => reason

namespace Node

/-- What a reader finds at the node, as far as it can tell without reading on. -/
def found? : Node → Option Found
  | broken => none
  | null => some .null
  | bool b => some (.boolean b)
  | num n => n.value?.map .number
  | str s => s.map .text
  | arr _ _ => some .sequence
  | obj _ _ => some .map

def mismatch (node : Node) (expected : Expected) : Fault :=
  match node.found? with
  | some found => .unfit (.wrongType found expected)
  | none => .malformed

end Node
end SavedGames.Json
