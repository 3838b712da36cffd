/-! Paths: names with slashes between them, behind the root, the present directory or nothing. An
empty name or a single dot leads nowhere. -/
namespace SavedGames

/-- The names of a path, the last one first, and what stands in front of them. -/
structure Path where
  start : String
  names : List String
  deriving DecidableEq, Repr

namespace Path

def isIdle (name : String) : Bool := name == "" || name == "."

/-- What a text begins with before its names: the root, the present directory, or nothing. -/
def startOf (text : String) : String :=
  match text.toList with
  | '/' :: _ => "/"
  | ['.'] => "."
  | '.' :: '/' :: _ => "."
  | _ => ""

def ofText (text : String) : Path :=
  let start := startOf text
  ⟨start, (((text.toList.drop start.length).splitOn '/').map String.ofList).reverse⟩

def text (p : Path) : String := p.start ++ String.intercalate "/" p.names.reverse

/-- The path up to its last name. Nothing is above the root, and nothing above an empty path. -/
def parent? (p : Path) : Option Path :=
  match p.names.dropWhile isIdle with
  | [] => if p.start = "." then some ⟨"", []⟩ else none
  | _ :: above => some ⟨p.start, above.dropWhile isIdle⟩

/-- The paths from the given one upwards that have something above them. Each has fewer names than
the one before, or is the empty path, so that the number of names bounds theirs. -/
def upwards : Nat → Path → List Path
  | 0, _ => []
  | fuel + 1, p =>
    match p.parent? with
    | none => []
    | some above => p :: upwards fuel above

def ancestors (p : Path) : List Path := upwards (p.names.length + 1) p

/-- The path of a file in a directory, as texts. -/
def join (directory name : String) : String :=
  match directory.toList.getLast? with
  | none => name
  | some '/' => directory ++ name
  | some _ => directory ++ "/" ++ name

end Path
end SavedGames
