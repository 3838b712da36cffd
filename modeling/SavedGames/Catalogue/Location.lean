import SavedGames.Catalogue
import SavedGames.FileName
import SavedGames.Text.Hex

/-! Where a catalogue is kept, as it is named on the command line: in a file, or nowhere. A name
that begins with `file:` is a URI. A percent sign and two hexadecimal digits in it stand for a byte,
a question mark begins its parameters, and a number sign ends it. -/
namespace SavedGames.Catalogue

/-- What may happen to the file of a catalogue. -/
inductive Access where
  | read
  | readWrite
  | readWriteCreate
  deriving DecidableEq, Repr

namespace Access

def rank : Access → Nat
  | read => 1
  | readWrite => 2
  | readWriteCreate => 3

/-- The access with a given name. To be kept in memory is none. -/
def ofName? (name : String) : Option (Option Access) :=
  [("ro", some read), ("rw", some readWrite), ("rwc", some readWriteCreate),
    ("memory", none)].lookup name

/-- An access may be narrowed, but not widened again. Where there is none, everything is allowed. -/
def allows (access next : Option Access) : Bool :=
  match access, next with
  | some access, some next => next.rank ≤ access.rank
  | _, _ => true

end Access

/-- How changes get into the file of a catalogue. -/
inductive Upkeep where
  /-- Through a log, with an index of it in a file. -/
  | logged
  /-- Through a log of a single user, who keeps the index in memory. -/
  | loggedAlone
  /-- Without a log. -/
  | direct
  /-- Not at all. -/
  | frozen
  deriving DecidableEq, Repr

inductive Location where
  /-- The catalogue is forgotten when the command ends. -/
  | temporary
  | file (file : FileName) (access : Access) (upkeep : Upkeep)
  deriving DecidableEq, Repr

namespace Location

def ofFileName (file : FileName) (access : Access) (upkeep : Upkeep) : Location :=
  if file.bytes.isEmpty || file = .ofText ":memory:" then .temporary
  else .file file.simplified access upkeep

section Parameters

/-- The bytes of a part of a URI. A byte that is zero ends the part. -/
def decoded : List Char → List UInt8
  | '%' :: a :: b :: cs =>
    match Hex.byte? a b with
    | some byte => if byte = 0 then [] else byte :: decoded cs
    | none => String.utf8EncodeChar '%' ++ decoded (a :: b :: cs)
  | c :: cs => String.utf8EncodeChar c ++ decoded cs
  | [] => []

/-- The text of a part of a URI, or the part as it is written if its bytes form none. -/
def decodedText (cs : List Char) : String :=
  (String.fromUTF8? ⟨(decoded cs).toArray⟩).getD (String.ofList cs)

/-- The name and the value of a parameter. -/
def parameter (cs : List Char) : String × String :=
  let isName := fun c => c != '='
  (decodedText (cs.takeWhile isName), decodedText ((cs.dropWhile isName).drop 1))

def cacheModes : List String := ["shared", "private"]

/-- The access that is left when every mode among the parameters has been looked at. -/
def access : Option Access → List (String × String) → Except CatalogueFault (Option Access)
  | access, [] => .ok access
  | current, ("mode", value) :: rest =>
    match Access.ofName? value with
    | none => .error (.badName ("no such access mode: " ++ value))
    | some next =>
      if Access.allows current next then access next rest
      else .error (.badName ("access mode not allowed: " ++ value))
  | current, ("cache", value) :: rest =>
    if cacheModes.contains value then access current rest
    else .error (.badName ("no such cache mode: " ++ value))
  | current, _ :: rest => access current rest

/-- Kinds of storage, and how they keep up the file of a catalogue, if it is in one. -/
def storages : List (String × Option Upkeep) :=
  [("unix", some .logged), ("unix-excl", some .loggedAlone), ("unix-dotfile", some .direct),
    ("unix-none", some .direct), ("memdb", none)]

/-- What the storage that is named last does. -/
def storage (parameters : List (String × String)) : Except CatalogueFault (Option Upkeep) :=
  match parameters.reverse.lookup "vfs" with
  | none => .ok (some .logged)
  | some name =>
    match storages.lookup name with
    | some upkeep => .ok upkeep
    | none => .error (.badName ("no such vfs: " ++ name))

/-- A switch is on by a word, or by a number whose last eight bits are not all zero. -/
def isOn (value : String) : Bool :=
  match Decimal.natural? (value.toList.takeWhile Char.isDigit) with
  | some n => n < 0x80000000 && n % 0x100 != 0
  | none => ["on", "yes", "true"].contains value.toLower

/-- Whether a switch is on. What is said first about it counts. -/
def switch (parameters : List (String × String)) (name : String) : Bool :=
  (parameters.lookup name).any isOn

/-- How the file is kept up, if there is one. -/
def upkeep (parameters : List (String × String)) : Except CatalogueFault (Option Upkeep) := do
  let stored ← storage parameters
  return stored.map fun upkeep =>
    if switch parameters "immutable" then .frozen
    else if switch parameters "nolock" then .direct
    else upkeep

end Parameters

/-- A URI may name the machine it is for, which must be this one. -/
def withoutMachine (cs : List Char) : Except CatalogueFault (List Char) :=
  match cs with
  | '/' :: '/' :: cs =>
    let machine := String.ofList (cs.takeWhile fun c => c != '/')
    if machine = "" ∨ machine = "localhost" then .ok (cs.dropWhile fun c => c != '/')
    else .error (.badName ("invalid uri authority: " ++ machine))
  | cs => .ok cs

def ofUri (cs : List Char) : Except CatalogueFault Location := do
  let cs := (← withoutMachine cs).takeWhile fun c => c != '#'
  let isPath := fun c => c != '?'
  let parameters := (((cs.dropWhile isPath).drop 1).splitOn '&').map parameter
  let access ← access (some .readWriteCreate) parameters
  match access, ← upkeep parameters with
  | some access, some upkeep =>
    let access := if upkeep = .frozen then .read else access
    return ofFileName ⟨decoded (cs.takeWhile isPath)⟩ access upkeep
  | _, _ => return .temporary

def ofName (name : String) : Except CatalogueFault Location :=
  let cs := name.toList
  if cs.contains '\x00' then
    .error (.nulInName (String.ofList (cs.takeWhile fun c => c != '\x00')).utf8ByteSize)
  else
    match cs with
    | 'f' :: 'i' :: 'l' :: 'e' :: ':' :: cs => ofUri cs
    | _ => .ok (ofFileName (.ofText name) .readWriteCreate .logged)

end Location
end SavedGames.Catalogue
