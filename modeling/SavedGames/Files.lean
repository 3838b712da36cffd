import SavedGames.FileName
import SavedGames.Path
import SavedGames.Snapshot.Check

/-! Saved games as files of a directory, one for each name. A file of the same name is replaced. -/
namespace SavedGames

/-- What is asked of a file system. -/
structure Files (m : Type → Type) where
  /-- Makes one directory in another that exists. -/
  makeDirectory : FileName → m (Except FileFault Unit)
  isDirectory : FileName → m Bool
  /-- Replaces the whole file, or makes one. -/
  write : FileName → ByteArray → m (Except FileFault Unit)
  read : FileName → m (Except FileFault ByteArray)
  /-- Removes a file. -/
  remove : FileName → m (Except FileFault Unit)
  /-- The length of a file in bytes. -/
  size : FileName → m (Except FileFault Nat)

def textOfBytes (bytes : ByteArray) : Except FileFault String :=
  match String.fromUTF8? bytes with
  | some text => .ok text
  | none => .error .notText

namespace Files

variable {m : Type → Type} [Monad m]

/-- Makes the first of the directories, and those behind it, from the last one on, as far as they
are missing. -/
def makeFirst (files : Files m) : List Path → m (Except FileFault Unit)
  | [] => return .ok ()
  | path :: above => do
    let name := FileName.ofText path.text
    let settle := fun (made : Except FileFault Unit) => do
      match made with
      | .ok () => return .ok ()
      | .error fault => if ← files.isDirectory name then return .ok () else return .error fault
    match ← files.makeDirectory name with
    | .error .notFound =>
      match ← files.makeFirst above with
      | .ok () => settle (← files.makeDirectory name)
      | .error fault => return .error fault
    | made => settle made

/-- Makes a directory with all those above it. One that exists stays as it is. -/
def makeDirectories (files : Files m) (path : String) : m (Except FileFault Unit) :=
  files.makeFirst (Path.ofText path).ancestors

def writeText (files : Files m) (path text : String) : m (Except FileFault Unit) :=
  files.write (.ofText path) text.toUTF8

def readText (files : Files m) (path : String) : m (Except FileFault String) := do
  return (← files.read (.ofText path)).bind textOfBytes

end Files

namespace Snapshot

def isFileNameChar (c : Char) : Bool := c.isAlphanum || c == '-' || c == '_'

def fileExtension : String := ".game.json"

/-- The name of a game with everything but letters, digits, hyphens and underscores made an
underscore. -/
def fileName (name : String) : String :=
  String.ofList (name.toList.map fun c => if isFileNameChar c then c else '_') ++ fileExtension

variable {m : Type → Type} [Monad m]

def asSaveError (result : m (Except FileFault α)) : ExceptT SaveError m α :=
  ExceptT.mk (Except.mapError SaveError.file <$> result)

/-- Writes a snapshot into a directory, which is made if it does not exist, and gives the path. -/
def saveTo (files : Files m) (directory : String) (pretty : Bool) (s : Snapshot) :
    ExceptT SaveError m String := do
  asSaveError (files.makeDirectories directory)
  let path := Path.join directory (fileName s.name)
  asSaveError (files.writeText path (s.text pretty))
  return path

/-- Reads a snapshot and checks it. -/
def loadFrom (files : Files m) (path : String) : ExceptT SaveError m Snapshot := do
  let text ← asSaveError (files.readText path)
  ExceptT.mk (pure (ofText text))

end Snapshot
end SavedGames
