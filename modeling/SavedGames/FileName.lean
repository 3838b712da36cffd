/-! Names of files and directories as a file system takes them: rows of bytes, which need not form a
text, with slashes between the parts. An empty part or a single dot leads nowhere, a double dot
leads up. -/
namespace SavedGames

structure FileName where
  bytes : List UInt8
  deriving DecidableEq, Repr

namespace FileName

def ofText (text : String) : FileName := ⟨text.toList.flatMap String.utf8EncodeChar⟩

def slash : UInt8 := 0x2F

def dot : UInt8 := 0x2E

/-- The bytes between the slashes. -/
def parts (f : FileName) : List (List UInt8) := f.bytes.splitOn slash

def isAbsolute (f : FileName) : Bool := f.bytes.head? == some slash

def isIdle (part : List UInt8) : Bool := part == [] || part == [dot]

def isUp (part : List UInt8) : Bool := part == [dot, dot]

/-- The file beside the given one that has a longer name. -/
def extended (f : FileName) (ending : String) : FileName := ⟨f.bytes ++ (ofText ending).bytes⟩

/-- A file of the given directory. -/
def child (directory : FileName) (part : List UInt8) : FileName :=
  ⟨directory.bytes ++ slash :: part⟩

/-- Where a part leads, with the parts above it, the last one first. Above the root is the root. -/
def step (absolute : Bool) (above : List (List UInt8)) (part : List UInt8) : List (List UInt8) :=
  if isIdle part then above
  else if isUp part then
    match above with
    | [] => if absolute then [] else [part]
    | last :: rest => if isUp last then part :: above else rest
  else part :: above

/-- Each double dot takes back the part before it, and idle parts are left out. This is the same
place where every part on the way is a directory. -/
def simplified (f : FileName) : FileName :=
  let kept := [slash].intercalate (f.parts.foldl (step f.isAbsolute) []).reverse
  if f.isAbsolute then ⟨slash :: kept⟩ else if kept.isEmpty then ⟨[dot]⟩ else ⟨kept⟩

end FileName
end SavedGames
