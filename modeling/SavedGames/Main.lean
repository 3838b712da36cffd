import SavedGames.Tool
import Std.Time.DateTime.Timestamp

/-! The tool on a real machine: its files, its clock and its source of identifiers. -/
namespace SavedGames.Machine

def systemCode? : IO.Error → Option UInt32
  | .alreadyExists _ code _ => some code
  | .noFileOrDirectory _ code _ => some code
  | .inappropriateType _ code _ => some code
  | .invalidArgument _ code _ => some code
  | .permissionDenied _ code _ => some code
  | .otherError code _ => some code
  | _ => none

/-- The system names an error by a number, which some operations give with a minus sign. -/
def fileFault (e : IO.Error) : FileFault :=
  match (systemCode? e).map fun code => code.toInt32.toInt.natAbs with
  | some 2 => .notFound
  | some 17 => .alreadyExists
  | some 20 => .notDirectory
  | some 21 => .isDirectory
  | some 36 => .nameTooLong
  | _ => .other (toString e)

/-- A name with a zero byte would end there for the system. One that is no text cannot be passed on
to it. -/
def attempt (name : FileName) (action : String → IO α) : IO (Except FileFault α) := do
  if name.bytes.contains 0 then return .error .nulInPath
  match String.fromUTF8? ⟨name.bytes.toArray⟩ with
  | none => return .error (.other "Invalid or incomplete multibyte or wide character (os error 84)")
  | some path => try return .ok (← action path) catch e => return .error (fileFault e)

def makeDirectory (name : FileName) : IO (Except FileFault Unit) :=
  attempt name fun path => IO.FS.createDir path

/-- A directory, and nothing else, already has a single dot in it. -/
def isDirectory (name : FileName) : IO Bool := do
  match ← makeDirectory (name.child [FileName.dot]) with
  | .error .alreadyExists => return true
  | _ => return false

def read (name : FileName) : IO (Except FileFault ByteArray) :=
  attempt name fun path => IO.FS.readBinFile path

def size (name : FileName) : IO (Except FileFault Nat) := do
  return (← read name).map ByteArray.size

def now : IO Instant := do
  let n := (← Std.Time.Timestamp.now).toNanosecondsSinceUnixEpoch.val
  match Instant.carry? 0 n with
  | some now => return now
  | none => throw (.userError "the clock shows a time that does not exist")

/-- A random identifier: 122 random bits, and six that mark it as such. -/
def freshId : IO String := do
  let bytes := (← IO.getRandomBytes 16).toList
  let marked := bytes.mapIdx fun i b =>
    if i = 6 then b &&& 0x0f ||| 0x40 else if i = 8 then b &&& 0x3f ||| 0x80 else b
  let parts := marked.mapIdx fun i b =>
    if [4, 6, 8, 10].contains i then '-' :: Hex.ofByte b else Hex.ofByte b
  return String.ofList parts.flatten

def host : Tool.Host IO where
  files := {
    makeDirectory
    isDirectory
    write := fun name bytes => attempt name fun path => IO.FS.writeBinFile path bytes
    read
    remove := fun name => attempt name fun path => IO.FS.removeFile path
    size }
  now
  freshId

end SavedGames.Machine

def main (args : List String) : IO UInt32 := do
  let outcome ← SavedGames.Tool.run SavedGames.Machine.host args
  (← IO.getStdout).putStr outcome.output
  (← IO.getStderr).putStr outcome.errors
  return outcome.code
