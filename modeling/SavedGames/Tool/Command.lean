import SavedGames.ByteSize
import SavedGames.Instant
import SavedGames.Tool.Report

/-! Commands: what they need, how they read their arguments, and what they leave behind. -/
namespace SavedGames.Tool

/-- What the tool needs of the machine on which it runs. -/
structure Host (m : Type → Type) where
  files : Files m
  now : m Instant
  freshId : m String

/-- A command: it prints lines, and may fail after some of them. -/
abbrev Command (m : Type → Type) := ExceptT Report (StateT (List String) m)

/-- What is left of a run: its printed text, the failure if there was one, and the exit code. -/
structure Outcome where
  output : String
  failure : Option Report
  deriving DecidableEq, Repr

def Outcome.code (o : Outcome) : UInt32 := if o.failure.isSome then 1 else 0

def Outcome.errors (o : Outcome) : String := (o.failure.map Report.text).getD ""

section Arguments

/-- The argument behind the first such flag that has one behind it. -/
def valueOf? (flag : String) : List String → Option String
  | a :: b :: rest => if a = flag then some b else valueOf? flag (b :: rest)
  | _ => none

/-- A number behind a flag. One that is no number is passed over. -/
def numberOf (flag : String) (args : List String) (fallback : UInt64) : UInt64 :=
  ((valueOf? flag args).bind fun s => Decimal.uint64? s.toList).getD fallback

/-- The operand of a command stands right behind it. -/
def operand? : List String → Option String
  | _ :: operand :: _ => if operand.startsWith "--" then none else some operand
  | _ => none

end Arguments

variable {m : Type → Type} [Monad m]

def say (line : String) : Command m Unit := modify (· ++ [line])

def fail (message : String) : Command m α := throw ⟨message, []⟩

def lift (action : m α) : Command m α := ExceptT.lift (StateT.lift action)

def orFail (toReport : ε → Report) (result : Except ε α) : Command m α :=
  match result with
  | .ok a => pure a
  | .error e => throw (toReport e)

def saved (result : Except SaveError α) : Command m α := orFail Report.ofSaveError result

def operand (args : List String) (usage : String) : Command m String :=
  match operand? args with
  | some path => pure path
  | none => fail ("usage: savegame-tool " ++ usage)

def loadFile (host : Host m) (path : String) : Command m Snapshot := do
  saved (← lift (Snapshot.loadFrom host.files path).run)

/-- A number of bytes as people read it. -/
def sizeText (bytes : Int) : Command m String :=
  orFail (fun f => ⟨ByteSize.Fault.message f, []⟩) (ByteSize.describe bytes)

def fileSize (host : Host m) (path : String) : Command m String := do
  let bytes ← orFail (fun f => Report.within ("reading " ++ path) ⟨f.message, []⟩)
    (← lift (host.files.size (.ofText path)))
  sizeText bytes

end SavedGames.Tool
