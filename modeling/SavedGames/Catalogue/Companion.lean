import SavedGames.Catalogue.Location

/-! Files beside that of a catalogue, with longer names, in which changes are kept until they are in
the file itself. Nobody leaves changes behind: what stands in such a file when a catalogue is opened
says nothing about it, and only whether the file is still there afterwards has to be settled. -/
namespace SavedGames.Catalogue

inductive Companion where
  /-- Changes that are not yet in the file of the catalogue. -/
  | log
  /-- Where in the log to find what. -/
  | index
  /-- What stood in the file of the catalogue before a change. -/
  | journal
  deriving DecidableEq, Repr

/-- What becomes of a companion. -/
inductive Fate where
  | stays
  | goes
  | becomes (bytes : ByteArray)

namespace Companion

def all : List Companion := [log, index, journal]

def ending : Companion → String
  | log => "-wal"
  | index => "-shm"
  | journal => "-journal"

/-- The companion of the catalogue in a file. -/
def fileName (file : FileName) (c : Companion) : FileName := file.extended c.ending

/-- An index is no text. -/
def indexContent : ByteArray := ⟨#[0xFF, 0xFF]⟩

/-- A journal with nothing in it, or without a mark at its beginning, is not looked at. -/
def isIdle (bytes : ByteArray) : Bool := (bytes.data[0]?.getD 0) == 0

/-- What a catalogue that is only read does to a companion. Its reader needs the log, empty or not,
and writes down in the index of it that there is a reader. -/
def fateInReading (upkeep : Upkeep) (c : Companion) (before : Option ByteArray) : Fate :=
  match upkeep, c with
  | .logged, log | .loggedAlone, log => if before.isSome then .stays else .becomes .empty
  | .logged, index | .loggedAlone, index => .becomes indexContent
  | _, _ => .stays

/-- What a catalogue that may be changed does to a companion with the given content. A catalogue is
made under a journal, so that none is left of one that is new. -/
def fateInWriting (upkeep : Upkeep) (isNew : Bool) (c : Companion) (before : ByteArray) : Fate :=
  match upkeep, c with
  | .frozen, _ => .stays
  | .logged, log | .loggedAlone, log => .goes
  | .direct, log => if before.isEmpty then .stays else .goes
  | .logged, index => .goes
  | .loggedAlone, index | .direct, index => .stays
  | _, journal => if isNew || !isIdle before then .goes else .stays

/-- What becomes of a companion when a catalogue has been opened. -/
def fate (access : Access) (upkeep : Upkeep) (isNew : Bool) (c : Companion)
    (before : Option ByteArray) : Fate :=
  match access, before with
  | .read, before => fateInReading upkeep c before
  | _, none => .stays
  | _, some before => fateInWriting upkeep isNew c before

end Companion
end SavedGames.Catalogue
