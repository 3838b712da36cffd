import SavedGames.Cell
import SavedGames.Options
import SavedGames.Snapshot
import SavedGames.Text.Blank

/-! Why a game cannot be saved, loaded or resumed. -/
namespace SavedGames

/-- What is wrong with a snapshot that could be read. -/
inductive SnapshotFault where
  | emptyName
  | noSeats
  | currentPlayerOutOfRange (player : Int32) (seats : Nat)
  | phaseNotResumable (phase : Phase)
  | negativeDuration
  | potentialsWithoutSeat (seat : SeatNumber) (seats : Nat)
  | vacantSeatInPlay (seat : Nat)
  | misownedPiece (seat : Nat) (piece : Piece)
  | missingPart (key : String)
  deriving DecidableEq, Repr

/-- What goes wrong with a file or a directory. -/
inductive FileFault where
  | notFound
  | isDirectory
  | notDirectory
  | alreadyExists
  | nameTooLong
  | nulInPath
  | notText
  | other (message : String)
  deriving DecidableEq, Repr

/-- What goes wrong with the catalogue. -/
inductive CatalogueFault where
  | notMigrated
  | notCatalogue
  | nulInName (index : Nat)
  | badName (reason : String)
  | notOpened (name : String)
  | notWritable
  | notInteger (kind : Cell.Kind) (index : Nat) (column : String)
  | outOfRange (n : Int) (index : Nat)
  | notTime (ms : Int)
  deriving DecidableEq, Repr

inductive SaveError where
  | notSavable (phase : Phase)
  | unsupportedLayout (type : Int32) (typeName : String)
  | notLoading (phase : Phase)
  | unmetConstraint (name reason : String)
  | unsupportedItem (seat : Nat) (type : Int32)
  | missingSeat (seat maxPlayers : Nat)
  | incompatibleVersion (version : Int32)
  | engineTooOld (version : Int32)
  | invalid (fault : SnapshotFault)
  | options (fault : OptionsFault)
  | serialization (fault : Json.Fault)
  | file (fault : FileFault)
  | catalogue (fault : CatalogueFault)
  /-- The game would have begun before the first instant. -/
  | unrepresentableTime
  deriving DecidableEq, Repr

def SnapshotFault.message : SnapshotFault → String
  | emptyName => "game name is empty"
  | noSeats => "no player seats"
  | currentPlayerOutOfRange player seats =>
    "current player " ++ Decimal.text player.toInt ++ " out of range for " ++
      Decimal.text seats ++ " seats"
  | phaseNotResumable phase => "game state " ++ phase.text ++ " can't be resumed"
  | negativeDuration => "negative game duration"
  | potentialsWithoutSeat seat seats =>
    "potential settlements for seat " ++ seatText seat.toNat ++ ", but only " ++
      Decimal.text seats ++ " seats"
  | vacantSeatInPlay seat =>
    "seat " ++ seatText seat ++ " is vacant but has pieces, cards or elements"
  | misownedPiece seat piece =>
    "seat " ++ seatText seat ++ " lists a " ++ piece.kind.name ++ " owned by seat " ++
      seatText piece.owner.toNat
  | missingPart key => "board layout is missing part '" ++ key ++ "'"

def FileFault.message : FileFault → String
  | notFound => "No such file or directory (os error 2)"
  | isDirectory => "Is a directory (os error 21)"
  | notDirectory => "Not a directory (os error 20)"
  | alreadyExists => "File exists (os error 17)"
  | nameTooLong => "File name too long (os error 36)"
  | nulInPath => "file name contained an unexpected NUL byte"
  | notText => "stream did not contain valid UTF-8"
  | other message => message

def timeRefusal (ms : Int) : String :=
  "saved_at " ++ Decimal.text ms ++ " is not a valid timestamp"

def CatalogueFault.message : CatalogueFault → String
  | notMigrated => "no such table: saved_game"
  | notCatalogue => "file is not a database"
  | nulInName index =>
    "nul byte found in provided data at position: " ++ Decimal.text index
  | badName reason => reason
  | notOpened name => "unable to open database file: " ++ name
  | notWritable => "attempt to write a readonly database"
  | notInteger kind index column =>
    "Invalid column type " ++ kind.name ++ " at index: " ++ Decimal.text index ++ ", name: " ++
      column
  | outOfRange n index =>
    "Integer " ++ Decimal.text n ++ " out of range at index " ++ Decimal.text index
  | notTime ms => "Conversion error from type Integer at index: 4, " ++ timeRefusal ms

/-- What a fault was made from, if it was made from another one. -/
def CatalogueFault.origin? : CatalogueFault → Option String
  | notTime ms => some (timeRefusal ms)
  | nulInName index => some (nulInName index).message
  | _ => none

def faultText : Json.Fault → String
  | .malformed => "malformed text"
  | .unfit misfit => misfit.message

def SaveError.message : SaveError → String
  | notSavable phase =>
    "Game state " ++ phase.text ++ " is not savable: saving needs " ++ Phase.rollOrCard.text ++
      " or later, outside loading"
  | unsupportedLayout type typeName =>
    "Unexpected board layout message type " ++ Decimal.text type.toInt ++ " (" ++ typeName ++ ")"
  | notLoading phase =>
    "Cannot resume: game state is " ++ phase.text ++ ", expected " ++ Phase.loading.text
  | unmetConstraint name reason => "Resume constraint '" ++ name ++ "' not met: " ++ reason
  | unsupportedItem seat type =>
    "Seat " ++ seatText seat ++ " holds inventory item type " ++ Decimal.text type.toInt ++
      ", which saved games cannot store"
  | missingSeat seat maxPlayers =>
    "Seat " ++ seatText seat ++ " not found (max players: " ++ Decimal.text maxPlayers ++ ")"
  | incompatibleVersion version =>
    "Saved game model version " ++ Decimal.text version.toInt ++ " not loadable (supported: " ++
      Decimal.text modelVersion.toInt ++ "..=" ++ Decimal.text modelVersion.toInt ++ ")"
  | engineTooOld version =>
    "Saved game requires version " ++ Decimal.text version.toInt ++ ", this build is " ++
      Decimal.text engineVersion.toInt
  | invalid fault => "Invalid saved game: " ++ fault.message
  | options fault => fault.message
  | serialization fault => "Serialization error: " ++ faultText fault
  | file fault => "I/O error: " ++ fault.message
  | catalogue fault => "Database error: " ++ fault.message
  | unrepresentableTime => "time out of range"

end SavedGames
