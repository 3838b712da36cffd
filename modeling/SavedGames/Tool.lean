import SavedGames.Catalogue.Companion
import SavedGames.Catalogue.Content
import SavedGames.Game.Restore
import SavedGames.Game.Sample
import SavedGames.Instant.Rfc3339
import SavedGames.Snapshot.Resume
import SavedGames.Tool.Command

/-! The command line: makes, shows, resumes and catalogues saved games. -/
namespace SavedGames.Tool

variable {m : Type → Type} [Monad m]

section Catalogues

/-- The directory of a file is made if it does not exist. -/
def makeParent (host : Host m) (path : String) : Command m Unit := do
  match (Path.ofText path).parent? with
  | none => pure ()
  | some directory =>
    orFail (fun f => Report.within ("creating " ++ directory.text) ⟨FileFault.message f, []⟩)
      (← lift (host.files.makeDirectories directory.text))

def refused (fault : CatalogueFault) : Command m α := saved (.error (.catalogue fault))

/-- Makes a catalogue of a file that holds none yet. -/
def makeCatalogue (host : Host m) (name : String) (file : FileName) (access : Catalogue.Access) :
    Command m Catalogue := do
  if access = .read then refused .notWritable
  match ← lift (host.files.write file Catalogue.empty.content) with
  | .ok () => return .empty
  | .error _ => refused (.notOpened name)

/-- The catalogue in a file, and whether it is new. A file is made if it may be. -/
def readCatalogue (host : Host m) (name : String) (file : FileName) (access : Catalogue.Access) :
    Command m (Catalogue × Bool) := do
  match ← lift (host.files.read file) with
  | .ok bytes =>
    if Catalogue.isBlank bytes then return (← makeCatalogue host name file access, true)
    return (← saved ((Catalogue.ofContent bytes).mapError .catalogue), false)
  | .error .notFound =>
    if access ≠ .readWriteCreate then refused (.notOpened name)
    return (← makeCatalogue host name file access, true)
  | .error _ => refused (.notOpened name)

/-- Lets the files beside that of a catalogue become what the opening makes of them. -/
def settleCompanion (host : Host m) (fate : Option ByteArray → Catalogue.Fate) (name : FileName) :
    Command m Unit := do
  let before := (← lift (host.files.read name)).toOption
  match fate before with
  | .stays => pure ()
  | .goes => discard (lift (host.files.remove name))
  | .becomes bytes => discard (lift (host.files.write name bytes))

/-- The catalogue with the given name, and where it is kept. -/
def openCatalogue (host : Host m) (name : String) :
    Command m (Catalogue.Location × Catalogue) := do
  makeParent host name
  let location ← saved ((Catalogue.Location.ofName name).mapError .catalogue)
  match location with
  | .temporary => return (location, .empty)
  | .file file access upkeep =>
    let (c, isNew) ← readCatalogue host name file access
    for companion in Catalogue.Companion.all do
      settleCompanion host (companion.fate access upkeep isNew) (companion.fileName file)
    return (location, c)

def keepCatalogue (host : Host m) (location : Catalogue.Location) (c : Catalogue) :
    Command m Unit := do
  match location with
  | .temporary => pure ()
  | .file _ .read _ => refused .notWritable
  | .file file _ _ =>
    saved (← lift (Except.mapError SaveError.file <$> host.files.write file c.content))

/-- Adds a snapshot to a catalogue, and gives its identifier. -/
def catalogueSave (host : Host m) (name : String) (s : Snapshot) (savedAt : Instant) :
    Command m String := do
  let (location, c) ← openCatalogue host name
  let id ← lift host.freshId
  keepCatalogue host location (c.insert id s savedAt)
  return id

end Catalogues

def seatLine (seat : Nat) (s : SeatRecord) : String :=
  let start := "  seat " ++ seatText seat ++ ": "
  if s.vacant then start ++ "(vacant)"
  else
    let kind := match s.isRobot, s.robotClass with
      | false, _ => "human"
      | true, some robotClass => "robot " ++ robotClass
      | true, none => "robot"
    start ++ s.name.getD "?" ++ " (" ++ kind ++ ") | VP " ++ Decimal.text s.totalVp.toInt ++
      " | pieces " ++ Decimal.text s.pieces.length ++ " | cards " ++
      Decimal.text s.newCards.length ++ "+" ++ Decimal.text s.oldCards.length

def seatJson (seat : Nat) (s : SeatRecord) : Json :=
  .obj [("seat", .natural seat), ("name", .optional .str s.name), ("vacant", .bool s.vacant),
    ("robot", .bool s.isRobot), ("total_vp", .int32 s.totalVp),
    ("pieces", .natural s.pieces.length),
    ("dev_cards", .natural (s.newCards.length + s.oldCards.length)),
    ("has_fortress", .bool s.fortress.isSome)]

def listingLine (l : Listing) (size : String) : String :=
  let time := String.ofList (l.savedAt.dateChars ++ ' ' :: l.savedAt.timeChars)
  String.intercalate " | "
    [l.id, l.name, "v" ++ Decimal.text l.version.toInt, l.phase.text, time, size]

/-- The age of a game made for a demonstration, in seconds. -/
def demoAge : Int := 40 * 60

def runDemo (host : Host m) (config : Config) (args : List String) : Command m Unit := do
  let seed := numberOf "--seed" args 42
  let players := numberOf "--players" args config.demoPlayers
  let directory := (valueOf? "--out" args).getD config.saveDir
  if players = 0 then fail "--players must be at least 1"
  let now ← lift host.now
  match (now.subSeconds? demoAge).bind (Game.sample? seed players.toNat) with
  | none => fail "--players is too large"
  | some game =>
    let s ← saved (game.capture now)
    let path ← saved (← lift (s.saveTo host.files directory config.pretty).run)
    say "saved-game demo"
    say ("  seed:    " ++ Decimal.text seed.toNat)
    say ("  game:    " ++ s.name)
    say ("  state:   " ++ s.phase.text)
    say ("  board:   " ++ s.board.layout.encoding.name)
    say ("  file:    " ++ path)
    say ("  size:    " ++ (← fileSize host path))
    match valueOf? "--db" args with
    | none => pure ()
    | some db => say ("  stored:  " ++ (← catalogueSave host db s now))

def runInspect (host : Host m) (args : List String) : Command m Unit := do
  let path ← operand args "inspect FILE"
  let s ← loadFile host path
  if args.contains "--json" then
    say (Json.arr (s.seats.mapIdx seatJson)).prettyText
  else
    say ("=== " ++ s.name ++ " ===")
    say ("  model version:  " ++ Decimal.text s.version.toInt)
    say ("  min version:    " ++ Decimal.text s.minVersion.toInt)
    say ("  state:          " ++ s.phase.text)
    say ("  current player: " ++ Decimal.text s.currentPlayer.toInt)
    say ("  dice:           " ++ Decimal.text s.dice.toInt)
    say ("  duration:       " ++ Decimal.text s.duration.toInt ++ "s")
    say ("  options:        " ++ s.options.getD "(defaults)")
    say ("  board:          " ++ s.board.layout.encoding.name)
    say ("  constraints:    " ++ Decimal.text s.constraints.length)
    say ("  size:           " ++ (← fileSize host path))
    say ""
    for line in s.seats.mapIdx seatLine do say line

def runResume (host : Host m) (config : Config) (args : List String) : Command m Unit := do
  let path ← operand args "resume FILE"
  let ignore := config.ignoreConstraints || args.contains "--ignore-constraints"
  let s ← loadFile host path
  let game ← saved (Game.restore s (← lift host.now))
  say ("loaded '" ++ game.name ++ "' in state " ++ game.phase.text)
  let game ← orFail (fun e => (Report.ofSaveError e).within ("resuming " ++ path))
    ((s.resume ignore []).changed game)
  say ("resumed '" ++ game.name ++ "' in state " ++ game.phase.text)

def runList (host : Host m) (config : Config) (args : List String) : Command m Unit := do
  let db := (valueOf? "--db" args).getD config.cataloguePath
  let listings ← saved (← openCatalogue host db).2.list
  if listings.isEmpty then say ("(no saved games in " ++ db ++ ")")
  for l in listings do
    say (listingLine l (← sizeText l.bytes))

def runImport (host : Host m) (config : Config) (args : List String) : Command m Unit := do
  let path ← operand args "import FILE"
  let db := (valueOf? "--db" args).getD config.cataloguePath
  let s ← loadFile host path
  let id ← catalogueSave host db s (← lift host.now)
  say ("imported '" ++ s.name ++ "' as " ++ id)

def usage : String := "usage: savegame-tool <demo|inspect|resume|list|import> [options]"

def dispatch (host : Host m) (config : Config) (args : List String) : Command m Unit :=
  match args with
  | [] => say usage
  | "demo" :: _ => runDemo host config args
  | "inspect" :: _ => runInspect host args
  | "resume" :: _ => runResume host config args
  | "list" :: _ => runList host config args
  | "import" :: _ => runImport host config args
  | other :: _ => do
    say usage
    fail ("unknown command: " ++ other)

/-- Every command takes a file with settings. -/
def command (host : Host m) (args : List String) : Command m Unit := do
  let config ← match valueOf? "--config" args with
    | none => pure Config.defaults
    | some path => orFail (Report.ofConfigFault path) (← lift (Config.load host.files path))
  dispatch host config args

/-- Runs the tool with its arguments, without the name of the program. -/
def run (host : Host m) (args : List String) : m Outcome := do
  let (result, lines) ← (command host args).run.run []
  let failure := match result with
    | .ok () => none
    | .error report => some report
  return ⟨String.join (lines.map (· ++ "\n")), failure⟩

end SavedGames.Tool
