import SavedGames.Session

/-! A snapshot of a session. Nothing is left out silently: a session that holds what a snapshot
cannot is refused. -/
namespace SavedGames

namespace SeatView

/-- The kinds of pieces whose stocks are saved, from the highest rank to the lowest: ships only on a
board with a sea. -/
def stocked (hasSea : Bool) : List PieceKind :=
  let top := if hasSea then .ship else .city
  PieceKind.buildable.reverse.filter fun kind => (compare kind top).isLE

/-- The resources by code, the knights, the stocks, and the warships if there are any. -/
def elements (v : SeatView) (hasSea : Bool) : Elements :=
  Resource.all.map (fun r => (.resource r, v.resource r)) ++ [(.knights, v.knights)] ++
    (stocked hasSea).filterMap
      (fun kind => (Element.stockOf? kind).map fun tag => (tag, v.stock kind)) ++
    if v.warships = 0 then [] else [(.warships, v.warships)]

def cards (seat : Nat) : List Item → Except SaveError (List Card)
  | [] => .ok []
  | .card c :: items => (cards seat items).map (c :: ·)
  | .special type :: _ => .error (.unsupportedItem seat type)

def capture (v : SeatView) (seat : Nat) (vacant hasSea : Bool) : Except SaveError SeatRecord :=
  if vacant then .ok .empty
  else do
    let newCards ← cards seat (v.items .new)
    let oldCards ← cards seat (v.items .playable ++ v.items .kept)
    return {
      name := v.name
      vacant := false
      totalVp := v.totalVp
      isRobot := v.isRobot
      isBuiltInRobot := v.isBuiltInRobot
      robotClass := v.robotClass
      faceId := v.faceId
      elements := v.elements hasSea
      newCards
      oldCards
      pieces := v.pieces
      fortress := v.fortress }

end SeatView

namespace Session

/-- The records of `count` seats from `seat` on. -/
def captureSeats (s : Session) : Nat → Nat → Except SaveError (List SeatRecord)
  | 0, _ => .ok []
  | count + 1, seat =>
    match s.seat? seat with
    | none => .error (.missingSeat seat s.maxPlayers)
    | some view => do
      let record ← view.capture seat (s.isVacant seat) s.hasSea
      let records ← captureSeats s count (seat + 1)
      return record :: records

/-- The phase is looked at first, then the layout, then the seats one by one. -/
def capture (s : Session) (board : Projection) (now : Instant) : Except SaveError Snapshot :=
  if s.phase.isSavable then
    match board.layout with
    | .other type typeName => .error (.unsupportedLayout type typeName)
    | .known layout => do
      let seats ← s.captureSeats s.maxPlayers 0
      return {
        version := modelVersion
        minVersion := s.minVersion
        name := s.name
        options := s.options.map Options.pack
        duration := Instant.elapsedSeconds s.startTime now
        currentPlayer := s.currentPlayer
        phase := s.phase
        dice := s.dice
        board := ⟨layout, board.potentials .every⟩
        seats
        constraints := [] }
  else .error (.notSavable s.phase)

end Session
end SavedGames
