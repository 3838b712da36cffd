import Mathlib
import SavedGames.Snapshot.Capture
import SavedGames.Proofs.Checks
import SavedGames.Proofs.Instant
import SavedGames.Proofs.Lists

/-!
# What a session is saved as

A session of any kind is saved if its phase and its layout allow it, each seat has a player, and the
occupied seats hold nothing but cards. Otherwise the first obstacle is reported. The record of an
occupied seat keeps the whole player, and that of a vacant seat is empty.
-/
namespace SavedGames

/-- The tags in the order in which they are listed, the stocks from the highest rank down. -/
def Element.listed : List Element :=
  Resource.all.map .resource ++ [.knights, .ships, .cities, .settlements, .roads, .warships]

theorem Element.nodup_listed : Element.listed.Nodup := by
  simp [listed, Resource.all]

theorem Element.mem_listed (tag : Element) : tag ∈ Element.listed := by
  cases tag with
  | resource r => cases r <;> simp [listed, Resource.all]
  | _ => simp [listed]

/-- How much the player of a seat has of a counted thing. -/
def SeatView.count (v : SeatView) : Element → Int32
  | .resource r => v.resource r
  | .roads => v.stock .road
  | .settlements => v.stock .settlement
  | .cities => v.stock .city
  | .ships => v.stock .ship
  | .knights => v.knights
  | .warships => v.warships

/-- Ships are listed on a board with a sea, warships if there are any, and all else always. -/
def SeatView.lists (v : SeatView) (hasSea : Bool) : Element → Bool
  | .ships => hasSea
  | .warships => v.warships != 0
  | _ => true

/-- What is listed of a player stands there once, in order and with its value. -/
structure Elements.AreOf (es : Elements) (v : SeatView) (hasSea : Bool) : Prop where
  tags : es.map Prod.fst = Element.listed.filter (v.lists hasSea)
  once (tag : Element) : (es.map Prod.fst).count tag = if v.lists hasSea tag then 1 else 0
  value : ∀ e ∈ es, e.2 = v.count e.1

/-- Of the kinds of pieces only the last one depends on the board. -/
theorem SeatView.stocked_eq (hasSea : Bool) :
    stocked hasSea = (if hasSea then [.ship] else []) ++ [.city, .settlement, .road] := by
  cases hasSea <;> rfl

theorem SeatView.elements_eq (v : SeatView) (hasSea : Bool) :
    v.elements hasSea =
      (Element.listed.filter (v.lists hasSea)).map fun tag => (tag, v.count tag) := by
  by_cases none : v.warships = 0 <;> cases hasSea <;>
    simp [elements, stocked_eq, Element.stockOf?, Element.listed, Resource.all, List.filter_cons,
      lists, count, none]

theorem SeatView.elements_areOf (v : SeatView) (hasSea : Bool) :
    (v.elements hasSea).AreOf v hasSea := by
  have tags : (v.elements hasSea).map Prod.fst = Element.listed.filter (v.lists hasSea) := by
    rw [elements_eq, List.map_map]
    exact List.map_id _
  refine ⟨tags, fun tag => ?_, fun e he => ?_⟩
  · rw [tags, (Element.nodup_listed.filter _).count]
    simp [Element.mem_listed]
  · rw [elements_eq] at he
    obtain ⟨tag, -, rfl⟩ := List.mem_map.mp he
    rfl

/-- Only a card can be saved. -/
def Item.requirement (seat : Nat) (item : Item) : Requirement :=
  ⟨∃ c, item = .card c, .unsupportedItem seat item.code⟩

namespace SeatView

variable {v : SeatView} {seat : Nat} {hasSea : Bool}

theorem reports_cards (seat : Nat) (items : List Item) :
    Reports ((cards seat items).map fun _ => ()) (items.map (Item.requirement seat)) := by
  induction items with
  | nil => exact .nil
  | cons item items ih =>
    rw [List.map_cons]
    cases item with
    | card c =>
      have same : (cards seat (.card c :: items)).map (fun _ => ()) =
          (cards seat items).map fun _ => () := by
        rw [cards]
        cases cards seat items <;> rfl
      exact .cons (fun _ => same) (fun other => absurd ⟨c, rfl⟩ other) ih
    | special type =>
      exact .cons (fun ⟨c, isCard⟩ => by cases isCard) (fun _ => rfl) ih

theorem map_card_of_cards {items : List Item} {cs : List Card} (h : cards seat items = .ok cs) :
    cs.map .card = items := by
  induction items generalizing cs with
  | nil =>
    cases h
    rfl
  | cons item items ih =>
    cases item with
    | card c =>
      rw [cards] at h
      cases rest : cards seat items with
      | error e =>
        rw [rest] at h
        cases h
      | ok ds =>
        rw [rest] at h
        cases h
        rw [List.map_cons, ih rest]
    | special type => cases h

/-- Each item of an occupied seat must be a card. They are looked at holding by holding. -/
def requirements (v : SeatView) (seat : Nat) (vacant : Bool) : List Requirement :=
  if vacant then [] else (Holding.all.flatMap v.items).map (Item.requirement seat)

theorem reports_capture (v : SeatView) (seat : Nat) (vacant hasSea : Bool) :
    Reports ((v.capture seat vacant hasSea).map fun _ => ()) (v.requirements seat vacant) := by
  cases vacant with
  | true => exact .nil
  | false =>
    have items : Holding.all.flatMap v.items =
        v.items .new ++ (v.items .playable ++ v.items .kept) := by
      simp [Holding.all]
    rw [requirements, if_neg Bool.false_ne_true, items, List.map_append]
    exact (reports_cards seat _).andThen fun _ _ => (reports_cards seat _).ending

end SeatView

/-- The record has everything that belongs to the player, with the items by their holdings. -/
structure SeatRecord.IsOf (r : SeatRecord) (v : SeatView) (hasSea : Bool) : Prop where
  vacant : r.vacant = false
  name : r.name = v.name
  totalVp : r.totalVp = v.totalVp
  isRobot : r.isRobot = v.isRobot
  isBuiltInRobot : r.isBuiltInRobot = v.isBuiltInRobot
  robotClass : r.robotClass = v.robotClass
  faceId : r.faceId = v.faceId
  elements : r.elements.AreOf v hasSea
  newCards : r.newCards.map .card = v.items .new
  oldCards : r.oldCards.map .card = v.items .playable ++ v.items .kept
  pieces : r.pieces = v.pieces
  fortress : r.fortress = v.fortress

theorem SeatView.isOf_of_capture {v : SeatView} {seat : Nat} {hasSea : Bool} {r : SeatRecord}
    (h : v.capture seat false hasSea = .ok r) : r.IsOf v hasSea := by
  obtain ⟨newCards, new, h⟩ := bind_eq_ok.mp h
  obtain ⟨oldCards, old, h⟩ := bind_eq_ok.mp h
  cases h
  exact ⟨rfl, rfl, rfl, rfl, rfl, rfl, rfl, v.elements_areOf hasSea, map_card_of_cards new,
    map_card_of_cards old, rfl, rfl⟩

namespace Session

variable {s : Session} {board : Projection} {now : Instant}

/-- The record of the seat is empty or that of its player. -/
def HasRecord (s : Session) (seat : Nat) (r : SeatRecord) : Prop :=
  if s.isVacant seat then r = .empty else ∃ v, s.seat? seat = some v ∧ r.IsOf v s.hasSea

/-- Even a vacant seat has a player. -/
def seatRequirements (s : Session) (seat : Nat) : List Requirement :=
  match s.seat? seat with
  | none => [⟨False, .missingSeat seat s.maxPlayers⟩]
  | some v => v.requirements seat (s.isVacant seat)

theorem reports_captureSeats (s : Session) (count first : Nat) :
    Reports ((s.captureSeats count first).map fun _ => ())
      ((List.range' first count).flatMap s.seatRequirements) := by
  induction count generalizing first with
  | zero => exact .nil
  | succ count ih =>
    rw [List.range'_succ, List.flatMap_cons, captureSeats, seatRequirements]
    cases s.seat? first with
    | none =>
      exact .stopped (.failed fun holds => holds)
    | some v =>
      refine (v.reports_capture first _ s.hasSea).andThen fun record _ => ?_
      exact (ih (first + 1)).ending

theorem seats_of_captureSeats {count first : Nat} {rs : List SeatRecord}
    (h : s.captureSeats count first = .ok rs) :
    rs.length = count ∧
      ∀ (i : Nat) (r : SeatRecord), rs[i]? = some r → s.HasRecord (first + i) r := by
  induction count generalizing first rs with
  | zero =>
    cases h
    simp
  | succ count ih =>
    rw [captureSeats] at h
    cases there : s.seat? first with
    | none =>
      rw [there] at h
      cases h
    | some v =>
      rw [there] at h
      obtain ⟨r, here, h⟩ := bind_eq_ok.mp h
      obtain ⟨records, others, h⟩ := bind_eq_ok.mp h
      cases h
      obtain ⟨length, rest⟩ := ih others
      refine ⟨by rw [List.length_cons, length], forall_getElem?_cons.mpr ⟨?_, rest⟩⟩
      cases vacant : s.isVacant first with
      | true =>
        rw [vacant] at here
        cases here
        rw [HasRecord, if_pos vacant]
      | false =>
        rw [vacant] at here
        rw [HasRecord, vacant, if_neg Bool.false_ne_true]
        exact ⟨v, there, SeatView.isOf_of_capture here⟩

/-- The phase is past the initial placement, and the game does not wait to be resumed. -/
def phaseRequirement (s : Session) : Requirement :=
  ⟨Phase.rollOrCard.code ≤ s.phase.code ∧ s.phase ≠ .loading ∧ s.phase ≠ .loadingResuming,
    .notSavable s.phase⟩

/-- The layout has one of the known shapes. -/
def layoutRequirements : LayoutMessage → List Requirement
  | .known _ => []
  | .other type typeName => [⟨False, .unsupportedLayout type typeName⟩]

/-- What is looked at when a session is saved, in this order. -/
def requirements (s : Session) (board : Projection) : List Requirement :=
  s.phaseRequirement :: layoutRequirements board.layout ++
    (List.range s.maxPlayers).flatMap s.seatRequirements

theorem isSavable_iff : s.phase.isSavable = true ↔ s.phaseRequirement.holds := by
  simp [Phase.isSavable, Phase.isLoading, phaseRequirement]

theorem reports_capture (s : Session) (board : Projection) (now : Instant) :
    Reports ((s.capture board now).map fun _ => ()) (s.requirements board) := by
  rw [requirements, List.cons_append, capture]
  by_cases savable : s.phase.isSavable = true
  · rw [if_pos savable]
    refine .cons (fun _ => rfl) (fun fails => absurd (isSavable_iff.mp savable) fails) ?_
    cases board.layout with
    | known layout =>
      rw [layoutRequirements, List.nil_append, List.range_eq_range']
      exact (s.reports_captureSeats _ 0).ending
    | other type typeName =>
      exact .stopped (.failed fun holds => holds)
  · rw [if_neg savable]
    exact .stopped (.failed fun holds => savable (isSavable_iff.mpr holds))

theorem seats_of_capture {m : Snapshot} (h : s.capture board now = .ok m) :
    s.captureSeats s.maxPlayers 0 = .ok m.seats := by
  rw [capture] at h
  split at h
  · split at h
    · cases h
    · obtain ⟨seats, captured, h⟩ := bind_eq_ok.mp h
      cases h
      exact captured
  · cases h

/-- A session is saved exactly if nothing is in the way, and otherwise the first obstacle is
reported. A save has a record for each seat: an empty one for a vacant seat, and for an occupied
seat one with everything that belongs to the player. -/
theorem capture_outcome (s : Session) (board : Projection) (now : Instant) :
    (∀ e, s.capture board now = .error e ↔ FirstFault (s.requirements board) e) ∧
    ((∃ m, s.capture board now = .ok m) ↔ ∀ r ∈ s.requirements board, r.holds) ∧
    ∀ m, s.capture board now = .ok m → m.seats.length = s.maxPlayers ∧
      ∀ (i : Nat) (r : SeatRecord), m.seats[i]? = some r → s.HasRecord i r := by
  have reports := s.reports_capture board now
  refine ⟨fun e => ?_, ?_, fun m saved => ?_⟩
  · rw [← reports.error]
    cases s.capture board now <;> simp [Except.map]
  · rw [← reports.ok]
    cases s.capture board now <;> simp [Except.map]
  · obtain ⟨length, seats⟩ := seats_of_captureSeats (seats_of_capture saved)
    exact ⟨length, fun i r there => Nat.zero_add i ▸ seats i r there⟩

/-- A player with one point and the items. -/
def guest (items : Holding → List Item) : SeatView where
  name := some "Ada"
  totalVp := 1
  isRobot := false
  isBuiltInRobot := false
  robotClass := none
  faceId := 1
  resource _ := 2
  knights := 0
  stock _ := 4
  warships := 0
  items
  pieces := []
  fortress := none

def cardHolder : SeatView := guest fun | .kept => [.card .chapel] | _ => []

/-- The first seats of a table: one that its player left with a token in the hand, one with a card,
one with a card and two tokens, and one without a player. -/
def crowded (maxPlayers : Nat) : Session where
  name := "harbour"
  options := none
  startTime := .epoch
  currentPlayer := 1
  phase := .play
  minVersion := 1000
  dice := 0
  maxPlayers
  hasSea := false
  isVacant i := i == 0
  seat? i := [guest fun _ => [.special 7], cardHolder, guest fun
    | .new => [.card .knight]
    | .playable => [.special 3]
    | .kept => [.special 7]][i]?

/-- A board without anything to build on. -/
def bare : Projection := ⟨.known (.positional ⟨[3, 4], [8], 1⟩), fun _ => []⟩

/-- The first token at a taken seat is in the way. A table of only two seats is saved. -/
theorem crowded_captured :
    (crowded 4).capture bare (.mk 2000 0) = .error (.unsupportedItem 2 3) ∧
      ∃ m r, (crowded 2).capture bare (.mk 2000 0) = .ok m ∧ m.seats = [.empty, r] ∧
        r.IsOf cardHolder false := by
  obtain ⟨error, -, -⟩ := capture_outcome (crowded 4) bare (.mk 2000 0)
  obtain ⟨-, saved, kept⟩ := capture_outcome (crowded 2) bare (.mk 2000 0)
  have phase (maxPlayers : Nat) : (crowded maxPlayers).phaseRequirement.holds :=
    isSavable_iff.mp rfl
  have card (seat : Nat) (c : Card) : (Item.requirement seat (.card c)).holds := ⟨c, rfl⟩
  constructor
  · refine (error _).mpr
      ⟨[_, Item.requirement 1 (.card .chapel), Item.requirement 2 (.card .knight)],
        Item.requirement 2 (.special 3), _, rfl, ?_, nofun, rfl⟩
    simp [phase, card]
  · have all : ∀ r ∈ [(crowded 2).phaseRequirement, Item.requirement 1 (.card .chapel)],
        r.holds := by
      simp [phase, card]
    obtain ⟨m, captured⟩ := saved.mpr all
    obtain ⟨size, seats⟩ := kept m captured
    obtain ⟨first, second, table⟩ := List.length_eq_two.mp size
    rw [table] at seats
    obtain rfl : first = .empty := seats 0 first rfl
    obtain ⟨v, there, keeps⟩ : ∃ v, (crowded 2).seat? 1 = some v ∧ second.IsOf v false :=
      seats 1 second rfl
    cases there
    exact ⟨m, second, captured, table, keeps⟩

end Session
end SavedGames
