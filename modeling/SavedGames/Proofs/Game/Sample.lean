import Mathlib
import SavedGames.Game.Sample
import SavedGames.Proofs.Generator
import SavedGames.Proofs.Game.Stock
import SavedGames.Proofs.Game.Whole

/-!
# Sample games are kept whole

Whatever is drawn for a sample game, a save keeps all of it: the seats hold sorted hands of cards
and pieces of their own, there are no ships without a sea, and a vacant seat is fresh.
-/
namespace SavedGames

namespace Stock

/-- Only a change of the ships changes the ships. -/
theorem ships_of_add? {s t : Stock} {kind : PieceKind} {n : Int32} (h : s.add? kind n = some t)
    (other : kind ≠ .ship) : t.ships = s.ships := by
  obtain ⟨count, -, rfl⟩ := Option.map_eq_some_iff.mp h
  cases kind <;> first | rfl | exact absurd rfl other

end Stock

namespace Player

variable {p q : Player} {hasSea : Bool} {i : Nat} {piece : Piece}

/-- A piece is placed behind those that stay, and only a ship is taken from the ships. -/
theorem place?_eq_some (h : p.place? piece = some q) :
    ∃ pieces stock, pieces.Sublist p.pieces ∧
      (piece.kind ≠ .ship → stock.ships = p.stock.ships) ∧
      q = { p with pieces := pieces ++ [piece], stock } := by
  rw [place?_ledger, Option.bind_eq_some_iff] at h
  obtain ⟨stock, back, h⟩ := h
  obtain ⟨stock', taken, rfl⟩ := Option.map_eq_some_iff.mp h
  have ships : stock.ships = p.stock.ships := by
    split at back
    · exact Stock.ships_of_add? back nofun
    · exact congrArg Stock.ships (Option.some.inj back).symm
  exact ⟨_, stock', List.eraseP_sublist,
    fun other => (Stock.ships_of_add? taken other).trans ships, rfl⟩

namespace Whole

theorem place (h : p.Whole hasSea i) (own : piece.owner.toNat = i)
    (afloat : piece.kind = .ship → hasSea = true) : (p.place piece).Whole hasSea i := by
  rw [Player.place]
  cases placed : p.place? piece with
  | none => exact h
  | some q =>
    obtain ⟨pieces, stock, sub, ships, rfl⟩ := place?_eq_some placed
    refine ⟨h.number, h.cards, h.sorted, fun dry => ?_, fun other mem => ?_⟩
    · have grounded : piece.kind ≠ .ship := fun ship => by simp [afloat ship] at dry
      exact (ships grounded).trans (h.ships dry)
    · have cases : other ∈ p.pieces ++ p.fortress.toList ∨ other = piece := by
        simp only [Option.getD_some, List.mem_append, List.mem_singleton] at mem ⊢
        rcases mem with (mem | rfl) | mem
        · exact .inl (.inl (sub.subset mem))
        · exact .inr rfl
        · exact .inl (.inr mem)
      rcases cases with mem | rfl
      · exact h.owned other mem
      · exact own

theorem hold {c : Card} {holding : Holding} (h : p.Whole hasSea i)
    (suits : holding = .new ∨ c.isVictoryPoint = (holding == .kept)) :
    (p.hold (.card c) holding).Whole hasSea i := by
  have both {items : List Item} {P : Item → Prop} (all : ∀ item ∈ items, P item)
      (last : P (.card c)) : ∀ item ∈ items ++ [.card c], P item := by
    simpa [or_imp, forall_and] using ⟨all, last⟩
  refine ⟨h.number, fun state => ?_, ?_, h.ships, h.owned⟩
  · have before := h.cards state
    cases holding <;> cases state <;> first | exact before | exact both before rfl
  · cases holding with
    | new => exact ⟨h.sorted.playable, h.sorted.kept⟩
    | playable => exact ⟨both h.sorted.playable (suits.resolve_left nofun), h.sorted.kept⟩
    | kept => exact ⟨h.sorted.playable, both h.sorted.kept (suits.resolve_left nofun)⟩

end Whole

end Player

/-- The second player is the first one, except for where it may build. -/
def Player.Relocates (p q : Player) : Prop :=
  ∃ nodes seaEdges, q = { p with potentialNodes := nodes, seaEdges := seaEdges }

/-- The second seat is the first one, except for where its player may build. -/
structure Seat.Relocates (s t : Seat) : Prop where
  player : s.player.Relocates t.player
  vacant : t.vacant = s.vacant

/-- Wherever it may build, as much is kept of a seat. -/
theorem Seat.Whole.relocated {hasSea : Bool} {i : Nat} {s t : Seat} (h : s.Whole hasSea i)
    (moved : s.Relocates t) : t.Whole hasSea i := by
  obtain ⟨nodes, seaEdges, there⟩ := moved.player
  constructor
  · intro vacant
    rw [there, h.idle (moved.vacant ▸ vacant)]
  · intro occupied
    have whole := h.player (moved.vacant ▸ occupied)
    rw [there]
    exact ⟨whole.number, whole.cards, whole.sorted, whole.ships, whole.owned⟩

/-- Where only the players were told where they may build, only that has changed at the seats. -/
theorem Game.seats_relocates {g : Game} {seats : List Seat}
    (players : List.Forall₂ Player.Relocates (seats.map Seat.player) g.players)
    (vacant : g.vacant = seats.map Seat.vacant) :
    List.Forall₂ Seat.Relocates seats g.seats := by
  have size : seats.length = g.seats.length := by
    rw [length_seats, maxPlayers, ← players.length_eq, List.length_map]
  refine List.forall₂_iff_get.mpr ⟨size, fun i here there => ?_⟩
  have inside : i < g.players.length := by simpa [maxPlayers] using there
  have moved := players.get (i := i) (by simpa using here) inside
  have vacancy : g.isVacant i = (seats.get ⟨i, here⟩).vacant := by
    simp [isVacant, vacant, here]
  have seat : g.seats.get ⟨i, there⟩ = ⟨g.players.get ⟨i, inside⟩, g.isVacant i⟩ := by
    simp [Game.seats]
  rw [seat]
  exact ⟨by simpa using moved, vacancy⟩

namespace Sample

open Generator

section Players

variable {hasSea : Bool} {i : Nat} {p : Player} (own : (UInt64.ofNat i).toNat = i)

include own in
theorem whole_settle (h : p.Whole hasSea i) (count : Nat) : (settle i p count).Whole hasSea i := by
  refine List.foldlRecOn _ _ h fun q hq n _ => ?_
  exact (hq.place own (by simp)).place own (by simp)

include own in
theorem whole_buildCities (h : p.Whole hasSea i) (count : Nat) :
    (buildCities i p count).Whole hasSea i :=
  List.foldlRecOn _ _ h fun _ hq _ _ => hq.place own nofun

include own in
theorem whole_launch (h : p.Whole true i) (count : Nat) : (launch i p count).Whole true i :=
  List.foldlRecOn _ _ h fun _ hq _ _ => hq.place own fun _ => rfl

theorem whole_robot (h : p.Whole hasSea i) : (robot i p).Always (Player.Whole hasSea i) := by
  unfold robot
  split
  · refine Draw.always_bind fun taken => ?_
    split
    · refine Draw.always_bind fun builtIn => Draw.always_pure ?_
      exact ⟨h.number, h.cards, h.sorted, h.ships, h.owned⟩
    · exact Draw.always_pure h
  · exact Draw.always_pure h

include own in
theorem whole_seafaring (h : p.Whole true i) : (seafaring i p).Always (Player.Whole true i) := by
  refine Draw.always_bind fun ships => Draw.always_bind fun warships => ?_
  have afloat := whole_launch own h ships
  have armed : Player.Whole true i { launch i p ships with warships } :=
    ⟨afloat.number, afloat.cards, afloat.sorted, afloat.ships, afloat.owned⟩
  dsimp only
  split
  · refine Draw.always_bind fun fortified => ?_
    split
    · refine Draw.always_bind fun strength => Draw.always_pure ?_
      refine ⟨armed.number, armed.cards, armed.sorted, armed.ships, fun piece mem => ?_⟩
      rcases List.mem_append.mp mem with mem | mem
      · exact armed.owned piece (List.mem_append_left _ mem)
      · obtain rfl := List.mem_singleton.mp mem
        exact own
    · exact Draw.always_pure armed
  · exact Draw.always_pure armed

theorem whole_draw {cards : List Card} {filled : cards ≠ []} {holding : Holding}
    (h : p.Whole hasSea i)
    (suits : ∀ c ∈ cards, holding = .new ∨ c.isVictoryPoint = (holding == .kept)) :
    (draw cards filled holding p).Always (Player.Whole hasSea i) :=
  (always_pick filled).bind fun c hc => Draw.always_pure (h.hold (suits c hc))

theorem whole_newCards (h : p.Whole hasSea i) : (newCards p).Always (Player.Whole hasSea i) := by
  refine Draw.always_bind fun lucky => ?_
  split
  · exact whole_draw h fun _ _ => .inl rfl
  · exact Draw.always_pure h

theorem whole_oldCards (count : Nat) (h : p.Whole hasSea i) :
    (oldCards count p).Always (Player.Whole hasSea i) := by
  induction count generalizing p with
  | zero => exact Draw.always_pure h
  | succ count ih =>
    have first : (draw playableCards (by decide) .playable p).Always (Player.Whole hasSea i) :=
      whole_draw h (by decide)
    exact first.bind fun q hq => ih hq

theorem whole_fresh (hasSea : Bool) (i : Nat) (name : Option String) (faceId : Int32) :
    Player.Whole hasSea i { Player.fresh i hasSea with name, faceId } where
  number := rfl
  cards holding := by cases holding <;> simp [Player.fresh, Hand.items]
  sorted := by constructor <;> simp [Player.fresh]
  ships dry := by simp [Player.fresh, Stock.full, dry]
  owned := by simp [Player.fresh]

include own in
theorem whole_player (hasSea : Bool) : (player i hasSea).Always (Player.Whole hasSea i) := by
  refine Draw.always_bind fun name => Draw.always_bind fun faceId => ?_
  refine (whole_robot (whole_fresh hasSea i name faceId)).bind fun p hp => ?_
  refine Draw.always_bind fun resources => Draw.always_bind fun knights => ?_
  refine Draw.always_bind fun settlements => Draw.always_bind fun cities => ?_
  have rich : Player.Whole hasSea i { p with resources, knights } :=
    ⟨hp.number, hp.cards, hp.sorted, hp.ships, hp.owned⟩
  have built := whole_buildCities own (whole_settle own rich settlements) cities
  extract_lets q later
  -- the hand is drawn last, whether the player is at sea or not
  have hand : ∀ p : Player, p.Whole hasSea i → (later p).Always (Player.Whole hasSea i) := by
    intro p hp
    refine (whole_newCards hp).bind fun p hp => Draw.always_bind fun count => ?_
    refine (whole_oldCards count hp).bind fun p hp => Draw.always_bind fun lucky => ?_
    split
    · have kept : (draw victoryCards (by decide) .kept p).Always (Player.Whole hasSea i) :=
        whole_draw hp (by decide)
      refine kept.bind fun p hp => Draw.always_pure ?_
      exact ⟨hp.number, hp.cards, hp.sorted, hp.ships, hp.owned⟩
    · exact Draw.always_pure ⟨hp.number, hp.cards, hp.sorted, hp.ships, hp.owned⟩
  split
  · rename_i sea
    subst sea
    exact (whole_seafaring own built).bind hand
  · exact (Draw.always_pure built).bind hand

include own in
theorem whole_seat (hasSea : Bool) : (seat hasSea i).Always (Seat.Whole hasSea i) := by
  have occupied : (do return { player := ← player i hasSea, vacant := false } : Draw Seat).Always
      (Seat.Whole hasSea i) :=
    (whole_player own hasSea).bind fun p hp => Draw.always_pure ⟨nofun, fun _ => hp⟩
  unfold seat
  split
  · refine Draw.always_bind fun vacant => ?_
    split
    · exact Draw.always_pure ⟨fun _ => rfl, nofun⟩
    · exact occupied
  · exact occupied

end Players

section Boards

theorem always_harbors (e : Encoding) : (harbors e).Always fun ns => e = .classic → ns = [] := by
  unfold harbors
  split
  · exact Draw.always_pure fun _ => rfl
  · rename_i other
    exact (Draw.always_any _).imp fun _ _ classic => absurd classic other

theorem always_landHexes (e : Encoding) :
    (landHexes e).Always fun ns => e = .classic → ns = [] := by
  unfold landHexes
  split
  · rename_i sea
    exact (Draw.always_any _).imp fun _ _ classic => absurd (classic ▸ sea) (by decide)
  · exact Draw.always_pure fun _ => rfl

theorem always_pirateHex (e : Encoding) : (pirateHex e).Always fun n => e = .classic → n = 0 := by
  unfold pirateHex
  split
  · rename_i sea
    exact (Draw.always_any _).imp fun _ _ classic => absurd (classic ▸ sea) (by decide)
  · exact Draw.always_pure fun _ => rfl

/-- A sample board has nothing that its encoding cannot keep. -/
theorem always_board (e : Encoding) :
    (board e).Always fun b => b.encoding = e ∧ b.settled = b := by
  refine Draw.always_bind fun hexes => Draw.always_bind fun numbers => ?_
  refine Draw.always_bind fun robber => (always_harbors e).bind fun harbors noHarbors => ?_
  refine (always_landHexes e).bind fun lands noLands => ?_
  refine (always_pirateHex e).bind fun pirate noPirate => Draw.always_pure ⟨rfl, ?_⟩
  cases e with
  | classic => simp [Board.settled, noHarbors, noLands, noPirate]
  | sixPlayer => rfl
  | large => rfl

theorem always_withLandAreas {b : Board} (settled : b.settled = b) (nodes : List Int32) :
    (withLandAreas b nodes).Always fun c => c.encoding = b.encoding ∧ c.settled = c := by
  have same : b.encoding = b.encoding ∧ b.settled = b := ⟨rfl, settled⟩
  unfold withLandAreas
  split
  · rename_i sea
    have large : b.encoding = .large := by simpa [Board.hasSea, Encoding.hasSea] using sea
    refine Draw.always_bind fun split => ?_
    split
    · exact Draw.always_pure ⟨rfl, by simp [Board.settled, large]⟩
    · exact Draw.always_pure same
  · exact Draw.always_pure same

end Boards

section Games

theorem always_withPotentials (hasSea perSeat : Bool) (nodes : List Int32)
    (players : List Player) :
    (withPotentials hasSea perSeat nodes players).Always
      (List.Forall₂ Player.Relocates players) := by
  induction players with
  | nil => exact Draw.always_pure .nil
  | cons p players ih =>
    have rest (nodes' : List Int32) (edges : List (List Int32)) :
        (do
          let placed ← withPotentials hasSea perSeat nodes players
          return { p with potentialNodes := nodes', seaEdges := edges } :: placed).Always
            (List.Forall₂ Player.Relocates (p :: players)) :=
      ih.bind fun placed others => Draw.always_pure (.cons ⟨nodes', edges, rfl⟩ others)
    unfold withPotentials
    extract_lets withEdges
    have edged (nodes' : List Int32) :
        (withEdges nodes').Always (List.Forall₂ Player.Relocates (p :: players)) := by
      unfold withEdges
      split
      · exact Draw.always_bind fun edges => rest nodes' edges
      · exact Draw.always_bind fun edges => rest nodes' edges
    split
    · exact Draw.always_bind edged
    · exact Draw.always_bind edged

theorem exists_of_mem_occupied {first j : Nat} {seats : List Seat} (h : j ∈ occupied first seats) :
    ∃ i s, j = first + i ∧ seats[i]? = some s ∧ s.vacant = false := by
  induction seats generalizing first with
  | nil => simp [occupied] at h
  | cons s seats ih =>
    have later (mem : j ∈ occupied (first + 1) seats) :
        ∃ i t, j = first + i ∧ (s :: seats)[i]? = some t ∧ t.vacant = false := by
      obtain ⟨i, t, rfl, there, taken⟩ := ih mem
      exact ⟨i + 1, t, by omega, there, taken⟩
    rw [occupied] at h
    split at h
    · exact later h
    · rename_i taken
      rcases List.mem_cons.mp h with rfl | h
      · exact ⟨0, s, rfl, rfl, Bool.eq_false_of_not_eq_true taken⟩
      · exact later h

theorem isBlankName_name (seed : UInt64) : Snapshot.isBlankName (name seed) = false := by
  obtain ⟨tail, letters⟩ : ∃ tail, (name seed).toList = 's' :: tail := by
    refine ⟨"ample-".toList ++ (Decimal.text seed.toNat).toList, ?_⟩
    rw [name, String.toList_append]
    rfl
  have start : Text.trimStart ('s' :: tail) = 's' :: tail :=
    List.dropWhile_cons_of_neg (by decide)
  have visible : ¬ ∀ c ∈ ('s' :: tail).reverse, Text.isBlank c = true :=
    fun blank => absurd (blank 's' (by simp)) (by decide)
  rw [Snapshot.isBlankName, letters, Text.trim, start, Text.trimStart, List.isEmpty_reverse,
    List.isEmpty_eq_false_iff]
  exact fun none => visible (List.dropWhile_eq_nil_iff.mp none)

/-- The dice that go with a phase: none before the roll, a seven where it has consequences, and else
what two dice can show. -/
def DiceOf (phase : Phase) (n : Int32) : Prop :=
  if phase = .rollOrCard then n = 0
  else if phase = .placingRobber ∨ phase = .waitingForDiscards then n = 7
  else 2 ≤ n.toInt ∧ n.toInt ≤ 12

theorem always_dice (phase : Phase) : (dice phase).Always (DiceOf phase) := by
  unfold dice
  split
  · rename_i before
    exact Draw.always_pure (by rw [DiceOf, if_pos before])
  · rename_i rolled
    split
    · rename_i seven
      exact Draw.always_pure (by rw [DiceOf, if_neg rolled, if_pos seven])
    · rename_i other
      refine (always_between (by decide)).bind fun n ⟨low, high⟩ => Draw.always_pure ?_
      rw [DiceOf, if_neg rolled, if_neg other, Int32.toInt_ofNat_of_lt (by omega)]
      omega

/-- What is drawn for a game whose seats have the property `R`. -/
structure Drawn (R : Bool → Nat → Seat → Prop) (name : String) (others : Nat) (startTime : Instant)
    (g : Game) : Prop where
  name : g.name = name
  startTime : g.startTime = startTime
  size : g.seats.length = others + 1
  seats : ∀ (i : Nat) (s : Seat), g.seats[i]? = some s → R g.hasSea i s
  host : ∃ s, g.seats[0]? = some s ∧ s.vacant = false
  current : ∃ i s, g.currentPlayer = Int32.ofNat i ∧ g.seats[i]? = some s ∧ s.vacant = false
  phase : g.phase ∈ phases
  dice : DiceOf g.phase g.dice
  board : g.board.settled = g.board
  vacant : g.vacant.length = g.players.length
  minVersion : g.minVersion = g.board.encoding.minVersion

/-- By the draws in their order. What holds of each seat when it is drawn holds in the end if it
does not depend on where the players may build. -/
theorem always_drawGame {R : Bool → Nat → Seat → Prop} (name : String) (others : Nat)
    (startTime : Instant)
    (first : ∀ hasSea,
      (player 0 hasSea).Always fun p => R hasSea 0 { player := p, vacant := false })
    (later : ∀ hasSea i, i < others + 1 → (seat hasSea i).Always (R hasSea i))
    (stays : ∀ hasSea i s t, s.Relocates t → R hasSea i s → R hasSea i t) :
    (drawGame name others startTime).Always (Drawn R name others startTime) := by
  refine Draw.always_bind fun e => (always_board e).bind fun b ⟨encoded, settled⟩ => ?_
  refine Draw.always_bind fun options => (first e.hasSea).bind fun host hhost => ?_
  have drawn : (listFrom (seat e.hasSea) 1 others).Always fun rest => rest.length = others ∧
      ∀ (i : Nat) (s : Seat), rest[i]? = some s → R e.hasSea (1 + i) s :=
    always_listFrom fun i _ high => later e.hasSea i (by omega)
  refine drawn.bind fun rest ⟨size, hrest⟩ => ?_
  have table : ∀ (i : Nat) (s : Seat),
      ({ player := host, vacant := false } :: rest)[i]? = some s → R e.hasSea (0 + i) s :=
    forall_getElem?_cons.mpr ⟨hhost, hrest⟩
  simp only [Nat.zero_add] at table
  refine Draw.always_bind fun nodes => Draw.always_bind fun perSeat => ?_
  refine (always_withPotentials e.hasSea perSeat _ _).bind fun players moved => ?_
  refine (always_withLandAreas settled _).bind fun b' ⟨encoded', settled'⟩ => ?_
  refine (always_pick _).bind fun phase hphase => (always_dice phase).bind fun dice hdice => ?_
  refine (always_pick _).bind fun current hcurrent => Draw.always_pure ?_
  generalize made : Game.mk _ _ _ _ _ _ _ _ _ _ = g
  have sea : b'.hasSea = e.hasSea := by rw [Board.hasSea, encoded', encoded]
  have relocated : List.Forall₂ Seat.Relocates ({ player := host, vacant := false } :: rest)
      g.seats := by
    subst made
    exact Game.seats_relocates moved rfl
  -- a seat is taken in the end if it was taken when it was drawn
  have taken {i : Nat} {s : Seat}
      (there : ({ player := host, vacant := false } :: rest)[i]? = some s)
      (occupied : s.vacant = false) : ∃ t, g.seats[i]? = some t ∧ t.vacant = false := by
    obtain ⟨t, found, same⟩ := exists_getElem?_of_forall₂ relocated there
    exact ⟨t, found, same.vacant.trans occupied⟩
  subst made
  refine ⟨rfl, rfl, ?_, fun i t there => ?_, taken (i := 0) rfl rfl, ?_, hphase, hdice, settled',
    ?_, by rw [encoded', encoded]⟩
  · rw [← relocated.length_eq, List.length_cons, size]
  · obtain ⟨s, found, same⟩ := exists_getElem?_of_forall₂ relocated.flip there
    rw [Game.hasSea, sea]
    exact stays e.hasSea i s t same (table i s found)
  · rcases List.mem_cons.mp hcurrent with rfl | mem
    · obtain ⟨t, found, occupied⟩ := taken (i := 0) rfl rfl
      exact ⟨0, t, rfl, found, occupied⟩
    · obtain ⟨i, s, rfl, there, free⟩ := exists_of_mem_occupied mem
      obtain ⟨t, found, occupied⟩ := taken (i := i + 1) there free
      exact ⟨1 + i, t, rfl, Nat.add_comm i 1 ▸ found, occupied⟩
  · rw [List.length_map, ← moved.length_eq, List.length_map]

theorem toNat_ofNat_seat {i others : Nat} (small : others + 1 < 2 ^ 31) (lt : i < others + 1) :
    (UInt64.ofNat i).toNat = i :=
  UInt64.toNat_ofNat_of_lt' (by simp only [UInt64.size]; omega)

/-- What is drawn for a game, apart from its name and its age. -/
theorem whole_drawGame (name : String) (others : Nat) (startTime : Instant)
    (small : others + 1 < 2 ^ 31) :
    (drawGame name others startTime).Always fun g =>
      g.name = name ∧ g.startTime = startTime ∧ g.seats.length = others + 1 ∧ g.Whole ∧
        (∃ i < g.seats.length, g.currentPlayer.toInt = i) ∧ g.minVersion ≤ engineVersion := by
  have own {i : Nat} (hi : i < others + 1) := toNat_ofNat_seat small hi
  refine (always_drawGame (R := Seat.Whole) name others startTime ?_ ?_ ?_).imp fun g drawn => ?_
  · exact fun hasSea => (whole_player (own (Nat.succ_pos _)) hasSea).imp fun p whole =>
      ⟨nofun, fun _ => whole⟩
  · exact fun hasSea i lt => whole_seat (own lt) hasSea
  · exact fun hasSea i s t moved whole => whole.relocated moved
  · obtain ⟨i, s, player, there, -⟩ := drawn.current
    have lt : i < g.seats.length := (List.getElem?_eq_some_iff.mp there).1
    have number : g.currentPlayer.toInt = i := by
      rw [player]
      exact Int32.toInt_ofNat_of_lt (by have := drawn.size; omega)
    have savable : ∀ p ∈ phases, p.isSavable = true := by decide
    have playable : g.minVersion ≤ engineVersion := by
      rw [drawn.minVersion]
      cases g.board.encoding <;> decide
    exact ⟨drawn.name, drawn.startTime, drawn.size,
      ⟨savable _ drawn.phase, drawn.board, drawn.vacant, drawn.seats⟩, ⟨i, lt, number⟩, playable⟩

end Games

end Sample

namespace Game

variable {seed : UInt64} {maxPlayers : Nat} {startTime now again : Instant} {age : Nat}

/-- A sample game comes back from its save with the start that its age gives. -/
theorem exists_reloaded_sample (seed : UInt64) (filled : 1 ≤ maxPlayers)
    (few : maxPlayers ≤ 2 ^ 20)
    (start : now.subSeconds? (Instant.elapsedSeconds startTime now).toInt = some again) :
    ∃ g, sample? seed maxPlayers startTime = some g ∧ g.startTime = startTime ∧
      ∀ pretty, g.reloaded pretty now = .ok { g with startTime := again } := by
  obtain ⟨others, rfl⟩ := Nat.exists_eq_add_of_le' filled
  have memory : maxSeats = 2 ^ 48 := rfl
  have inMemory : ¬ maxSeats ≤ others := by omega
  obtain ⟨name, began, count, whole, player, minVersion⟩ :=
    Sample.whole_drawGame (Sample.name seed) others startTime (by omega) (Generator.ofSeed seed)
  refine ⟨_, if_neg inMemory, began, fun pretty => reloaded_of_whole whole ?_ ?_ ?_⟩
  · refine reloadable_of_whole whole ?_ ?_ player minVersion
    · rw [name, Sample.isBlankName_name]
    · exact List.ne_nil_of_length_pos (by omega)
  · omega
  · rw [began, start]

/-- A sample game with at least one seat comes back unchanged at every whole second of its age that
32 bits can count. Only if it began in a leap second, or is loaded in one, another start can come
back than that which it had. -/
theorem reloaded_sample (seed : UInt64) (filled : 1 ≤ maxPlayers) (few : maxPlayers ≤ 2 ^ 20)
    (young : age < 2 ^ 31) (later : now.IsSecondsAfter startTime age) (pretty : Bool) :
    ∃ g again, sample? seed maxPlayers startTime = some g ∧
      now.subSeconds? (Instant.elapsedSeconds startTime now).toInt = some again ∧
      g.reloaded pretty now = .ok { g with startTime := again } ∧
      ({ g with startTime := again } = g ↔ now.LeadsBack startTime) := by
  obtain ⟨again, start, same⟩ := later.exists_subSeconds? (by omega) (by
    rw [Instant.maxAge]
    omega)
  obtain ⟨g, drawn, began, reloaded⟩ := exists_reloaded_sample seed filled few start
  refine ⟨g, again, drawn, start, reloaded pretty, ?_⟩
  rw [← same, ← began]
  exact ⟨congrArg Game.startTime, fun back => by rw [back]⟩

/-- A game at sea, with a fortress, a robot, a vacant seat and land areas. -/
theorem reloaded_sample_sea :
    ∃ g, sample? 17 4 (.mk 1709316000 250000000) = some g ∧ g.board.encoding = .large ∧
      g.board.landAreaCount = 2 ∧ g.seated?.map (·.map Player.number) = some [0, 1, 3] ∧
      (Instant.mk 1709318400 250000000).IsSecondsAfter (.mk 1709316000 250000000) 2400 ∧
      g.reloaded true (.mk 1709318400 250000000) = .ok g := by
  have later : (Instant.mk 1709318400 250000000).IsSecondsAfter (.mk 1709316000 250000000)
      (2400 : Nat) := .inl (by decide)
  have usual : (Instant.mk 1709318400 250000000).LeadsBack (.mk 1709316000 250000000) :=
    .inr ⟨by decide, fun leap => absurd leap (by decide)⟩
  obtain ⟨g, again, drawn, -, reloaded, same⟩ :=
    reloaded_sample 17 (show 1 ≤ 4 by decide) (by decide) (by decide) later true
  have shown : ((sample? 17 4 (.mk 1709316000 250000000)).map fun g =>
      (g.board.encoding, g.board.landAreaCount, g.seated?.map (·.map Player.number))) =
        some (.large, 2, some [0, 1, 3]) := by
    decide +kernel
  rw [drawn, Option.map_some, Option.some.injEq, Prod.mk.injEq, Prod.mk.injEq] at shown
  obtain ⟨encoding, areas, seated⟩ := shown
  rw [same.mpr usual] at reloaded
  exact ⟨g, drawn, encoding, areas, seated, later, reloaded⟩

/-- A game that began in the leap second before midnight began at midnight when it is loaded one
second later. -/
theorem leap_start_lost :
    ∃ g, sample? 17 4 (.mk 86399 1500000000) = some g ∧
      (Instant.mk 86399 1500000000).add? Instant.nanosPerSecond = some (.mk 86400 500000000) ∧
      g.reloaded true (.mk 86400 500000000) =
        .ok { g with startTime := .mk 86400 500000000 } ∧
      g.reloaded true (.mk 86400 500000000) ≠ .ok g := by
  have start : (Instant.mk 86400 500000000).subSeconds?
      (Instant.elapsedSeconds (.mk 86399 1500000000) (.mk 86400 500000000)).toInt =
        some (.mk 86400 500000000) := by decide
  obtain ⟨g, drawn, began, reloaded⟩ :=
    exists_reloaded_sample 17 (show 1 ≤ 4 by decide) (by decide) start
  refine ⟨g, drawn, by decide, reloaded true, fun same => ?_⟩
  rw [reloaded true, Except.ok.injEq] at same
  have times : Instant.mk 86400 500000000 = .mk 86399 1500000000 :=
    (congrArg Game.startTime same).trans began
  exact absurd times (by decide)

end Game

end SavedGames
