import Mathlib
import SavedGames.Proofs.Game.Sample

/-!
# What the players of a sample game have

A few rolls decide how many settlements, cities and ships a player builds, and with them every piece
on the board and in stock. The books of a sample game are therefore in order: no stock is overdrawn,
and the points of a player are those of the buildings and of the kept cards.
-/
namespace SavedGames

namespace Ledger

variable {l : Ledger} {placed : List Piece}

/-- Pieces other than cities displace nothing. -/
theorem pieces_after_of_plain (plain : ∀ piece ∈ placed, piece.kind ≠ .city) :
    (l.after placed).pieces = l.pieces ++ placed := by
  induction placed generalizing l with
  | nil => exact (List.append_nil _).symm
  | cons piece placed ih =>
    obtain ⟨here, later⟩ := List.forall_mem_cons.mp plain
    have stays : (l.place piece).pieces = l.pieces ++ [piece] :=
      (l.places_place piece).other fun upgrades => here (city_of_upgrades upgrades)
    have step : l.after (piece :: placed) = (l.place piece).after placed := rfl
    rw [step, ih later, stays, List.append_assoc, List.singleton_append]

theorem after_append (l : Ledger) (placed others : List Piece) :
    l.after (placed ++ others) = (l.after placed).after others := List.foldl_append

end Ledger

namespace Player

variable {p q : Player} {number : Nat} {hasSea : Bool} {placed : List Piece}

theorem hand_place (p : Player) (piece : Piece) : (p.place piece).hand = p.hand := by
  rw [place]
  cases placed : p.place? piece with
  | none => rfl
  | some q =>
    obtain ⟨pieces, stock, -, -, rfl⟩ := place?_eq_some placed
    rfl

theorem hand_foldl_place (p : Player) (placed : List Piece) :
    (placed.foldl place p).hand = p.hand := by
  induction placed generalizing p with
  | nil => rfl
  | cons piece placed ih => rw [List.foldl_cons, ih, hand_place]

theorem foldl_place_eq (h : placed.foldlM place? p = some q) : placed.foldl place p = q := by
  induction placed generalizing p with
  | nil => exact Option.some.inj h
  | cons piece placed ih =>
    rw [List.foldlM_cons, Option.bind_eq_bind, Option.bind_eq_some_iff] at h
    obtain ⟨r, first, later⟩ := h
    rw [List.foldl_cons, place, first]
    exact ih later

/-- The counters of a full stock can hold whatever a few pieces leave of it. -/
theorem ledger_foldl_place (full : p.ledger = (fresh number hasSea).ledger)
    (few : placed.length ≤ 2 ^ 30) :
    (placed.foldl place p).ledger = (fresh number hasSea).ledger.after placed := by
  have pieces : p.pieces = [] := congrArg Ledger.pieces full
  obtain ⟨q, done⟩ : ∃ q, placed.foldlM place? p = some q := by
    refine exists_placeAll (fun kind => ?_) fun kind _ => ?_
    · have := (stock_fresh number hasSea kind).1
      rw [full]
      omega
    · have := (stock_fresh number hasSea kind).2
      rw [full, pieces, Piece.countOf_nil]
      omega
  rw [foldl_place_eq done, ledger_of_placeAll done, full]

end Player

namespace Sample

open Generator

/-- How many settlements, cities and ships a player builds. -/
structure Rolls where
  settlements : Nat
  cities : Nat
  ships : Nat
  deriving DecidableEq, Repr

section Pieces

def settlement (seat i : Nat) : Piece where
  kind := .settlement
  coord := firstNode seat + Int32.ofNat i * 4
  owner := UInt64.ofNat seat

def road (seat i : Nat) : Piece where
  kind := .road
  coord := firstNode seat + Int32.ofNat i * 4 + 1
  owner := UInt64.ofNat seat

def city (seat i : Nat) : Piece where
  kind := .city
  coord := firstNode seat + Int32.ofNat i * 4
  owner := UInt64.ofNat seat

def ship (seat i : Nat) : Piece where
  kind := .ship
  coord := firstNode seat + 0x21 + Int32.ofNat i * 2
  owner := UInt64.ofNat seat

def homes (seat count : Nat) : List Piece :=
  (List.range count).flatMap fun i => [settlement seat i, road seat i]

def cities (seat count : Nat) : List Piece := (List.range count).map (city seat)

def fleet (seat count : Nat) : List Piece := (List.range count).map (ship seat)

variable {seat count : Nat} {p : Player}

theorem settle_eq : settle seat p count = (homes seat count).foldl Player.place p := by
  rw [homes, List.foldl_flatMap]
  rfl

theorem buildCities_eq : buildCities seat p count = (cities seat count).foldl Player.place p := by
  rw [cities, List.foldl_map]
  rfl

theorem launch_eq : launch seat p count = (fleet seat count).foldl Player.place p := by
  rw [fleet, List.foldl_map]
  rfl

theorem homes_succ (seat count : Nat) : homes seat (count + 1) =
    settlement seat 0 :: road seat 0 ::
      (List.range count).flatMap fun i => [settlement seat (i + 1), road seat (i + 1)] := by
  rw [homes, List.range_succ_eq_map, List.flatMap_cons, List.flatMap_map]
  rfl

theorem homes_concat (seat count : Nat) : homes seat (count + 1) =
    homes seat count ++ [settlement seat count, road seat count] := by
  simp [homes, List.range_succ]

theorem countOf_homes (seat count : Nat) (kind : PieceKind) :
    Piece.countOf kind (homes seat count) =
      if kind = .settlement ∨ kind = .road then count else 0 := by
  induction count with
  | zero => simp [homes]
  | succ count ih =>
    rw [homes_concat, Piece.countOf_append, ih]
    cases kind <;> simp [settlement, road]

theorem countOf_range_map (f : Nat → Piece) {made : PieceKind} (same : ∀ i, (f i).kind = made)
    (count : Nat) (kind : PieceKind) :
    Piece.countOf kind ((List.range count).map f) = if kind = made then count else 0 := by
  have kinds : ((List.range count).map f).map Piece.kind = List.replicate count made := by
    simp [List.map_map, Function.comp_def, same]
  have same : (made == kind) = true ↔ kind = made := beq_iff_eq.trans eq_comm
  rw [Piece.countOf, kinds, List.count_replicate]
  simp only [same]

end Pieces

namespace Rolls

variable {r : Rolls} {seat : Nat} {hasSea vacant : Bool}

/-- Nobody builds in a vacant seat, and there are no ships without a sea. -/
structure Fits (r : Rolls) (hasSea vacant : Bool) : Prop where
  idle : vacant = true → r = ⟨0, 0, 0⟩
  settled : vacant = false → 2 ≤ r.settlements
  settlements : r.settlements ≤ 4
  cities : r.cities ≤ 1
  ships : r.ships ≤ 3
  dry : hasSea = false → r.ships = 0

/-- The pieces in the order in which they are placed. -/
def pieces (r : Rolls) (seat : Nat) : List Piece :=
  homes seat r.settlements ++ Sample.cities seat r.cities ++ fleet seat r.ships

/-- What stands on the board in the end: the city has replaced the first settlement. -/
def board (r : Rolls) (seat : Nat) : List Piece :=
  (homes seat r.settlements).drop r.cities ++ Sample.cities seat r.cities ++ fleet seat r.ships

/-- How many pieces of a kind stand on the board in the end. -/
def count (r : Rolls) : PieceKind → Nat
  | .settlement => r.settlements - r.cities
  | .road => r.settlements
  | .city => r.cities
  | .ship => r.ships
  | .fortress | .village => 0

theorem Fits.cities_le (h : r.Fits hasSea vacant) : r.cities ≤ r.settlements := by
  cases vacant with
  | true => rw [h.idle rfl]
  | false =>
    have := h.settled rfl
    have := h.cities
    omega

/-- The settlement that becomes the city, if there is one. -/
theorem Fits.take_homes (h : r.Fits hasSea vacant) (seat : Nat) :
    (homes seat r.settlements).take r.cities = (List.range r.cities).map (settlement seat) := by
  rcases Nat.le_one_iff_eq_zero_or_eq_one.mp h.cities with none | one
  · rw [none]
    rfl
  · obtain ⟨count, more⟩ := Nat.exists_eq_add_of_le' (one ▸ h.cities_le)
    rw [one, more, homes_succ]
    rfl

theorem length_pieces (r : Rolls) (seat : Nat) :
    (r.pieces seat).length = 2 * r.settlements + r.cities + r.ships := by
  simp [pieces, homes, Sample.cities, fleet, Nat.mul_comm, Nat.add_assoc]

/-- Of all the pieces that are placed, only the city moves another one. -/
theorem pieces_after (h : r.Fits hasSea vacant) :
    ((Player.fresh seat hasSea).ledger.after (r.pieces seat)).pieces = r.board seat := by
  have plain : ∀ piece ∈ homes seat r.settlements, piece.kind ≠ .city := by
    intro piece mem
    obtain ⟨i, -, mem⟩ := List.mem_flatMap.mp mem
    simp only [List.mem_cons, List.not_mem_nil, or_false] at mem
    rcases mem with rfl | rfl <;> nofun
  have afloat : ∀ piece ∈ fleet seat r.ships, piece.kind ≠ .city := by
    simp [fleet, ship]
  have empty : (Player.fresh seat hasSea).ledger.pieces = [] := rfl
  rw [pieces, board, Ledger.after_append, Ledger.pieces_after_of_plain afloat, Ledger.after_append]
  congr 1
  have settled := Ledger.pieces_after_of_plain (l := (Player.fresh seat hasSea).ledger) plain
  rw [empty, List.nil_append] at settled
  rcases Nat.le_one_iff_eq_zero_or_eq_one.mp h.cities with none | one
  · rw [none]
    exact settled.trans (List.append_nil _).symm
  · obtain ⟨count, more⟩ := Nat.exists_eq_add_of_le' (one ▸ h.cities_le)
    rw [one]
    change (((Player.fresh seat hasSea).ledger.after (homes seat r.settlements)).place
      (city seat 0)).pieces = _
    rw [Ledger.place, settled, more, homes_succ, List.eraseP_cons_of_pos (by
      simp [Piece.displaces, city, settlement])]
    rfl

theorem countOf_board (h : r.Fits hasSea vacant) (seat : Nat) (kind : PieceKind) :
    Piece.countOf kind (r.board seat) = r.count kind := by
  have left : Piece.countOf kind ((homes seat r.settlements).take r.cities) +
      Piece.countOf kind ((homes seat r.settlements).drop r.cities) =
      if kind = .settlement ∨ kind = .road then r.settlements else 0 := by
    rw [← Piece.countOf_append, List.take_append_drop, countOf_homes]
  have moved : Piece.countOf kind ((homes seat r.settlements).take r.cities) =
      if kind = .settlement then r.cities else 0 := by
    rw [h.take_homes, countOf_range_map (settlement seat) fun _ => rfl]
  rw [board, Piece.countOf_append, Piece.countOf_append, Sample.cities, fleet,
    countOf_range_map (city seat) fun _ => rfl, countOf_range_map (ship seat) fun _ => rfl]
  cases kind <;> simp [count] at left moved ⊢ <;> omega

end Rolls

/-- What a player has while the cards are drawn: all pieces that the rolls allow, on the board or in
stock, no new card that is worth a point, and so many kept ones. -/
structure Plays (hasSea : Bool) (i : Nat) (r : Rolls) (kept : Nat) (p : Player) : Prop where
  pieces : p.pieces = r.board i
  stock : ∀ kind ∈ PieceKind.buildable, (p.stock.count kind).toInt + Piece.countOf kind p.pieces =
    ((Stock.full hasSea).count kind).toInt
  new : ∀ item ∈ p.hand.new, item.isVictoryPoint = false
  kept : p.hand.kept.length = kept

section Players

variable {hasSea vacant : Bool} {i kept : Nat} {r : Rolls} {p q : Player}

/-- The ledger and the hand are all that matters. -/
theorem Plays.congr (h : Plays hasSea i r kept p) (ledger : q.ledger = p.ledger)
    (hand : q.hand = p.hand) : Plays hasSea i r kept q := by
  have pieces : q.pieces = p.pieces := congrArg Ledger.pieces ledger
  refine ⟨pieces.trans h.pieces, fun kind built => ?_, hand ▸ h.new, hand ▸ h.kept⟩
  have count : (q.stock.count kind).toInt = (p.stock.count kind).toInt :=
    congrArg (Ledger.stock · kind) ledger
  rw [count, pieces]
  exact h.stock kind built

theorem plays_build (full : p.ledger = (Player.fresh i hasSea).ledger) (empty : p.hand = {})
    (fits : r.Fits hasSea vacant) :
    Plays hasSea i r 0
      (launch i (buildCities i (settle i p r.settlements) r.cities) r.ships) := by
  have all : launch i (buildCities i (settle i p r.settlements) r.cities) r.ships =
      (r.pieces i).foldl Player.place p := by
    rw [settle_eq, buildCities_eq, launch_eq, ← List.foldl_append, ← List.foldl_append,
      Rolls.pieces, List.append_assoc]
  have few : (r.pieces i).length ≤ 2 ^ 30 := by
    have := fits.settlements
    have := fits.cities
    have := fits.ships
    rw [Rolls.length_pieces]
    omega
  have ledger := Player.ledger_foldl_place full few
  have hand := (p.hand_foldl_place (r.pieces i)).trans empty
  have pieces : ((r.pieces i).foldl Player.place p).pieces = r.board i :=
    (congrArg Ledger.pieces ledger).trans (Rolls.pieces_after fits)
  rw [all]
  refine ⟨pieces, fun kind built => ?_, by simp [hand], by simp [hand]⟩
  have balance := @Ledger.balance_after (Player.fresh i hasSea).ledger (r.pieces i) kind built
  rw [← ledger] at balance
  exact balance.trans (Int.add_zero _)

theorem always_robot (i : Nat) (p : Player) :
    (robot i p).Always fun q => q.ledger = p.ledger ∧ q.hand = p.hand := by
  unfold robot
  split
  · refine Draw.always_bind fun taken => ?_
    split
    · exact Draw.always_bind fun builtIn => Draw.always_pure ⟨rfl, rfl⟩
    · exact Draw.always_pure ⟨rfl, rfl⟩
  · exact Draw.always_pure ⟨rfl, rfl⟩

/-- Going to sea places ships. Warships and fortresses come from no stock. -/
theorem always_seafaring (i : Nat) (p : Player) : (seafaring i p).Always fun q =>
    ∃ count ≤ 3, q.ledger = (launch i p count).ledger ∧ q.hand = (launch i p count).hand := by
  refine (always_between (by decide)).bind fun count ⟨_, few⟩ => Draw.always_bind fun warships => ?_
  dsimp only
  split
  · refine Draw.always_bind fun fortified => ?_
    split
    · exact Draw.always_bind fun strength => Draw.always_pure ⟨count, few, rfl, rfl⟩
    · exact Draw.always_pure ⟨count, few, rfl, rfl⟩
  · exact Draw.always_pure ⟨count, few, rfl, rfl⟩

theorem always_draw {cards : List Card} (filled : cards ≠ []) (holding : Holding) (p : Player) :
    (draw cards filled holding p).Always fun q => ∃ c ∈ cards, q = p.hold (.card c) holding :=
  (always_pick filled).bind fun c hc => Draw.always_pure ⟨c, hc, rfl⟩

theorem not_isVictoryPoint_of_playable : ∀ c ∈ playableCards, c.isVictoryPoint = false := by decide

theorem plays_newCards (h : Plays hasSea i r kept p) :
    (newCards p).Always (Plays hasSea i r kept) := by
  refine Draw.always_bind fun lucky => ?_
  split
  · refine (always_draw _ _ _).imp ?_
    rintro q ⟨c, hc, rfl⟩
    refine ⟨h.pieces, h.stock, fun item mem => ?_, h.kept⟩
    rcases List.mem_append.mp mem with mem | mem
    · exact h.new item mem
    · obtain rfl := List.mem_singleton.mp mem
      exact not_isVictoryPoint_of_playable c hc
  · exact Draw.always_pure h

theorem plays_oldCards (count : Nat) (h : Plays hasSea i r kept p) :
    (oldCards count p).Always (Plays hasSea i r kept) := by
  induction count generalizing p with
  | zero => exact Draw.always_pure h
  | succ count ih =>
    refine (always_draw _ _ _).bind ?_
    rintro q ⟨c, hc, rfl⟩
    exact ih ⟨h.pieces, h.stock, h.new, h.kept⟩

theorem Plays.hold (h : Plays hasSea i r kept p) (c : Card) :
    Plays hasSea i r (kept + 1) (p.hold (.card c) .kept) :=
  ⟨h.pieces, h.stock, h.new, by simp [Player.hold, Hand.add, h.kept]⟩

/-- What a seat has in the end, where the points are those of the rolls and of the kept cards. -/
structure Follows (hasSea : Bool) (i : Nat) (s : Seat) (r : Rolls) (kept : Nat) : Prop where
  fits : r.Fits hasSea s.vacant
  few : kept ≤ 1
  plays : Plays hasSea i r kept s.player
  points : s.player.totalVp = Int32.ofNat (r.settlements + r.cities + kept)

theorem follows_player (hasSea : Bool) (i : Nat) : (player i hasSea).Always fun p =>
    ∃ r kept, Follows hasSea i { player := p, vacant := false } r kept := by
  refine Draw.always_bind fun name => Draw.always_bind fun faceId => ?_
  refine (always_robot _ _).bind fun p ⟨ledger, hand⟩ => ?_
  refine Draw.always_bind fun resources => Draw.always_bind fun knights => ?_
  refine (always_between (by decide)).bind fun settlements ⟨two, four⟩ => ?_
  refine (always_between (by decide)).bind fun cities ⟨_, one⟩ => ?_
  extract_lets q later
  have fits (ships : Nat) (three : ships ≤ 3) (dry : hasSea = false → ships = 0) :
      Rolls.Fits ⟨settlements, cities, ships⟩ hasSea false :=
    ⟨nofun, fun _ => two, four, one, three, dry⟩
  have built (ships : Nat) (three : ships ≤ 3) (dry : hasSea = false → ships = 0) :
      Plays hasSea i ⟨settlements, cities, ships⟩ 0 (launch i q ships) :=
    plays_build (p := { p with resources, knights }) ledger hand (fits ships three dry)
  -- the hand is drawn last, whether the player is at sea or not
  have drawn {ships : Nat} (three : ships ≤ 3) (dry : hasSea = false → ships = 0) {p : Player}
      (plays : Plays hasSea i ⟨settlements, cities, ships⟩ 0 p) : (later p).Always fun p =>
        ∃ r kept, Follows hasSea i { player := p, vacant := false } r kept := by
    have done {kept : Nat} (few : kept ≤ 1) {p : Player}
        (plays : Plays hasSea i ⟨settlements, cities, ships⟩ kept p) :
        Follows hasSea i ⟨{ p with totalVp := Int32.ofNat (settlements + cities + kept) }, false⟩
          ⟨settlements, cities, ships⟩ kept :=
      ⟨fits ships three dry, few, ⟨plays.pieces, plays.stock, plays.new, plays.kept⟩, rfl⟩
    refine (plays_newCards plays).bind fun p hp => Draw.always_bind fun count => ?_
    refine (plays_oldCards count hp).bind fun p hp => Draw.always_bind fun lucky => ?_
    split
    · refine (always_draw _ _ _).bind ?_
      rintro q ⟨c, hc, rfl⟩
      exact Draw.always_pure ⟨_, 1, done (Nat.le_refl 1) (hp.hold c)⟩
    · exact Draw.always_pure ⟨_, 0, done (Nat.zero_le 1) hp⟩
  split
  · rename_i sea
    refine (always_seafaring i q).bind ?_
    rintro p ⟨ships, three, ledger, hand⟩
    have dry : hasSea = false → ships = 0 := fun none => absurd sea (by simp [none])
    exact drawn three dry ((built ships three dry).congr ledger hand)
  · exact (Draw.always_pure (built 0 (Nat.zero_le 3) fun _ => rfl)).bind fun p plays =>
      drawn (Nat.zero_le 3) (fun _ => rfl) plays

theorem follows_fresh (hasSea : Bool) (i : Nat) :
    Follows hasSea i { player := .fresh i hasSea, vacant := true } ⟨0, 0, 0⟩ 0 := by
  refine ⟨⟨fun _ => rfl, nofun, ?_, ?_, ?_, fun _ => rfl⟩, Nat.zero_le 1, ⟨rfl, ?_, ?_, rfl⟩, rfl⟩
  · exact Nat.zero_le 4
  · exact Nat.zero_le 1
  · exact Nat.zero_le 3
  · exact fun kind _ => Int.add_zero _
  · exact fun item none => absurd none List.not_mem_nil

theorem follows_seat (hasSea : Bool) (i : Nat) :
    (seat hasSea i).Always fun s => ∃ r kept, Follows hasSea i s r kept := by
  have occupied : (do return { player := ← player i hasSea, vacant := false } : Draw Seat).Always
      fun s => ∃ r kept, Follows hasSea i s r kept :=
    (follows_player hasSea i).bind fun p follows => Draw.always_pure follows
  unfold seat
  split
  · refine Draw.always_bind fun vacant => ?_
    split
    · exact Draw.always_pure ⟨_, 0, follows_fresh hasSea i⟩
    · exact occupied
  · exact occupied

theorem Follows.relocated {s t : Seat} (h : Follows hasSea i s r kept) (moved : s.Relocates t) :
    Follows hasSea i t r kept := by
  obtain ⟨nodes, edges, there⟩ := moved.player
  refine ⟨moved.vacant ▸ h.fits, h.few, h.plays.congr ?_ ?_, ?_⟩
  · rw [there]
    rfl
  · rw [there]
  · rw [there]
    exact h.points

end Players

/-- What is known of each seat of a sample game. -/
def Known (hasSea : Bool) (i : Nat) (s : Seat) : Prop :=
  s.Whole hasSea i ∧ ∃ r kept, Follows hasSea i s r kept

theorem known_drawGame (name : String) (others : Nat) (startTime : Instant)
    (small : others + 1 < 2 ^ 31) :
    (drawGame name others startTime).Always (Drawn Known name others startTime) := by
  have own {i : Nat} (hi : i < others + 1) := toNat_ofNat_seat small hi
  refine always_drawGame name others startTime ?_ ?_ ?_
  · intro hasSea
    refine ((whole_player (own (Nat.succ_pos _)) hasSea).and (follows_player hasSea 0)).imp ?_
    exact fun p ⟨whole, follows⟩ => ⟨⟨nofun, fun _ => whole⟩, follows⟩
  · exact fun hasSea i lt => (whole_seat (own lt) hasSea).and (follows_seat hasSea i)
  · rintro hasSea i s t moved ⟨whole, r, kept, follows⟩
    exact ⟨whole.relocated moved, r, kept, follows.relocated moved⟩

end Sample

namespace Game

/-- There is a sample game for every seed and every number of seats that memory can hold. -/
theorem exists_sample (seed : UInt64) {maxPlayers : Nat} (startTime : Instant)
    (filled : 1 ≤ maxPlayers) (few : maxPlayers ≤ 2 ^ 20) :
    ∃ g others, sample? seed maxPlayers startTime = some g ∧ maxPlayers = others + 1 ∧
      Sample.Drawn Sample.Known (Sample.name seed) others startTime g := by
  obtain ⟨others, rfl⟩ := Nat.exists_eq_add_of_le' filled
  have memory : maxSeats = 2 ^ 48 := rfl
  have inMemory : ¬ maxSeats ≤ others := by omega
  exact ⟨_, others, if_neg inMemory, rfl,
    Sample.known_drawGame _ others startTime (by omega) (Generator.ofSeed seed)⟩

end Game

end SavedGames
