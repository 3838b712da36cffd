import Mathlib
import SavedGames.Game.Player
import SavedGames.Proofs.Counter

/-!
# Placing pieces from stock

A piece that is placed is taken from stock, and a city puts the settlement at its node back. With
counters of any size, the stock and the pieces on the board together stay what a player begins with,
whatever is placed and wherever. The counters of a player are these as long as they can hold them.
-/
namespace SavedGames

/-- The piece is a city at the node of the settlement `q`. -/
def Piece.displaces (piece q : Piece) : Bool :=
  piece.kind == .city && (q.kind == .settlement && q.coord == piece.coord)

def Piece.countOf (kind : PieceKind) (pieces : List Piece) : Nat :=
  (pieces.map Piece.kind).count kind

@[simp] theorem Piece.countOf_nil (kind : PieceKind) : countOf kind [] = 0 := rfl

@[simp] theorem Piece.countOf_cons (kind : PieceKind) (q : Piece) (pieces : List Piece) :
    countOf kind (q :: pieces) = countOf kind pieces + if kind = q.kind then 1 else 0 := by
  have same : (q.kind == kind) = true ↔ kind = q.kind := beq_iff_eq.trans eq_comm
  simp only [countOf, List.map_cons, List.count_cons, same]

@[simp] theorem Piece.countOf_append (kind : PieceKind) (pieces others : List Piece) :
    countOf kind (pieces ++ others) = countOf kind pieces + countOf kind others := by
  simp [countOf]

/-- The stock of a player and his pieces on the board. The stock is counted without bounds. -/
structure Ledger where
  stock : PieceKind → Int
  pieces : List Piece

namespace Ledger

variable {l : Ledger} {piece : Piece} {placed : List Piece} {kind : PieceKind}

/-- The piece has a settlement to displace. -/
def Upgrades (l : Ledger) (piece : Piece) : Prop := ∃ q ∈ l.pieces, piece.displaces q = true

instance (l : Ledger) (piece : Piece) : Decidable (l.Upgrades piece) :=
  inferInstanceAs (Decidable (∃ q ∈ l.pieces, piece.displaces q = true))

/-- What the piece displaces goes back to stock. The piece comes from there if players build it. -/
def place (l : Ledger) (piece : Piece) : Ledger where
  stock kind := l.stock kind + (if kind = .settlement ∧ l.Upgrades piece then 1 else 0) -
    if kind = piece.kind ∧ kind ∈ PieceKind.buildable then 1 else 0
  pieces := l.pieces.eraseP piece.displaces ++ [piece]

theorem stock_place (l : Ledger) (piece : Piece) (kind : PieceKind) :
    (l.place piece).stock kind =
      l.stock kind + (if kind = .settlement ∧ l.Upgrades piece then 1 else 0) -
        if kind = piece.kind ∧ kind ∈ PieceKind.buildable then 1 else 0 := rfl

def after (l : Ledger) (placed : List Piece) : Ledger := placed.foldl place l

/-- How many of the pieces displace a settlement when they are placed one after the other. -/
def upgrades (l : Ledger) : List Piece → Nat
  | [] => 0
  | piece :: placed => (if l.Upgrades piece then 1 else 0) + (l.place piece).upgrades placed

/-- What placing a piece does to the pieces on the board. -/
structure Places (l : Ledger) (piece : Piece) (l' : Ledger) : Prop where
  upgrade : l.Upgrades piece → ∃ first q rest, piece.displaces q = true ∧
    l.pieces = first ++ q :: rest ∧ l'.pieces = first ++ rest ++ [piece]
  other : ¬ l.Upgrades piece → l'.pieces = l.pieces ++ [piece]

theorem places_place (l : Ledger) (piece : Piece) : l.Places piece (l.place piece) := by
  constructor
  · rintro ⟨q, hq, displaced⟩
    obtain ⟨r, first, rest, -, displaced, all, left⟩ := List.exists_of_eraseP hq displaced
    exact ⟨first, r, rest, displaced, all, by rw [place, left]⟩
  · intro none
    have same : l.pieces.eraseP piece.displaces = l.pieces :=
      List.eraseP_of_forall_not fun q hq displaced => none ⟨q, hq, displaced⟩
    rw [place, same]

theorem upgrades_iff : l.Upgrades piece ↔ (l.pieces.findIdx? piece.displaces).isSome = true := by
  rw [List.findIdx?_isSome, List.any_eq_true, Upgrades]

theorem city_of_upgrades (h : l.Upgrades piece) : piece.kind = .city := by
  obtain ⟨q, -, displaced⟩ := h
  simp only [Piece.displaces, Bool.and_eq_true, beq_iff_eq] at displaced
  exact displaced.1

theorem countOf_place (l : Ledger) (piece : Piece) (kind : PieceKind) :
    Piece.countOf kind (l.place piece).pieces +
        (if kind = .settlement ∧ l.Upgrades piece then 1 else 0) =
      Piece.countOf kind l.pieces + if kind = piece.kind then 1 else 0 := by
  obtain ⟨upgrade, other⟩ := l.places_place piece
  by_cases found : l.Upgrades piece
  · obtain ⟨first, q, rest, displaced, all, left⟩ := upgrade found
    have settlement : q.kind = .settlement := by
      simp only [Piece.displaces, Bool.and_eq_true, beq_iff_eq] at displaced
      exact displaced.2.1
    simp only [left, all, Piece.countOf_append, Piece.countOf_cons, Piece.countOf_nil, settlement,
      found, and_true]
    omega
  · simp [other found, found]

/-- A piece only moves between the stock and the board. -/
theorem balance_place (built : kind ∈ PieceKind.buildable) :
    (l.place piece).stock kind + Piece.countOf kind (l.place piece).pieces =
      l.stock kind + Piece.countOf kind l.pieces := by
  have board := l.countOf_place piece kind
  simp only [stock_place, built, and_true]
  split_ifs at board ⊢ <;> omega

theorem balance_after (built : kind ∈ PieceKind.buildable) :
    (l.after placed).stock kind + Piece.countOf kind (l.after placed).pieces =
      l.stock kind + Piece.countOf kind l.pieces := by
  induction placed generalizing l with
  | nil => rfl
  | cons piece placed ih => exact ih.trans (balance_place built)

theorem countOf_after (l : Ledger) (placed : List Piece) (kind : PieceKind) :
    Piece.countOf kind (l.after placed).pieces +
        (if kind = .settlement then l.upgrades placed else 0) =
      Piece.countOf kind l.pieces + Piece.countOf kind placed := by
  induction placed generalizing l with
  | nil => simp [after, upgrades]
  | cons piece placed ih =>
    have here := l.countOf_place piece kind
    have later := ih (l.place piece)
    have step : l.after (piece :: placed) = (l.place piece).after placed := rfl
    rw [step, upgrades, Piece.countOf_cons]
    by_cases settlement : kind = .settlement
    · simp only [settlement, if_true, true_and] at here later ⊢
      omega
    · simp only [settlement, if_false, false_and] at here later ⊢
      omega

theorem sublist_after (l : Ledger) (placed : List Piece) :
    (l.after placed).pieces.Sublist (l.pieces ++ placed) := by
  induction placed generalizing l with
  | nil => simp [after]
  | cons piece placed ih =>
    have left : (l.place piece).pieces.Sublist (l.pieces ++ [piece]) :=
      List.eraseP_sublist.append_right [piece]
    have step : l.pieces ++ piece :: placed = l.pieces ++ [piece] ++ placed := by simp
    rw [step]
    exact (ih (l.place piece)).trans (left.append_right placed)

end Ledger

namespace Stock

variable {s s' : Stock} {kind : PieceKind} {n : Int32}

theorem count_set (s : Stock) (kind k : PieceKind) (n : Int32) :
    (s.set kind n).count k = if k = kind ∧ k ∈ PieceKind.buildable then n else s.count k := by
  cases kind <;> cases k <;> rfl

theorem count_eq_zero (s : Stock) (h : kind ∉ PieceKind.buildable) : s.count kind = 0 := by
  cases kind <;> simp [PieceKind.buildable] at h <;> rfl

theorem toInt_count_of_add? (h : s.add? kind n = some s') (k : PieceKind) :
    (s'.count k).toInt =
      (s.count k).toInt + if k = kind ∧ k ∈ PieceKind.buildable then n.toInt else 0 := by
  obtain ⟨sum, added, rfl⟩ := Option.map_eq_some_iff.mp h
  have exact := Counter.toInt_of_sum? added
  rw [count_set]
  split_ifs with here
  · rw [exact, here.1]
  · rw [add_zero]

theorem exists_add? (low : -2 ^ 31 ≤ (s.count kind).toInt + n.toInt)
    (high : (s.count kind).toInt + n.toInt < 2 ^ 31) : ∃ s', s.add? kind n = some s' := by
  obtain ⟨sum, added⟩ := Counter.exists_sum? low high
  exact ⟨s.set kind sum, by rw [add?, added, Option.map_some]⟩

end Stock

namespace Player

variable {p q : Player} {piece : Piece} {placed : List Piece}

def ledger (p : Player) : Ledger := ⟨fun kind => (p.stock.count kind).toInt, p.pieces⟩

theorem place?_eq (p : Player) (piece : Piece) :
    p.place? piece =
      (if piece.kind = .city then p.removeSettlement? piece.coord else some p).bind fun p =>
        (p.stock.add? piece.kind (-1)).map fun stock =>
          { p with pieces := p.pieces ++ [piece], stock } := by
  simp only [Option.map_eq_bind]
  unfold place?
  split <;> rfl

/-- First the settlement goes back to stock if there is one, and then the piece comes from there. -/
theorem place?_ledger (p : Player) (piece : Piece) :
    p.place? piece =
      (if p.ledger.Upgrades piece then p.stock.add? .settlement 1 else some p.stock).bind
        fun stock => (stock.add? piece.kind (-1)).map fun stock =>
          { p with pieces := p.pieces.eraseP piece.displaces ++ [piece], stock } := by
  rw [place?_eq]
  by_cases city : piece.kind = .city
  · have same : (fun q : Piece => q.kind == .settlement && q.coord == piece.coord) =
        piece.displaces := by
      funext q
      simp [Piece.displaces, city]
    rw [if_pos city, removeSettlement?, same, List.eraseP_eq_eraseIdx]
    have found : p.ledger.Upgrades piece ↔ (p.pieces.findIdx? piece.displaces).isSome = true :=
      Ledger.upgrades_iff
    cases index : p.pieces.findIdx? piece.displaces with
    | none =>
      rw [if_neg (by simp [found, index])]
      rfl
    | some i =>
      rw [if_pos (by simp [found, index])]
      cases p.stock.add? .settlement 1 <;> rfl
  · have never (q : Piece) : ¬ piece.displaces q = true := by simp [Piece.displaces, city]
    have missing : ¬ p.ledger.Upgrades piece := fun ⟨q, _, displaced⟩ => never q displaced
    rw [if_neg city, if_neg missing, List.eraseP_of_forall_not fun q _ => never q]
    rfl

theorem stock_ledger (p : Player) (kind : PieceKind) :
    p.ledger.stock kind = (p.stock.count kind).toInt := rfl

theorem toInt_count_back {stock : Stock}
    (h : (if p.ledger.Upgrades piece then p.stock.add? .settlement 1 else some p.stock) =
      some stock) (kind : PieceKind) :
    (stock.count kind).toInt =
      p.ledger.stock kind + if kind = .settlement ∧ p.ledger.Upgrades piece then 1 else 0 := by
  by_cases upgrades : p.ledger.Upgrades piece
  · rw [if_pos upgrades] at h
    have built : (kind = .settlement ∧ kind ∈ PieceKind.buildable) ↔ kind = .settlement := by
      cases kind <;> simp [PieceKind.buildable]
    have counted := Stock.toInt_count_of_add? h kind
    rw [stock_ledger, counted]
    simp [upgrades, built]
  · rw [if_neg upgrades] at h
    obtain rfl := Option.some.inj h
    simp [upgrades, stock_ledger]

/-- The counters of a player are the exact ones as long as he can place his pieces. -/
theorem ledger_of_place? (h : p.place? piece = some q) : q.ledger = p.ledger.place piece := by
  rw [place?_ledger, Option.bind_eq_some_iff] at h
  obtain ⟨stock, back, h⟩ := h
  obtain ⟨stock', taken, rfl⟩ := Option.map_eq_some_iff.mp h
  have stocks : (fun kind => (stock'.count kind).toInt) = (p.ledger.place piece).stock := by
    funext kind
    have counted := Stock.toInt_count_of_add? taken kind
    have one : (-1 : Int32).toInt = -1 := rfl
    rw [toInt_count_back back, one] at counted
    rw [counted, Ledger.stock_place]
    split_ifs <;> omega
  rw [ledger, stocks]
  rfl

/-- A piece is placed if the counters can hold the stock that it leaves. -/
theorem exists_place? (low : ∀ kind, -2 ^ 31 ≤ (p.ledger.place piece).stock kind)
    (high : ∀ kind, (p.ledger.place piece).stock kind < 2 ^ 31) : ∃ q, p.place? piece = some q := by
  have one : (1 : Int32).toInt = 1 := rfl
  have minusOne : (-1 : Int32).toInt = -1 := rfl
  obtain ⟨stock, back⟩ : ∃ stock, (if p.ledger.Upgrades piece then p.stock.add? .settlement 1
      else some p.stock) = some stock := by
    by_cases upgrades : p.ledger.Upgrades piece
    · have city := Ledger.city_of_upgrades upgrades
      have left : (p.ledger.place piece).stock .settlement =
          (p.stock.count .settlement).toInt + (1 : Int32).toInt := by
        simp [Ledger.stock_place, upgrades, city, stock_ledger, one]
      rw [if_pos upgrades]
      exact Stock.exists_add? (left ▸ low .settlement) (left ▸ high .settlement)
    · exact ⟨p.stock, if_neg upgrades⟩
  obtain ⟨stock', taken⟩ : ∃ stock', stock.add? piece.kind (-1) = some stock' := by
    by_cases built : piece.kind ∈ PieceKind.buildable
    · have left : (p.ledger.place piece).stock piece.kind =
          (stock.count piece.kind).toInt + (-1 : Int32).toInt := by
        simp [toInt_count_back back, Ledger.stock_place, built, minusOne, sub_eq_add_neg]
      exact Stock.exists_add? (left ▸ low piece.kind) (left ▸ high piece.kind)
    · have none := stock.count_eq_zero built
      exact Stock.exists_add? (by rw [none]; decide) (by rw [none]; decide)
  exact ⟨_, by rw [place?_ledger, back, Option.bind_some, taken, Option.map_some]⟩

/-- No stock rises above what the player has of the kind, and each piece takes one at most. -/
theorem exists_placeAll (low : ∀ kind, -2 ^ 31 + placed.length ≤ p.ledger.stock kind)
    (high : ∀ kind ∈ PieceKind.buildable,
      p.ledger.stock kind + Piece.countOf kind p.pieces < 2 ^ 31) :
    ∃ q, placed.foldlM place? p = some q := by
  induction placed generalizing p with
  | nil => exact ⟨p, rfl⟩
  | cons piece placed ih =>
    rw [List.length_cons] at low
    have least (kind : PieceKind) :
        -2 ^ 31 + (placed.length : Int) ≤ (p.ledger.place piece).stock kind := by
      have before := low kind
      rw [Ledger.stock_place]
      split_ifs <;> omega
    have most : ∀ kind ∈ PieceKind.buildable, (p.ledger.place piece).stock kind +
        Piece.countOf kind (p.ledger.place piece).pieces < 2 ^ 31 := by
      intro kind built
      rw [Ledger.balance_place built]
      exact high kind built
    have fits (kind : PieceKind) : (p.ledger.place piece).stock kind < 2 ^ 31 := by
      by_cases built : kind ∈ PieceKind.buildable
      · have := most kind built
        omega
      · have none := p.stock.count_eq_zero built
        have other : kind ≠ .settlement := fun same => built (same ▸ by simp [PieceKind.buildable])
        simp [Ledger.stock_place, built, other, stock_ledger, none]
    obtain ⟨q, first⟩ := exists_place? (fun kind => by have := least kind; omega) fits
    have same := ledger_of_place? first
    have pieces : q.pieces = (p.ledger.place piece).pieces := congrArg Ledger.pieces same
    obtain ⟨r, later⟩ := @ih q (by rwa [same]) (by rwa [same, pieces])
    exact ⟨r, by rw [List.foldlM_cons, first]; exact later⟩

theorem ledger_of_placeAll (h : placed.foldlM place? p = some q) :
    q.ledger = p.ledger.after placed := by
  induction placed generalizing p with
  | nil =>
    obtain rfl := Option.some.inj h
    rfl
  | cons piece placed ih =>
    rw [List.foldlM_cons, Option.bind_eq_bind, Option.bind_eq_some_iff] at h
    obtain ⟨r, first, later⟩ := h
    rw [ih later, ledger_of_place? first]
    rfl

theorem stock_fresh (number : Nat) (hasSea : Bool) (kind : PieceKind) :
    0 ≤ (fresh number hasSea).ledger.stock kind ∧
      (fresh number hasSea).ledger.stock kind ≤ 15 := by
  rw [stock_ledger]
  change 0 ≤ ((Stock.full hasSea).count kind).toInt ∧ ((Stock.full hasSea).count kind).toInt ≤ 15
  cases kind <;> cases hasSea <;> decide

/-- Whatever is placed, the stock and the pieces of a kind together stay what a player begins with.
As many settlements are missing on the board as cities found one, each of these took one away, and
what is left stands in the order in which it was placed. The counters of the player are the exact
ones, and it takes more than `2 ^ 31` pieces to leave their range. -/
theorem placing_conserves_stock (number : Nat) (hasSea : Bool) (placed : List Piece) :
    let start := (fresh number hasSea).ledger
    let l := start.after placed
    (l.stock .road + Piece.countOf .road l.pieces = 15 ∧
      l.stock .settlement + Piece.countOf .settlement l.pieces = 5 ∧
      l.stock .city + Piece.countOf .city l.pieces = 4 ∧
      l.stock .ship + Piece.countOf .ship l.pieces = if hasSea then 15 else 0) ∧
    (∀ kind, Piece.countOf kind placed =
      Piece.countOf kind l.pieces + if kind = .settlement then start.upgrades placed else 0) ∧
    (∀ before piece after, placed = before ++ piece :: after →
      (start.after before).Places piece (start.after (before ++ [piece]))) ∧
    l.pieces.Sublist placed ∧
    (∀ p, placed.foldlM place? (fresh number hasSea) = some p → p.ledger = l) ∧
    (placed.length ≤ 2 ^ 31 → ∃ p, placed.foldlM place? (fresh number hasSea) = some p) := by
  intro start l
  have balance : ∀ kind ∈ PieceKind.buildable,
      l.stock kind + Piece.countOf kind l.pieces = start.stock kind :=
    fun kind built => (Ledger.balance_after built).trans (Int.add_zero _)
  simp only [PieceKind.buildable, List.forall_mem_cons] at balance
  obtain ⟨roads, settlements, cities, ships, -⟩ := balance
  refine ⟨⟨roads, settlements, cities, ?_⟩, fun kind => ?_, ?_, ?_, ?_, ?_⟩
  · rw [ships]
    cases hasSea <;> rfl
  · have counted : Piece.countOf kind l.pieces +
        (if kind = .settlement then start.upgrades placed else 0) = 0 + Piece.countOf kind placed :=
      start.countOf_after placed kind
    omega
  · rintro before piece after -
    rw [Ledger.after, Ledger.after, List.foldl_append]
    exact Ledger.places_place _ piece
  · exact start.sublist_after placed
  · exact fun p => ledger_of_placeAll
  · intro few
    refine exists_placeAll (fun kind => ?_) fun kind _ => ?_
    · have := (stock_fresh number hasSea kind).1
      omega
    · have most := (stock_fresh number hasSea kind).2
      have none : Piece.countOf kind (fresh number hasSea).pieces = 0 := rfl
      omega

/-- Two settlements at one node, and three cities, of which the last one finds none. -/
def crossing : List Piece :=
  [⟨.settlement, 34, 0, none⟩, ⟨.settlement, 34, 0, none⟩, ⟨.road, 50, 0, none⟩,
    ⟨.city, 34, 0, none⟩, .fortress 16 0 3, ⟨.city, 34, 0, none⟩, ⟨.city, 34, 0, none⟩]

theorem crossing_conserves_stock :
    ∃ p, crossing.foldlM place? (fresh 0 true) = some p ∧
      p.pieces.map Piece.kind = [.road, .city, .fortress, .city, .city] ∧
      (fresh 0 true).ledger.upgrades crossing = 2 ∧ (p.stock.count .settlement).toInt = 5 ∧
      (p.stock.count .city).toInt = 1 := by
  obtain ⟨⟨-, settlements, cities, -⟩, counted, -, -, same, enough⟩ :=
    placing_conserves_stock 0 true crossing
  obtain ⟨p, placed⟩ := enough (by decide)
  have kinds : p.ledger.pieces.map Piece.kind = [.road, .city, .fortress, .city, .city] := by
    rw [same p placed]
    rfl
  have none : Piece.countOf .settlement p.ledger.pieces = 0 := by rw [Piece.countOf, kinds]; rfl
  have three : Piece.countOf .city p.ledger.pieces = 3 := by rw [Piece.countOf, kinds]; rfl
  have two : Piece.countOf .settlement crossing = 2 := rfl
  have removed := counted .settlement
  rw [← same p placed] at settlements cities removed
  rw [if_pos rfl] at removed
  rw [stock_ledger] at settlements cities
  exact ⟨p, placed, kinds, by omega, by omega, by omega⟩

end Player
end SavedGames
