import Mathlib
import SavedGames.Proofs.Game.Settled
import SavedGames.Proofs.Snapshot.Lossless

/-!
# The elements of a restored seat

A restored player has the last value that the elements of the seat give to a tag. A look-up finds
the first one, so the two agree where a tag has one value, as it has in every list without
repetitions.
-/
namespace SavedGames

namespace Elements

/-- The value of the last entry with this tag. -/
def last? (es : Elements) (tag : Element) : Option Int32 :=
  ((es.filter fun e => e.1 = tag).getLast?).map Prod.snd

variable {es : Elements} {e : Element × Int32} {tag : Element}

theorem value?_eq_head? (es : Elements) (tag : Element) :
    es.value? tag = ((es.filter fun e => e.1 = tag).head?).map Prod.snd := by
  rw [value?, List.head?_filter]

theorem last?_cons :
    last? (e :: es) tag = (last? es tag).or (if e.1 = tag then some e.2 else none) := by
  unfold last?
  by_cases here : e.1 = tag
  · rw [List.filter_cons_of_pos (by simpa using here), List.getLast?_cons, if_pos here]
    cases (es.filter fun e => e.1 = tag).getLast? <;> rfl
  · rw [List.filter_cons_of_neg (by simpa using here), if_neg here, Option.or_none]

/-- A tag that the list contains has a first value and a last one. -/
theorem value?_eq_none_iff : es.value? tag = none ↔ last? es tag = none := by
  rw [value?_eq_head?, last?, Option.map_eq_none_iff, Option.map_eq_none_iff,
    List.head?_eq_none_iff, List.getLast?_eq_none_iff]

/-- A tag that stands once has one value. -/
theorem value?_eq_last? (distinct : (es.map Prod.fst).Nodup) : es.value? tag = last? es tag := by
  induction es with
  | nil => rfl
  | cons e es ih =>
    obtain ⟨new, rest⟩ := List.nodup_cons.mp distinct
    rw [last?_cons]
    by_cases here : e.1 = tag
    · have absent : last? es tag = none := by
        have none : (es.filter fun e => e.1 = tag) = [] := by
          refine List.filter_eq_nil_iff.mpr fun d hd same => new ?_
          rw [here, ← of_decide_eq_true same]
          exact List.mem_map_of_mem hd
        rw [last?, none, List.getLast?_nil, Option.map_none]
      rw [absent, Option.none_or, if_pos here, value?, List.find?_cons_of_pos (by simpa using here),
        Option.map_some]
    · rw [if_neg here, Option.or_none, ← ih rest, value?,
        List.find?_cons_of_neg (by simpa using here), value?]

end Elements

namespace Player

/-- How much a player has of a counted thing. -/
def count (p : Player) : Element → Int32
  | .resource r => p.resources.amount r
  | .roads => p.stock.roads
  | .settlements => p.stock.settlements
  | .cities => p.stock.cities
  | .ships => p.stock.ships
  | .knights => p.knights
  | .warships => p.warships

theorem amount_set (rs : Resources) (r sought : Resource) (n : Int32) :
    (rs.set r n).amount sought = if r = sought then n else rs.amount sought := by
  cases r <;> cases sought <;> rfl

theorem count_withElement (p : Player) (e tag : Element) (n : Int32) :
    (p.withElement e n).count tag = if e = tag then n else p.count tag := by
  cases e with
  | resource r =>
    cases tag with
    | resource sought =>
      have set : (p.withElement (.resource r) n).resources = p.resources.set r n := rfl
      rw [count, set, amount_set, count]
      simp only [Element.resource.injEq]
    | _ => rfl
  | _ => cases tag <;> rfl

/-- By induction on the entries: each one hides what stands before it. -/
theorem count_withElements (es : Elements) (p : Player) (tag : Element) :
    (p.withElements es).count tag = (Elements.last? es tag).getD (p.count tag) := by
  induction es generalizing p with
  | nil => rfl
  | cons e es ih =>
    have step : p.withElements (e :: es) = (p.withElement e.1 e.2).withElements es := rfl
    rw [step, ih, count_withElement, Elements.last?_cons]
    by_cases here : e.1 = tag <;> cases Elements.last? es tag <;> simp [here]

/-- Cards, pieces and potentials are no counted things. -/
theorem count_restored {s : SeatRecord} (hasSea : Bool) (i : Nat) (records : List Potentials)
    (occupied : s.vacant = false) (tag : Element) :
    (s.restored hasSea i records).player.count tag =
      (Elements.last? s.elements tag).getD ((fresh i hasSea).count tag) := by
  have potentials (p : Player) : (p.withPotentialsAt i records).count tag = p.count tag := by
    unfold withPotentialsAt
    split <;> cases tag <;> rfl
  have start : (s.nameplate hasSea i).count tag = (fresh i hasSea).count tag := by
    cases tag <;> rfl
  have elements := count_withElements s.elements (s.nameplate hasSea i) tag
  rw [start] at elements
  rw [SeatRecord.restored, potentials, ← elements, ofRecord, occupied, if_neg Bool.false_ne_true,
    withCards_eq]
  cases tag <;> rfl

end Player

namespace Game

variable {m : Snapshot} {now : Instant} {g : Game}

/-- What the elements of an occupied seat leave open is as in a new game, and what they say twice is
what they say last. A look-up by tag agrees with this exactly where it finds the last value too. -/
theorem restored_count {i : Nat} {s : SeatRecord} (h : restore m now = .ok g)
    (there : m.seats[i]? = some s) (occupied : s.vacant = false) :
    ∃ p, g.player? i = some p ∧
      (∀ tag, p.count tag =
        (Elements.last? s.elements tag).getD ((Player.fresh i g.hasSea).count tag)) ∧
      (∀ tag, p.count tag = (s.elements.value? tag).getD ((Player.fresh i g.hasSea).count tag) ↔
        s.elements.value? tag = Elements.last? s.elements tag) ∧
      ((s.elements.map Prod.fst).Nodup → ∀ tag, p.count tag =
        (s.elements.value? tag).getD ((Player.fresh i g.hasSea).count tag)) := by
  obtain ⟨-, options, board, startTime, -, -, -, rfl⟩ := Snapshot.restore_eq_ok.mp h
  have sea := hasSea_waiting (m := m) options board startTime
  have last (tag : Element) : (s.restored board.hasSea i m.board.potentials).player.count tag =
      (Elements.last? s.elements tag).getD ((Player.fresh i board.hasSea).count tag) :=
    Player.count_restored board.hasSea i m.board.potentials occupied tag
  refine ⟨(s.restored board.hasSea i m.board.potentials).player, ?_, ?_, ?_, ?_⟩
  · simp [player?, Snapshot.waiting, there]
  · intro tag
    rw [sea, last]
  · intro tag
    rw [sea, last]
    constructor
    · intro same
      cases first : s.elements.value? tag with
      | none => rw [Elements.value?_eq_none_iff.mp first]
      | some v =>
        cases found : Elements.last? s.elements tag with
        | none => rw [Elements.value?_eq_none_iff.mpr found] at first; cases first
        | some w =>
          rw [first, found] at same
          exact congrArg some same.symm
    · intro same
      rw [same]
  · intro distinct tag
    rw [sea, last, Elements.value?_eq_last? distinct]

theorem specimen_restored_count :
    ∃ g p, restore Snapshot.specimen (.mk 2000 0) = .ok g ∧ g.player? 1 = some p ∧
      p.count .roads = 13 ∧ p.count (.resource .ore) = 2 ∧ p.count .ships = 15 := by
  obtain ⟨g, h, onSea⟩ : ∃ g, restore Snapshot.specimen (.mk 2000 0) = .ok g ∧ g.hasSea = true :=
    ⟨_, rfl, rfl⟩
  obtain ⟨p, there, last, -, -⟩ := restored_count (i := 1) h rfl rfl
  rw [onSea] at last
  exact ⟨g, p, h, there, last .roads, last (.resource .ore), last .ships⟩

/-- A save of one seat whose elements speak of clay twice. -/
def repetitive : Snapshot where
  version := modelVersion
  minVersion := 1000
  name := "harbour"
  options := none
  duration := 60
  currentPlayer := 0
  phase := .rollOrCard
  dice := 0
  board := ⟨.positional ⟨[3, 4], [8], 1⟩, []⟩
  seats := [{ SeatRecord.empty with
    name := some "Ada"
    vacant := false
    elements := [(.resource .clay, 2), (.resource .clay, 5)] }]
  constraints := []

/-- A look-up finds the first amount of clay, and the restored player has the second one. -/
theorem repeated_tag_read_apart :
    ∃ g s p, restore repetitive (.mk 3600 0) = .ok g ∧ repetitive.seats[0]? = some s ∧
      s.vacant = false ∧ g.player? 0 = some p ∧ s.elements.value? (.resource .clay) = some 2 ∧
      p.count (.resource .clay) = 5 :=
  ⟨_, _, _, rfl, rfl, rfl, rfl, rfl, rfl⟩

end Game

end SavedGames
