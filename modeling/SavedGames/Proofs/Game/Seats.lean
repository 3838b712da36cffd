import Mathlib
import SavedGames.Proofs.Change
import SavedGames.Game

/-!
# Players, numbers and vacancies

A game keeps its players in one list and the vacancies of their seats in another one, and a player
knows the number of the seat. In a consistent game the three fit together, and nothing that is done
to its seats changes that. Side by side, both lists are the seats of the game.
-/
namespace SavedGames.Game

variable {g : Game} {i : Nat} {p : Player} {s : Seat}

/-- Each player has the number of the seat that it is in. -/
def IsNumbered (g : Game) : Prop :=
  ∀ (i : Nat) (p : Player), g.players[i]? = some p → p.number = i

/-- A numbered game is recognised by the numbers of its players. -/
theorem isNumbered_iff :
    g.IsNumbered ↔ g.players.map Player.number = List.range g.players.length := by
  constructor
  · intro numbered
    refine List.ext_getElem (by simp) fun i inside _ => ?_
    have there := List.getElem?_eq_getElem (l := g.players) (by simpa using inside)
    rw [List.getElem_map, List.getElem_range, numbered i _ there]
  · intro numbers i p there
    have number := congrArg (·[i]?) numbers
    obtain ⟨inside, rfl⟩ := List.getElem?_eq_some_iff.mp there
    simpa [inside] using number

structure Consistent (g : Game) : Prop where
  numbered : g.IsNumbered
  vacant : g.vacant.length = g.players.length

/-- A seat for each player, with its vacancy. -/
def seats (g : Game) : List Seat := g.players.mapIdx fun i player => ⟨player, g.isVacant i⟩

@[simp] theorem length_seats (g : Game) : g.seats.length = g.maxPlayers := by
  simp [seats, maxPlayers]

theorem getElem?_seats (g : Game) (i : Nat) :
    g.seats[i]? = (g.player? i).map fun p => ⟨p, g.isVacant i⟩ := by
  simp [seats, player?]

theorem player?_eq (g : Game) (i : Nat) : g.player? i = g.seats[i]?.map Seat.player := by
  simp [getElem?_seats, Function.comp_def]

theorem player?_of_seat (there : g.seats[i]? = some s) : g.player? i = some s.player := by
  rw [player?_eq, there, Option.map_some]

theorem seat_of_player? (there : g.player? i = some p) :
    g.seats[i]? = some ⟨p, g.isVacant i⟩ := by rw [getElem?_seats, there, Option.map_some]

theorem consistent_of_seats
    (number : ∀ (i : Nat) (s : Seat), g.seats[i]? = some s → s.player.number = i)
    (vacant : g.vacant.length = g.players.length) : g.Consistent :=
  ⟨fun i _ there => number i _ (seat_of_player? there), vacant⟩

theorem isVacant_of_seat (there : g.seats[i]? = some s) : g.isVacant i = s.vacant := by
  rw [getElem?_seats] at there
  obtain ⟨p, -, rfl⟩ := Option.map_eq_some_iff.mp there
  rfl

@[simp] theorem map_player_seats (g : Game) : g.seats.map Seat.player = g.players :=
  List.ext_getElem? fun i => by simp [getElem?_seats, player?, Function.comp_def]

theorem map_vacant_seats (h : g.vacant.length = g.players.length) :
    g.seats.map Seat.vacant = g.vacant := by
  refine List.ext_getElem? fun i => ?_
  rcases Nat.lt_or_ge i g.players.length with inside | outside
  · have inside' : i < g.vacant.length := h ▸ inside
    simp [getElem?_seats, player?, isVacant, inside, inside']
  · have outside' : g.vacant.length ≤ i := h ▸ outside
    simp [getElem?_seats, player?, outside, outside']

theorem seats_eq_nil_iff : g.seats = [] ↔ g.players = [] := by
  rw [seats, List.mapIdx_eq_nil_iff]

section Steps

variable {seat : Nat} {name : String}

theorem sitDown_on (inside : seat < g.maxPlayers) :
    (sitDown seat name).on g = (.ok (),
      (g.modifyPlayer seat fun p => { p with name := some name }).setVacant seat false) := by
  rw [sitDown, Change.on_get_bind, if_pos inside]
  rfl

/-- A seat that does not exist is refused before anything is changed. -/
theorem sitDown_on_of_le (outside : g.maxPlayers ≤ seat) :
    (sitDown seat name).on g = (.error (.missingSeat seat g.maxPlayers), g) := by
  rw [sitDown, Change.on_get_bind, if_neg (Nat.not_lt_of_le outside)]
  rfl

theorem consistent_new (name : String) (maxPlayers : Nat) (board : Board) (startTime : Instant) :
    (new name maxPlayers board startTime).Consistent where
  numbered := by
    intro i p there
    rw [new, List.getElem?_map] at there
    obtain ⟨number, place, rfl⟩ := Option.map_eq_some_iff.mp there
    obtain ⟨inside, same⟩ := List.getElem?_eq_some_iff.mp place
    rw [← same, List.getElem_range]
    rfl
  vacant := by simp [new]

theorem Consistent.setVacant (h : g.Consistent) (seat : Nat) (vacant : Bool) :
    (g.setVacant seat vacant).Consistent where
  numbered := h.numbered
  vacant := by simpa [Game.setVacant] using h.vacant

/-- A player keeps its number while it is changed. -/
theorem Consistent.modifyPlayer (h : g.Consistent) (seat : Nat) {f : Player → Player}
    (same : ∀ p, (f p).number = p.number) : (g.modifyPlayer seat f).Consistent where
  numbered := by
    intro i p there
    rw [Game.modifyPlayer, List.getElem?_modify] at there
    obtain ⟨q, place, rfl⟩ := Option.map_eq_some_iff.mp there
    split
    · rw [same, h.numbered i q place]
    · exact h.numbered i q place
  vacant := by simpa [Game.modifyPlayer] using h.vacant

theorem Consistent.sitDown (h : g.Consistent) (seat : Nat) (name : String) :
    ((sitDown seat name).on g).2.Consistent := by
  rcases Nat.lt_or_ge seat g.maxPlayers with inside | outside
  · rw [sitDown_on inside]
    refine Consistent.setVacant (h.modifyPlayer seat ?_) seat false
    exact fun _ => rfl
  · rwa [sitDown_on_of_le outside]

end Steps

/-- Where each player finds the vacancy of its seat, the occupants are those of the other seats. -/
theorem occupants?_eq {vacant : List Bool} {players : List Player}
    (inside : ∀ p ∈ players, p.number < vacant.length) :
    occupants? vacant players =
      some (players.filter fun p => !(vacant[p.number]?).getD true) := by
  induction players with
  | nil => rfl
  | cons p players ih =>
    obtain ⟨here, others⟩ := List.forall_mem_cons.mp inside
    have there : vacant[p.number]? = some vacant[p.number] := List.getElem?_eq_getElem here
    rw [occupants?, ih others, List.filter_cons, there]
    cases free : vacant[p.number] <;> simp

/-- The vacancies of a consistent game have an entry for each of its players. -/
theorem seated?_of_consistent (h : g.Consistent) :
    g.seated? = some (g.players.filter fun p => !g.isVacant p.number) := by
  refine occupants?_eq fun p hp => ?_
  obtain ⟨i, there⟩ := List.mem_iff_getElem?.mp hp
  obtain ⟨inside, -⟩ := List.getElem?_eq_some_iff.mp there
  rwa [h.numbered i p there, h.vacant]

end SavedGames.Game
