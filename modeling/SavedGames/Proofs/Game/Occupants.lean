import Mathlib
import SavedGames.Proofs.Game.Cycle
import SavedGames.Proofs.Snapshot.Demands

/-!
# Who sits in a restored seat

Every seat of a game is free, a human's or a robot's, and the constraints tell the three apart. The
class of a robot and the mark of a built-in one are restored as they were saved. A constraint that
asks for them finds a robot, unless the save gives them to a human.
-/
namespace SavedGames

/-- The seat is free or taken as the record says, by the same kind of player. -/
structure Seat.SeatsAs (t : Seat) (s : SeatRecord) : Prop where
  vacant : t.vacant = s.vacant
  isRobot : t.player.isRobot = s.isRobot
  isBuiltInRobot : t.player.isBuiltInRobot = s.isBuiltInRobot
  robotClass : t.player.robotClass = s.robotClass

/-- The record puts a human into seat `i` and gives him what only a robot has: the mark of a
built-in robot, or a class. -/
def Snapshot.HasMarkedHuman (m : Snapshot) (i : Nat) : Prop :=
  ∃ s, m.seats[i]? = some s ∧ s.vacant = false ∧ s.isRobot = false ∧
    (s.isBuiltInRobot = true ∨ ∃ name, s.robotClass = some name)

theorem SeatRecord.seatsAs_restored (s : SeatRecord) (hasSea : Bool) (i : Nat)
    (records : List Potentials) : (s.restored hasSea i records).SeatsAs s := by
  cases vacant : s.vacant with
  | true =>
    obtain ⟨nodes, edges, potentials⟩ :=
      Player.withPotentialsAt_frame i records (.ofRecord i s hasSea)
    rw [restored, potentials, ofRecord_of_vacant hasSea i vacant]
    exact ⟨rfl, rfl, rfl, rfl⟩
  | false =>
    obtain ⟨_, _, _, _, _, _, player⟩ := s.restored_frame hasSea i records vacant
    constructor
    · rfl
    all_goals rw [player]

namespace Constraint

variable {g : Game} {c : Constraint} {t : Seat}

theorem holdsOn_iff (there : g.seats[c.seat.toNat]? = some t) : c.HoldsOn g ↔ c.IsMetBy t := by
  obtain ⟨inside, seat⟩ := List.getElem?_eq_some_iff.mp there
  rw [HoldsOn, exists_prop_of_true inside, seat]

theorem not_holdsOn (outside : g.maxPlayers ≤ c.seat.toNat) : ¬ c.HoldsOn g := by
  rintro ⟨inside, -⟩
  rw [Game.length_seats] at inside
  omega

/-- A seat is free, a human's or a robot's, and it is only one of them. -/
theorem existsUnique_isMetBy (t : Seat) (seat : SeatNumber) :
    ∃! c, c ∈ [vacant seat, human seat, robot seat] ∧ c.IsMetBy t := by
  simp only [List.mem_cons, List.not_mem_nil, or_false]
  cases free : t.vacant with
  | true =>
    refine ⟨vacant seat, ⟨.inl rfl, free⟩, ?_⟩
    rintro c ⟨rfl | rfl | rfl, met⟩
    · rfl
    all_goals simp [IsMetBy, free] at met
  | false =>
    cases kind : t.player.isRobot with
    | true =>
      refine ⟨robot seat, ⟨.inr (.inr rfl), free, kind⟩, ?_⟩
      rintro c ⟨rfl | rfl | rfl, met⟩
      · simp [IsMetBy, free] at met
      · simp [IsMetBy, kind] at met
      · rfl
    | false =>
      refine ⟨human seat, ⟨.inr (.inl rfl), free, kind⟩, ?_⟩
      rintro c ⟨rfl | rfl | rfl, met⟩
      · simp [IsMetBy, free] at met
      · rfl
      · simp [IsMetBy, kind] at met

end Constraint

namespace Game

variable {m n : Snapshot} {g g' : Game} {now : Instant} {i : Nat} {seat : SeatNumber}

theorem seatsAs_of_restore (h : restore m now = .ok g) (inside : i < g.maxPlayers) :
    ∃ t s, g.seats[i]? = some t ∧ m.seats[i]? = some s ∧ t.SeatsAs s := by
  have count : i < m.seats.length := maxPlayers_of_restore h ▸ inside
  have there : m.seats[i]? = some m.seats[i] := List.getElem?_eq_getElem count
  exact ⟨_, m.seats[i], getElem?_of_restore h there, there, SeatRecord.seatsAs_restored _ _ _ _⟩

theorem existsUnique_check (inside : seat.toNat < g.maxPlayers) :
    ∃! c, c ∈ [Constraint.vacant seat, .human seat, .robot seat] ∧ c.check g.session = .ok () := by
  obtain ⟨t, there⟩ : ∃ t, g.seats[seat.toNat]? = some t :=
    ⟨_, List.getElem?_eq_getElem (inside.trans_eq g.length_seats.symm)⟩
  have met : ∀ c ∈ [Constraint.vacant seat, .human seat, .robot seat],
      c.check g.session = .ok () ↔ c.IsMetBy t := by
    simp only [List.forall_mem_cons, Constraint.check_session_eq_ok]
    exact ⟨Constraint.holdsOn_iff there, Constraint.holdsOn_iff there,
      Constraint.holdsOn_iff there, by simp⟩
  obtain ⟨c, ⟨mem, meets⟩, only⟩ := Constraint.existsUnique_isMetBy t seat
  exact ⟨c, ⟨mem, (met c mem).mpr meets⟩,
    fun d hd => only d ⟨hd.1, (met d hd.1).mp hd.2⟩⟩

/-- What only a robot has is found on a human exactly if it was saved so. -/
theorem marked_human_iff (h : restore m now = .ok g) :
    ((Constraint.human seat).HoldsOn g ∧ ((Constraint.builtInRobot seat).HoldsOn g ∨
      ∃ name, (Constraint.robotClass seat name).HoldsOn g)) ↔ m.HasMarkedHuman seat.toNat := by
  have count := maxPlayers_of_restore h
  rcases Nat.lt_or_ge seat.toNat g.maxPlayers with inside | outside
  · obtain ⟨t, s, there, record, same⟩ := seatsAs_of_restore h inside
    have human : (Constraint.human seat).HoldsOn g ↔ s.vacant = false ∧ s.isRobot = false := by
      rw [Constraint.holdsOn_iff there, Constraint.IsMetBy, same.vacant, same.isRobot]
    have builtIn : (Constraint.builtInRobot seat).HoldsOn g ↔
        s.vacant = false ∧ s.isBuiltInRobot = true := by
      rw [Constraint.holdsOn_iff there, Constraint.IsMetBy, same.vacant, same.isBuiltInRobot]
    have ofClass (name : String) : (Constraint.robotClass seat name).HoldsOn g ↔
        s.vacant = false ∧ s.robotClass = some name := by
      rw [Constraint.holdsOn_iff there, Constraint.IsMetBy, same.vacant, same.robotClass]
    have marked : m.HasMarkedHuman seat.toNat ↔ s.vacant = false ∧ s.isRobot = false ∧
        (s.isBuiltInRobot = true ∨ ∃ name, s.robotClass = some name) := by
      simp [Snapshot.HasMarkedHuman, record]
    simp only [human, builtIn, ofClass, marked, exists_and_left]
    tauto
  · refine iff_of_false (fun both => Constraint.not_holdsOn outside both.1) ?_
    rintro ⟨s, record, -⟩
    have inside := (List.getElem?_eq_some_iff.mp record).1
    omega

/-- A player with the mark or the class of a robot is a robot if he is no human. -/
theorem robot_iff_of_marked (marked : (Constraint.builtInRobot seat).HoldsOn g ∨
    ∃ name, (Constraint.robotClass seat name).HoldsOn g) :
    (Constraint.robot seat).HoldsOn g ↔ ¬ (Constraint.human seat).HoldsOn g := by
  obtain ⟨t, there, occupied⟩ : ∃ t, g.seats[seat.toNat]? = some t ∧ t.vacant = false := by
    rcases marked with ⟨inside, occupied, -⟩ | ⟨name, inside, occupied, -⟩ <;>
      exact ⟨_, List.getElem?_eq_getElem inside, occupied⟩
  rw [Constraint.holdsOn_iff there, Constraint.holdsOn_iff there]
  simp [Constraint.IsMetBy, occupied]

theorem holdsOn_of_resume {extra : List Demand} (h : (n.resume false extra).changed g = .ok g') :
    ∀ c ∈ n.constraints, c.HoldsOn g := by
  obtain ⟨-, passed, -⟩ := Snapshot.resume_eq_ok.mp (Change.changed_eq_ok.mp h)
  exact ((Snapshot.checkResumable_eq_ok.mp passed).resolve_left Bool.false_ne_true).1

theorem resume_of_holdsOn (waits : g.phase = .loading) (met : ∀ c ∈ n.constraints, c.HoldsOn g) :
    (n.resume false []).changed g = .ok { g with phase := n.phase } :=
  have passed := Snapshot.checkResumable_eq_ok.mpr (.inr ⟨met, by simp⟩)
  Change.changed_eq_ok.mpr (Snapshot.resume_eq_ok.mpr ⟨waits, passed, rfl⟩)

/-- In a restored game a seat is free, a human's or a robot's, and only one of them. A built-in
robot or one of some class is a robot, and no save that asks for a human besides is resumed, except
where the restored save gives a human what only a robot has. -/
theorem robots_told_apart (h : restore m now = .ok g) (seat : SeatNumber) :
    (seat.toNat < g.maxPlayers →
      ∃! c, c ∈ [Constraint.vacant seat, .human seat, .robot seat] ∧ c.check g.session = .ok ()) ∧
    (g.maxPlayers ≤ seat.toNat →
      ∀ c : Constraint, c.seat = seat → c.check g.session ≠ .ok ()) ∧
    (((Constraint.builtInRobot seat).check g.session = .ok () ∨
        (∃ name, (Constraint.robotClass seat name).check g.session = .ok ()) →
      (Constraint.robot seat).check g.session = .ok ()) ↔ ¬ m.HasMarkedHuman seat.toNat) ∧
    ((∃ (n : Snapshot) (extra : List Demand) (g' : Game), .human seat ∈ n.constraints ∧
        (.builtInRobot seat ∈ n.constraints ∨ ∃ name, .robotClass seat name ∈ n.constraints) ∧
        (n.resume false extra).changed g = .ok g') ↔ m.HasMarkedHuman seat.toNat) := by
  have marked : _ ↔ m.HasMarkedHuman seat.toNat := marked_human_iff h
  refine ⟨existsUnique_check, ?_, ?_, ?_⟩
  · rintro outside c rfl passed
    exact Constraint.not_holdsOn outside (Constraint.check_session_eq_ok.mp passed)
  · simp only [Constraint.check_session_eq_ok, ← marked]
    constructor
    · rintro isRobot ⟨human, mark⟩
      exact (robot_iff_of_marked mark).mp (isRobot mark) human
    · intro none mark
      exact (robot_iff_of_marked mark).mpr fun human => none ⟨human, mark⟩
  · rw [← marked]
    constructor
    · rintro ⟨n, extra, g', human, asked, resumed⟩
      have met := holdsOn_of_resume resumed
      exact ⟨met _ human, asked.imp (met _) fun ⟨name, mem⟩ => ⟨name, met _ mem⟩⟩
    · rintro ⟨human, mark⟩
      obtain ⟨c, kind, holds⟩ : ∃ c, (c = Constraint.builtInRobot seat ∨
          ∃ name, c = .robotClass seat name) ∧ c.HoldsOn g := by
        rcases mark with mark | ⟨name, mark⟩
        · exact ⟨_, .inl rfl, mark⟩
        · exact ⟨_, .inr ⟨name, rfl⟩, mark⟩
      have waits : g.phase = .loading := by
        obtain ⟨-, _, _, _, -, -, -, rfl⟩ := Snapshot.restore_eq_ok.mp h
        rfl
      refine ⟨{ m with constraints := [.human seat, c] }, [], _, by simp, ?_,
        resume_of_holdsOn waits (by simp [human, holds])⟩
      rcases kind with rfl | ⟨name, rfl⟩
      · exact .inl (by simp)
      · exact .inr ⟨name, by simp⟩

/-- A save of one seat, in which a human bears the mark and the class of a built-in robot. -/
def masked : Snapshot where
  version := modelVersion
  minVersion := 1000
  name := "masked"
  options := none
  duration := 60
  currentPlayer := 0
  phase := .rollOrCard
  dice := 0
  board := ⟨.positional ⟨[3, 4], [8], 1⟩, []⟩
  seats := [{ SeatRecord.empty with
    name := some "Ada"
    vacant := false
    isBuiltInRobot := true
    robotClass := some "builtin.Robot" }]
  constraints := [.human 0, .robotClass 0 "builtin.Robot", .builtInRobot 0]

/-- The same save with the seat marked as a robot's. -/
def unmasked : Snapshot :=
  { masked with seats := masked.seats.map fun s => { s with isRobot := true } }

/-- The robot of this save is no human to any constraint, and the demand for one is never met. -/
theorem unmasked_told_apart :
    ∃ g, restore unmasked (.mk 3600 0) = .ok g ∧
      (Constraint.builtInRobot 0).check g.session = .ok () ∧
      (Constraint.robot 0).check g.session = .ok () ∧
      ∀ extra g', (unmasked.resume false extra).changed g ≠ .ok g' := by
  obtain ⟨g, restored, builtIn⟩ : ∃ g, restore unmasked (.mk 3600 0) = .ok g ∧
      (Constraint.builtInRobot 0).check g.session = .ok () := ⟨_, rfl, rfl⟩
  have none : ¬ unmasked.HasMarkedHuman 0 := by
    rintro ⟨s, there, -, human, -⟩
    obtain rfl := Option.some.inj there
    cases human
  obtain ⟨-, -, isRobot, resumed⟩ := robots_told_apart restored 0
  refine ⟨g, restored, builtIn, isRobot.mpr none (.inl builtIn), fun extra g' done => ?_⟩
  exact none (resumed.mp ⟨unmasked, extra, g', .head _, .inl (by decide), done⟩)

/-- The human passes for a built-in robot, and the game is resumed with nobody else at the table. -/
theorem masked_human_resumed :
    ∃ g g', restore masked (.mk 3600 0) = .ok g ∧ (masked.resume false []).changed g = .ok g' ∧
      (Constraint.builtInRobot 0).check g.session = .ok () ∧
      (Constraint.robotClass 0 "builtin.Robot").check g.session = .ok () ∧
      (Constraint.robot 0).check g.session = .error (.mismatch 0) :=
  ⟨_, _, rfl, rfl, rfl, rfl, rfl⟩

end Game

end SavedGames
