import Mathlib
import SavedGames.Proofs.Checks
import SavedGames.Proofs.Game.Constraints
import SavedGames.Proofs.Game.Waiting

/-!
# What a game must meet to be resumed

A constraint asks for a seat of the game and for its occupant. A waiting game is resumed if it meets
the constraints of the snapshot and the demands of the caller, or if they are passed over. Otherwise
the first of them that it does not meet is reported, and the game stays as it is.
-/
namespace SavedGames

namespace Constraint

variable {g : Game} {c : Constraint}

/-- The seat is vacant, or a player of the kind that is asked for sits there. -/
def IsMetBy (s : Seat) : Constraint → Prop
  | vacant _ => s.vacant = true
  | human _ => s.vacant = false ∧ s.player.isRobot = false
  | robot _ => s.vacant = false ∧ s.player.isRobot = true
  | builtInRobot _ => s.vacant = false ∧ s.player.isBuiltInRobot = true
  | robotClass _ name => s.vacant = false ∧ s.player.robotClass = some name

/-- The game has the seat, and it is as the constraint asks. -/
def HoldsOn (g : Game) (c : Constraint) : Prop :=
  ∃ _ : c.seat.toNat < g.seats.length, c.IsMetBy g.seats[c.seat.toNat]

theorem check_session_eq_ok : c.check g.session = .ok () ↔ c.HoldsOn g := by
  rcases Nat.lt_or_ge c.seat.toNat g.seats.length with inside | outside
  · have there := List.getElem?_eq_getElem inside
    rw [HoldsOn, exists_prop_of_true inside]
    generalize g.seats[c.seat.toNat] = s at there
    have inside : c.seat.toNat < g.session.maxPlayers := inside.trans_eq (Game.length_seats g)
    have vacancy : g.session.isVacant c.seat.toNat = s.vacant := Game.isVacant_of_seat there
    have seated : g.session.seat? c.seat.toNat = some s.player.view := by
      simp [Game.session, Game.player?_of_seat there]
    cases vacant : s.vacant with
    | true =>
      rw [check_vacant inside (vacancy.trans vacant)]
      cases c <;> simp [isVacancy, IsMetBy, vacant]
    | false =>
      have met : c.admits s.player.view = true ↔ c.IsMetBy s := by
        cases c <;> simp [admits, IsMetBy, Player.view, vacant]
      rw [check_seated inside (vacancy.trans vacant) seated, ← met]
      cases c.admits s.player.view <;> simp
  · have beyond : g.session.maxPlayers ≤ c.seat.toNat := (Game.length_seats g).ge.trans outside
    rw [check_outside beyond]
    refine iff_of_false (by simp) ?_
    rintro ⟨inside, -⟩
    exact Nat.not_lt_of_le outside inside

end Constraint

namespace Demand

/-- Why a session does not meet the demand. -/
def reason (s : Session) (d : Demand) : String :=
  match d.check s with
  | .ok () => ""
  | .error reason => reason

def requirement (s : Session) (d : Demand) : Requirement :=
  ⟨d.check s = .ok (), .unmetConstraint d.name (d.reason s)⟩

end Demand

theorem reports_checkDemands (s : Session) (demands : List Demand) :
    Reports (checkDemands s demands) (demands.map (Demand.requirement s)) := by
  induction demands with
  | nil => exact .nil
  | cons d demands ih =>
    rw [List.map_cons, checkDemands]
    cases checked : d.check s with
    | ok u => exact .cons (fun _ => rfl) (fun unmet => absurd checked unmet) ih
    | error reason =>
      refine .cons (fun met => ?_) (fun _ => ?_) ih
      · cases checked.symm.trans met
      · simp only [Demand.requirement, Demand.reason, checked]

namespace Snapshot

variable {m : Snapshot} {g g' : Game} {ignoreConstraints : Bool} {extra : List Demand}

/-- What is looked at, first what the snapshot asks of the seats and then what the caller does. -/
def requirementsOn (m : Snapshot) (g : Game) (extra : List Demand) : List Requirement :=
  (m.constraints.map fun c =>
    ⟨c.HoldsOn g, .unmetConstraint c.name (c.demand.reason g.session)⟩) ++
    extra.map (Demand.requirement g.session)

theorem requirementsOn_eq (m : Snapshot) (g : Game) (extra : List Demand) :
    m.requirementsOn g extra = (m.demands extra).map (Demand.requirement g.session) := by
  have met (c : Constraint) : c.demand.check g.session = .ok () ↔ c.HoldsOn g := by
    rw [← Constraint.check_session_eq_ok]
    simp only [Constraint.demand]
    cases c.check g.session <;> simp [Except.mapError]
  -- the two requirements of a constraint differ only in how their condition is put
  have same (c : Constraint) : c.demand.requirement g.session =
      ⟨c.HoldsOn g, .unmetConstraint c.name (c.demand.reason g.session)⟩ := by
    rw [Demand.requirement, propext (met c)]
    rfl
  rw [requirementsOn, demands, List.map_append, List.map_map]
  congr 1
  exact List.map_congr_left fun c _ => (same c).symm

theorem reports_demands (m : Snapshot) (g : Game) (extra : List Demand) :
    Reports (checkDemands g.session (m.demands extra)) (m.requirementsOn g extra) := by
  rw [requirementsOn_eq]
  exact reports_checkDemands g.session (m.demands extra)

theorem forall_requirementsOn :
    (∀ r ∈ m.requirementsOn g extra, r.holds) ↔
      (∀ c ∈ m.constraints, c.HoldsOn g) ∧ ∀ d ∈ extra, d.check g.session = .ok () := by
  rw [requirementsOn, List.forall_mem_append, List.forall_mem_map, List.forall_mem_map]
  rfl

theorem checkResumable_eq_ok :
    m.checkResumable g ignoreConstraints extra = .ok () ↔ ignoreConstraints = true ∨
      (∀ c ∈ m.constraints, c.HoldsOn g) ∧ ∀ d ∈ extra, d.check g.session = .ok () := by
  rw [← forall_requirementsOn, ← (reports_demands m g extra).ok, checkResumable]
  cases ignoreConstraints <;> simp

theorem checkResumable_eq_error {e : SaveError} :
    m.checkResumable g ignoreConstraints extra = .error e ↔
      ignoreConstraints = false ∧ FirstFault (m.requirementsOn g extra) e := by
  rw [← (reports_demands m g extra).error, checkResumable]
  cases ignoreConstraints <;> simp

theorem resume_eq_error {e : SaveError} :
    (m.resume ignoreConstraints extra).on g = (.error e, g') ↔
      g' = g ∧ (g.phase ≠ .loading ∧ e = .notLoading g.phase ∨
        g.phase = .loading ∧ ignoreConstraints = false ∧
          FirstFault (m.requirementsOn g extra) e) := by
  rw [← checkResumable_eq_error]
  by_cases waits : g.phase = .loading
  · cases checked : m.checkResumable g ignoreConstraints extra with
    | ok u => simp [resume_of_met waits checked, waits]
    | error fault =>
      rw [resume_of_unmet waits checked]
      simp [waits, and_comm, eq_comm]
  · rw [resume_of_not_waiting waits]
    simp [waits, and_comm, eq_comm]

/-- A game is resumed exactly if it waits and meets what is asked of it or what is asked is passed
over, and then nothing but its phase changes. Otherwise the phase it is in or the first unmet demand
is reported, and the game that is left is the one that there was. -/
theorem resume_iff_demands_met (m : Snapshot) (g : Game) (ignoreConstraints : Bool)
    (extra : List Demand) :
    ((∃ g', (m.resume ignoreConstraints extra).on g = (.ok (), g')) ↔
      g.phase = .loading ∧ (ignoreConstraints = true ∨
        (∀ c ∈ m.constraints, c.HoldsOn g) ∧ ∀ d ∈ extra, d.check g.session = .ok ())) ∧
      (∀ g', (m.resume ignoreConstraints extra).on g = (.ok (), g') →
        g' = { g with phase := m.phase }) ∧
      (∀ e, (∃ g', (m.resume ignoreConstraints extra).on g = (.error e, g')) ↔
        g.phase ≠ .loading ∧ e = .notLoading g.phase ∨
          g.phase = .loading ∧ ignoreConstraints = false ∧
            FirstFault (m.requirementsOn g extra) e) ∧
      ∀ e g', (m.resume ignoreConstraints extra).on g = (.error e, g') → g' = g := by
  refine ⟨?_, fun g' resumed => (resume_eq_ok.mp resumed).2.2, fun e => ?_,
    fun e g' failed => (resume_eq_error.mp failed).1⟩
  · simp only [resume_eq_ok, checkResumable_eq_ok]
    simp
  · simp only [resume_eq_error]
    simp

/-- A save that asks for a human, a robot and a free seat. -/
def choosy : Snapshot :=
  { specimen with constraints := [.human 0, .robot 1, .vacant 2] }

/-- Nobody may be missing. -/
def fullTable : Demand where
  name := "full_table"
  check s := if (List.range s.maxPlayers).any s.isVacant then .error "a seat is free" else .ok ()

/-- Three seats of a waiting game, the last of them free. -/
def waitingTable : Game := { Game.specimenTable with phase := .loading }

/-- The table meets what the save asks for, but not what the caller demands. -/
theorem waitingTable_resumed :
    (∃ g', (choosy.resume false []).on waitingTable = (.ok (), g')) ∧
      (choosy.resume false [fullTable]).on waitingTable =
        (.error (.unmetConstraint "full_table" "a seat is free"), waitingTable) := by
  have seats : ∀ c ∈ choosy.constraints, c.HoldsOn waitingTable := by
    simp only [← Constraint.check_session_eq_ok]
    decide
  have free : ¬ (fullTable.requirement waitingTable.session).holds := by
    simp only [Demand.requirement]
    decide
  obtain ⟨met, -⟩ := resume_iff_demands_met choosy waitingTable false []
  obtain ⟨-, -, fault, unchanged⟩ := resume_iff_demands_met choosy waitingTable false [fullTable]
  have first : FirstFault (choosy.requirementsOn waitingTable [fullTable])
      (.unmetConstraint "full_table" "a seat is free") := by
    rw [requirementsOn, firstFault_append_of_holds (List.forall_mem_map.mpr seats),
      List.map_singleton, firstFault_cons_of_fails free]
    decide
  obtain ⟨after, failed⟩ := (fault _).mpr (.inr ⟨rfl, rfl, first⟩)
  refine ⟨met.mpr ⟨rfl, .inr ⟨seats, by simp⟩⟩, ?_⟩
  rw [failed, unchanged _ after failed]

end Snapshot

end SavedGames
