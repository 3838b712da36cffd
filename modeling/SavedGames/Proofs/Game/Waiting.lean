import Mathlib
import SavedGames.Proofs.Game.Restore
import SavedGames.Proofs.Instant
import SavedGames.Proofs.Snapshot.Lossless
import SavedGames.Proofs.Snapshot.Resume

/-!
# A waiting game is resumed once

The game of a snapshot waits until an attempt to resume it succeeds, and is in the saved phase from
then on. Nothing that is done to its seats, no save and no attempt that fails changes the phase, and
no second attempt to resume it succeeds. An operation that fails does so before it changes anything.
-/
namespace SavedGames.Game

variable {m : Snapshot} {g : Game}

/-- What can be tried on a game that was built from a snapshot. -/
inductive Operation where
  | sitDown (seat : Nat) (name : String)
  | setVacant (seat : Nat) (vacant : Bool)
  | changePlayer (seat : Nat) (change : Player → Player)
  | capture (now : Instant)
  | resume (ignoreConstraints : Bool) (extra : List Demand)

/-- What an operation does to a game built from `m`. -/
def Operation.action (m : Snapshot) : Operation → Change Game SaveError Unit
  | .sitDown seat name => Game.sitDown seat name
  | .setVacant seat vacant => modify fun g => g.setVacant seat vacant
  | .changePlayer seat change => modify fun g => g.modifyPlayer seat change
  | .capture now => do
    let g ← get
    let _ ← g.capture now
  | .resume ignoreConstraints extra => m.resume ignoreConstraints extra

/-- An operation, the game on which it was tried, what came of it, and the game that it left. -/
structure Event where
  operation : Operation
  before : Game
  result : Except SaveError Unit
  after : Game

/-- The game was resumed. -/
def Event.resumes (e : Event) : Bool :=
  match e.operation, e.result with
  | .resume .., .ok _ => true
  | _, _ => false

/-- An operation is tried on a game. -/
def attempt (m : Snapshot) (g : Game) (op : Operation) : Event where
  operation := op
  before := g
  result := ((op.action m).on g).1
  after := ((op.action m).on g).2

/-- Each operation is tried on the game that the one before it left. -/
def run (m : Snapshot) (g : Game) : List Operation → List Event
  | [] => []
  | op :: ops => g.attempt m op :: run m (g.attempt m op).after ops

theorem capture_of_waiting {now : Instant} (waits : g.phase = .loading) :
    g.capture now = .error (.notSavable .loading) := by
  have phase : g.session.phase = .loading := waits
  have unsavable : ¬ Phase.loading.isSavable = true := by decide
  rw [capture, Session.capture, phase, if_neg unsavable]

theorem action_capture_on (now : Instant) :
    ((Operation.capture now).action m).on g = ((g.capture now).map fun _ => (), g) := by
  rw [Operation.action, Change.on_get_bind, Change.on_bind, Change.on_lift]
  cases g.capture now <;> rfl

/-- An operation resumes a waiting game, or it leaves the phase alone and changes nothing at all if
it fails. -/
theorem action_cases (m : Snapshot) (g : Game) (op : Operation) :
    (∃ ignoreConstraints extra, op = .resume ignoreConstraints extra ∧ g.phase = .loading ∧
      (op.action m).on g = (.ok (), { g with phase := m.phase })) ∨
    (∃ fault, (op.action m).on g = (.error fault, g)) ∨
    ((∀ ignoreConstraints extra, op ≠ .resume ignoreConstraints extra) ∧
      ∃ g', (op.action m).on g = (.ok (), g') ∧ g'.phase = g.phase) := by
  cases op with
  | sitDown seat name =>
    rcases Nat.lt_or_ge seat g.maxPlayers with inside | outside
    · exact .inr (.inr ⟨by simp, _, sitDown_on inside, rfl⟩)
    · exact .inr (.inl ⟨_, sitDown_on_of_le outside⟩)
  | setVacant seat vacant => exact .inr (.inr ⟨by simp, _, Change.on_modify _ g, rfl⟩)
  | changePlayer seat change => exact .inr (.inr ⟨by simp, _, Change.on_modify _ g, rfl⟩)
  | capture now =>
    have tried := action_capture_on (m := m) (g := g) now
    cases captured : g.capture now with
    | error fault =>
      rw [captured] at tried
      exact .inr (.inl ⟨fault, tried⟩)
    | ok saved =>
      rw [captured] at tried
      exact .inr (.inr ⟨by simp, g, tried, rfl⟩)
  | resume ignoreConstraints extra =>
    rcases m.resume_cases g ignoreConstraints extra with ⟨waits, -, done⟩ | ⟨fault, failed⟩
    · exact .inl ⟨ignoreConstraints, extra, rfl, waits, done⟩
    · exact .inr (.inl ⟨fault, failed⟩)

/-- The phase of the game of a snapshot, before and after it was resumed. -/
def phaseOf (m : Snapshot) (resumed : Bool) : Phase := if resumed then m.phase else .loading

/-- What holds of an operation that is tried after a game was resumed, or before. -/
structure Event.Follows (m : Snapshot) (resumed : Bool) (e : Event) : Prop where
  before : e.before.phase = phaseOf m resumed
  after : e.after.phase = phaseOf m (resumed || e.resumes)
  capture : resumed = false → ∀ now, e.operation = .capture now →
    e.result = .error (.notSavable .loading)
  resume : resumed = true → ∀ ignoreConstraints extra,
    e.operation = .resume ignoreConstraints extra → e.result = .error (.notLoading m.phase)
  failure : ∀ fault, e.result = .error fault → e.after = e.before

theorem ne_loading_of_isSavable {p : Phase} (h : p.isSavable = true) : p ≠ .loading := by
  rintro rfl
  exact absurd h (by decide)

/-- The step: whatever is tried, the phase says whether the game was resumed. -/
theorem follows_attempt {resumed : Bool} (savable : m.phase.isSavable = true)
    (here : g.phase = phaseOf m resumed) (op : Operation) :
    (g.attempt m op).Follows m resumed where
  before := here
  after := by
    rcases action_cases m g op with ⟨ignore, extra, rfl, -, done⟩ | ⟨fault, failed⟩ |
      ⟨other, g', done, same⟩
    · simp [attempt, done, Event.resumes, phaseOf]
    · have idle : (g.attempt m op).resumes = false := by
        cases op <;> simp [attempt, failed, Event.resumes]
      rw [idle, Bool.or_false, attempt, failed]
      exact here
    · have idle : (g.attempt m op).resumes = false := by
        cases op with
        | resume ignore extra => exact absurd rfl (other ignore extra)
        | _ => rfl
      rw [idle, Bool.or_false, attempt, done]
      exact same.trans here
  capture := by
    rintro rfl now rfl
    have waits : g.phase = .loading := here
    rw [attempt, action_capture_on, capture_of_waiting waits]
    rfl
  resume := by
    rintro rfl ignore extra rfl
    have play : g.phase = m.phase := here
    have other : g.phase ≠ .loading := play ▸ ne_loading_of_isSavable savable
    rw [attempt, Operation.action, Snapshot.resume_of_not_waiting other, play]
  failure := by
    intro fault failed
    rcases action_cases m g op with ⟨_, _, -, -, done⟩ | ⟨_, kept⟩ | ⟨-, _, done, -⟩
    · rw [attempt, done] at failed
      cases failed
    · rw [attempt, kept]
    · rw [attempt, done] at failed
      cases failed

theorem Event.Follows.resumes_eq_false {e : Event} (h : e.Follows m true) : e.resumes = false := by
  cases op : e.operation with
  | resume ignore extra => simp [Event.resumes, op, h.resume rfl ignore extra op]
  | _ => simp [Event.resumes, op]

/-- By induction on the operations: what was resumed so far is carried along with the game. -/
theorem follows_run (savable : m.phase.isSavable = true) {ops : List Operation} {resumed : Bool}
    (here : g.phase = phaseOf m resumed) {done todo : List Event} {e : Event}
    (split : run m g ops = done ++ e :: todo) :
    e.Follows m (resumed || done.any Event.resumes) := by
  induction ops generalizing g resumed done with
  | nil => simp [run] at split
  | cons op ops ih =>
    have first := follows_attempt savable here op
    rw [run] at split
    cases done with
    | nil =>
      obtain ⟨rfl, -⟩ := List.cons.inj split
      simpa using first
    | cons d done =>
      obtain ⟨rfl, rest⟩ := List.cons.inj split
      have later := ih first.after rest
      rwa [Bool.or_assoc, ← List.any_cons] at later

theorem countP_resumes (savable : m.phase.isSavable = true) {ops : List Operation} {resumed : Bool}
    (here : g.phase = phaseOf m resumed) :
    (run m g ops).countP Event.resumes ≤ if resumed then 0 else 1 := by
  induction ops generalizing g resumed with
  | nil => simp [run]
  | cons op ops ih =>
    have first := follows_attempt savable here op
    have later := ih first.after
    rw [run, List.countP_cons]
    cases resumed with
    | true =>
      rw [first.resumes_eq_false] at later ⊢
      simpa using later
    | false =>
      cases resumes : (g.attempt m op).resumes <;> simpa [resumes] using later

/-- In any run at most one attempt to resume the game succeeds, and it changes the phase from
waiting to the saved one. Before it every save fails, after it every attempt to resume. -/
theorem resumed_at_most_once {now : Instant} (h : restore m now = .ok g) (ops : List Operation) :
    g.phase = .loading ∧ m.phase ≠ .loading ∧ (run m g ops).countP Event.resumes ≤ 1 ∧
      ∀ done e todo, run m g ops = done ++ e :: todo → e.Follows m (done.any Event.resumes) := by
  obtain ⟨valid, options, board, startTime, -, -, -, rfl⟩ := Snapshot.restore_eq_ok.mp h
  have waits : (m.waiting options board startTime).phase = phaseOf m false := rfl
  refine ⟨waits, ne_loading_of_isSavable valid.phase, countP_resumes valid.phase waits, ?_⟩
  intro done e todo split
  simpa using follows_run valid.phase waits split

/-- A change of a player that leaves him in his seat. -/
def Operation.KeepsNumbers : Operation → Prop
  | .changePlayer _ change => ∀ p, (change p).number = p.number
  | _ => True

/-- The step: players and vacancies fit together whatever is tried, also where it fails. -/
theorem Consistent.attempt (h : g.Consistent) {op : Operation} (keeps : op.KeepsNumbers) :
    (g.attempt m op).after.Consistent := by
  cases op with
  | sitDown seat name => exact h.sitDown seat name
  | setVacant seat vacant => exact h.setVacant seat vacant
  | changePlayer seat change => exact h.modifyPlayer seat keeps
  | capture now =>
    rw [Game.attempt, action_capture_on]
    exact h
  | resume ignore extra =>
    rw [Game.attempt, Operation.action]
    rcases m.resume_cases g ignore extra with ⟨-, -, done⟩ | ⟨fault, failed⟩
    · rw [done]
      exact ⟨h.numbered, h.vacant⟩
    · rw [failed]
      exact h

/-- Players and vacancies fit together in every game of a run that begins with a new game, or with a
restored one. -/
theorem consistent_run (h : g.Consistent) {ops : List Operation}
    (keeps : ∀ op ∈ ops, op.KeepsNumbers) : ∀ e ∈ run m g ops, e.after.Consistent := by
  induction ops generalizing g with
  | nil => simp [run]
  | cons op ops ih =>
    obtain ⟨here, others⟩ := List.forall_mem_cons.mp keeps
    have first := h.attempt (m := m) here
    exact List.forall_mem_cons.mpr ⟨first, ih first others⟩

/-- The specimen demands a robot, so it is resumed only where its demands are passed over. -/
def specimenRun : List Operation :=
  [.capture .epoch, .resume false [], .sitDown 0 "Bea", .sitDown 2 "Cy", .resume true [],
    .changePlayer 1 fun p => p.hold (.special 7) .kept, .capture .epoch, .resume true []]

theorem specimen_resumed_once :
    ∃ waiting, restore Snapshot.specimen (.mk 2000 0) = .ok waiting ∧
      (run Snapshot.specimen waiting specimenRun).map Event.resumes =
        [false, false, false, false, true, false, false, false] ∧
      waiting.phase = .loading ∧
      (run Snapshot.specimen waiting specimenRun).countP Event.resumes ≤ 1 ∧
      ∀ done e todo, run Snapshot.specimen waiting specimenRun = done ++ e :: todo →
        e.Follows Snapshot.specimen (done.any Event.resumes) := by
  have resumed : ((restore Snapshot.specimen (.mk 2000 0)).toOption.map fun g =>
      (run Snapshot.specimen g specimenRun).map Event.resumes) =
        some [false, false, false, false, true, false, false, false] := by decide +kernel
  cases h : restore Snapshot.specimen (.mk 2000 0) with
  | error fault =>
    rw [h] at resumed
    cases resumed
  | ok waiting =>
    rw [h] at resumed
    obtain ⟨waits, -, once, follows⟩ := resumed_at_most_once h specimenRun
    exact ⟨waiting, rfl, Option.some.inj resumed, waits, once, follows⟩

end SavedGames.Game
