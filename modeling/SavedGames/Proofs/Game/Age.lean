import Mathlib
import SavedGames.Proofs.Game.Cycle

/-!
# The age of a game over many sittings

A game is loaded, played on for a while and saved, again and again. Its age grows by the time that
was played in each sitting, rounded to seconds, and not by the time that the game lay in its file.
Only a sitting that begins in a leap second can lose a second.
-/
namespace SavedGames

/-- A save is loaded, resumed, played on and saved again. -/
structure Sitting where
  loaded : Instant
  /-- Milliseconds until the game is saved again. -/
  played : Nat
  ignoreConstraints : Bool
  /-- What is demanded of the game besides the constraints of the save. -/
  extra : List Demand

section Ages

open Instant

/-- The second that a game of some age loses in the sitting, if it loses one. -/
def Sitting.lost (s : Sitting) (age : Int) : Int :=
  match s.loaded.subSeconds? age, s.loaded.addMillis? s.played with
  | some start, some saved => lostSecond start s.loaded saved
  | _, _ => 0

def Sitting.ageAfter (s : Sitting) (age : Int) : Int := Instant.ageAfter age s.played (s.lost age)

variable {age : Int} {s : Sitting} {sittings : List Sitting} {P : Instant → Instant → Prop}

/-- The ages after each of many sittings. -/
def ages (age : Int) : List Sitting → List Int
  | [] => []
  | s :: rest => s.ageAfter age :: ages (s.ageAfter age) rest

/-- The times of all sittings exist, and `P` holds of the start of the game and the time of the next
save in each of them. -/
def Throughout (P : Instant → Instant → Prop) (age : Int) : List Sitting → Prop
  | [] => True
  | s :: sittings =>
    (∃ start saved, s.loaded.subSeconds? age = some start ∧
      s.loaded.addMillis? s.played = some saved ∧ P start saved) ∧
    Throughout P (s.ageAfter age) sittings

/-- The age after all sittings, or the age before them if there are none. -/
def lastAge (age : Int) (sittings : List Sitting) : Int :=
  sittings.foldl (fun age s => s.ageAfter age) age

/-- How many of the sittings begin in a leap second. -/
def leapCount (sittings : List Sitting) : Nat := sittings.countP fun s => s.loaded.InLeapSecond

theorem lost_of_not_inLeapSecond (usual : ¬ s.loaded.InLeapSecond) (age : Int) :
    s.lost age = 0 := by
  unfold Sitting.lost
  split
  · exact lostSecond_of_not_inLeapSecond usual _ _
  · rfl

theorem lost_cases (s : Sitting) (age : Int) :
    s.lost age = 0 ∨ s.loaded.InLeapSecond ∧ s.lost age = 1 := by
  by_cases leap : s.loaded.InLeapSecond
  · unfold Sitting.lost
    split
    · exact (lostSecond_cases _ _ _).imp_right fun lost => ⟨leap, lost⟩
    · exact .inl rfl
  · exact .inl (lost_of_not_inLeapSecond leap age)

theorem ageAfter_nonneg (s : Sitting) (age : Int) : 0 ≤ s.ageAfter age := by
  unfold Sitting.ageAfter Instant.ageAfter maxAge
  omega

/-- Outside of leap seconds the time that was played is added, as far as it can be counted. -/
theorem ageAfter_of_not_inLeapSecond (nonneg : 0 ≤ age) (usual : ¬ s.loaded.InLeapSecond) :
    s.ageAfter age = min (age + ((s.played : Int) + 500) / 1000) maxAge := by
  rw [Sitting.ageAfter, lost_of_not_inLeapSecond usual, Instant.ageAfter]
  omega

/-- The step: the time that was played is rounded by half a second at most, and a second is lost
only in a leap second. -/
theorem ageAfter_drift (nonneg : 0 ≤ age) (counted : s.ageAfter age ≠ maxAge) :
    |1000 * s.ageAfter age - (1000 * age + s.played)| ≤ 500 + 1000 * leapCount [s] := by
  rw [leapCount, List.countP_singleton, abs_le]
  rw [Sitting.ageAfter, Instant.ageAfter] at counted ⊢
  rcases lost_cases s age with none | ⟨leap, one⟩
  · rw [none] at counted ⊢
    split_ifs <;> omega
  · rw [one] at counted ⊢
    rw [if_pos (decide_eq_true leap)]
    omega

theorem lastAge_drift (nonneg : 0 ≤ age) (counted : ∀ n ∈ ages age sittings, n ≠ maxAge) :
    |1000 * lastAge age sittings - (1000 * age + (sittings.map Sitting.played).sum)| ≤
      500 * sittings.length + 1000 * leapCount sittings := by
  induction sittings generalizing age with
  | nil => simp [lastAge, leapCount]
  | cons s sittings ih =>
    obtain ⟨here, others⟩ := List.forall_mem_cons.mp counted
    have first := ageAfter_drift nonneg here
    have rest := ih (ageAfter_nonneg s age) others
    have step : lastAge age (s :: sittings) = lastAge (s.ageAfter age) sittings := rfl
    have leaps : leapCount (s :: sittings) = leapCount [s] + leapCount sittings := by
      rw [leapCount, ← List.singleton_append, List.countP_append, leapCount, leapCount]
    rw [abs_le] at first rest ⊢
    rw [step, leaps, List.map_cons, List.sum_cons, List.length_cons]
    omega

theorem throughout_countable (times : Throughout P age sittings) :
    Throughout Countable age sittings := by
  induction sittings generalizing age with
  | nil => trivial
  | cons s sittings ih =>
    obtain ⟨⟨start, saved, began, ended, -⟩, later⟩ := times
    exact ⟨⟨start, saved, began, ended, countable start saved⟩, ih later⟩

end Ages

namespace Snapshot

variable {m n : Snapshot} {t saved startTime : Instant} {options : Option Options} {board : Board}
  {s : Sitting} {sittings : List Sitting} {saves : List Snapshot} {g : Game}

/-- A sitting: the game is loaded, resumed and saved again after it was played. -/
def play (m : Snapshot) (s : Sitting) : Except SaveError Snapshot := do
  let waiting ← Game.restore m s.loaded
  let game ← (m.resume s.ignoreConstraints s.extra).changed waiting
  match s.loaded.addMillis? s.played with
  | none => .error .unrepresentableTime
  | some saved => game.capture saved

/-- The saves of one sitting after another, where each begins with the save of the one before. -/
def playAll (m : Snapshot) : List Sitting → Except SaveError (List Snapshot)
  | [] => .ok []
  | s :: sittings => do
    let n ← m.play s
    let saves ← n.playAll sittings
    return n :: saves

/-- The snapshot can be loaded at every time that leaves its game a start. -/
structure IsLoadable (m : Snapshot) : Prop where
  valid : m.Valid
  options : ∃ options, Game.unpackOptions m.options = .ok options
  board : ∃ board, Board.ofLayout m.board.layout = .ok board

/-- Neither the snapshot nor the sitting asks for anything, or it is passed over. -/
def Undemanding (m : Snapshot) (s : Sitting) : Prop :=
  s.ignoreConstraints = true ∨ m.constraints = [] ∧ s.extra = []

theorem isLoadable_of_restore (h : Game.restore m t = .ok g) : m.IsLoadable := by
  obtain ⟨valid, options, board, -, unpacked, laid, -, -⟩ := restore_eq_ok.mp h
  exact ⟨valid, ⟨options, unpacked⟩, ⟨board, laid⟩⟩

/-- What a sitting ends with is the save of a game that began as long ago as the age said. -/
theorem of_play_eq_ok (h : m.play s = .ok n) :
    ∃ options board start saved, m.Valid ∧ s.loaded.subSeconds? m.duration.toInt = some start ∧
      s.loaded.addMillis? s.played = some saved ∧
      n = (m.resumed options board start).snapshot saved := by
  obtain ⟨waiting, restored, h⟩ := bind_eq_ok.mp h
  obtain ⟨game, resume, h⟩ := bind_eq_ok.mp h
  obtain ⟨valid, options, board, start, -, -, began, rfl⟩ := restore_eq_ok.mp restored
  obtain ⟨-, -, rfl⟩ := resume_eq_ok.mp (Change.changed_eq_ok.mp resume)
  cases ended : s.loaded.addMillis? s.played with
  | none => simp [ended] at h
  | some saved =>
    rw [ended] at h
    obtain ⟨-, -, save⟩ := Game.capture_eq_ok.mp h
    exact ⟨options, board, start, saved, valid, began, rfl, save⟩

theorem duration_of_play (h : m.play s = .ok n) :
    n.duration.toInt = s.ageAfter m.duration.toInt := by
  obtain ⟨options, board, start, saved, valid, began, ended, rfl⟩ := of_play_eq_ok h
  have lost : s.lost m.duration.toInt = Instant.lostSecond start s.loaded saved := by
    rw [Sitting.lost, began, ended]
  rw [Sitting.ageAfter, lost]
  exact Instant.toInt_elapsedSeconds_of_played (age_bounds valid).1 began ended

theorem isLoadable_resumed (valid : m.Valid) :
    ((m.resumed options board startTime).snapshot saved).IsLoadable where
  valid := valid_resumed valid
  options := ⟨_, Game.unpackOptions_pack _⟩
  board := ⟨_, Board.ofLayout_layout _⟩

/-- Nothing but a missing time or an unmet demand can end a sitting. -/
theorem play_of_times (loadable : m.IsLoadable) (free : m.Undemanding s)
    (began : s.loaded.subSeconds? m.duration.toInt = some startTime)
    (ended : s.loaded.addMillis? s.played = some saved) : ∃ n, m.play s = .ok n := by
  obtain ⟨valid, ⟨options, unpacked⟩, ⟨board, laid⟩⟩ := loadable
  have restored : Game.restore m s.loaded = .ok (m.waiting options board startTime) :=
    restore_eq_ok.mpr ⟨valid, options, board, startTime, unpacked, laid, began, rfl⟩
  have resume : (m.resume s.ignoreConstraints s.extra).changed
      (m.waiting options board startTime) = .ok (m.resumed options board startTime) := by
    refine Change.changed_eq_ok.mpr (resume_eq_ok.mpr ⟨rfl, ?_, rfl⟩)
    rcases free with ignored | ⟨none, alone⟩
    · rw [checkResumable, if_pos ignored]
    · rw [checkResumable, demands, none, alone]
      split <;> rfl
  have captured : (m.resumed options board startTime).capture saved = _ :=
    Game.capture_eq valid.phase holdsCards_resumed
  refine ⟨(m.resumed options board startTime).snapshot saved,
    bind_eq_ok.mpr ⟨_, restored, bind_eq_ok.mpr ⟨_, resume, ?_⟩⟩⟩
  rw [ended]
  exact captured

/-- By induction on the sittings: the age of a save is all that the next one takes from it. -/
theorem ages_of_playAll (h : m.playAll sittings = .ok saves) :
    (saves.map fun n => n.duration.toInt) = ages m.duration.toInt sittings ∧
      Throughout (fun _ _ => True) m.duration.toInt sittings ∧
      (saves.getLastD m).duration.toInt = lastAge m.duration.toInt sittings := by
  induction sittings generalizing m saves with
  | nil =>
    obtain rfl := Except.ok.inj h
    exact ⟨rfl, trivial, rfl⟩
  | cons s sittings ih =>
    obtain ⟨n, first, h⟩ := bind_eq_ok.mp h
    obtain ⟨later, rest, h⟩ := bind_eq_ok.mp h
    obtain rfl := Except.ok.inj h
    obtain ⟨each, times, last⟩ := ih rest
    obtain ⟨-, -, start, saved, -, began, ended, -⟩ := of_play_eq_ok first
    have age := duration_of_play first
    rw [age] at each times last
    refine ⟨?_, ⟨⟨start, saved, began, ended, trivial⟩, times⟩, ?_⟩
    · rw [List.map_cons, each, age, ages]
    · rw [List.getLastD_cons, last]
      rfl

theorem playAll_of_times (loadable : m.IsLoadable) (free : ∀ s ∈ sittings, m.Undemanding s)
    (times : Throughout (fun _ _ => True) m.duration.toInt sittings) :
    ∃ saves, m.playAll sittings = .ok saves := by
  induction sittings generalizing m with
  | nil => exact ⟨[], rfl⟩
  | cons s sittings ih =>
    obtain ⟨here, others⟩ := List.forall_mem_cons.mp free
    obtain ⟨⟨start, saved, began, ended, -⟩, later⟩ := times
    obtain ⟨n, first⟩ := play_of_times loadable here began ended
    rw [← duration_of_play first] at later
    obtain ⟨options, board, start, saved, valid, -, -, rfl⟩ := of_play_eq_ok first
    -- a save has no constraints, so from here on the demands are those of the sittings
    have free (s : Sitting) (hs : s ∈ sittings) :
        ((m.resumed options board start).snapshot saved).Undemanding s :=
      (others s hs).imp_right fun none => ⟨rfl, none.2⟩
    obtain ⟨saves, rest⟩ := ih (isLoadable_resumed valid) free later
    exact ⟨_ :: saves, bind_eq_ok.mpr ⟨_, first, bind_eq_ok.mpr ⟨_, rest, rfl⟩⟩⟩

/-- However often a game is loaded and saved, and whenever that is: its age is the time that it was
played, up to half a second for each sitting and a second for each that begins in a leap second, as
long as 32 bits can count it. -/
theorem age_carries_over (h : Game.restore m t = .ok g) (sittings : List Sitting) :
    (∀ saves, m.playAll sittings = .ok saves →
      (saves.map fun n => n.duration.toInt) = ages m.duration.toInt sittings ∧
        Throughout Instant.Countable m.duration.toInt sittings ∧
        ((∀ n ∈ saves, n.duration.toInt ≠ Instant.maxAge) →
          |1000 * (saves.getLastD m).duration.toInt -
              (1000 * m.duration.toInt + (sittings.map Sitting.played).sum)| ≤
            500 * sittings.length + 1000 * leapCount sittings)) ∧
      ((∀ s ∈ sittings, m.Undemanding s) →
        ((∃ saves, m.playAll sittings = .ok saves) ↔
          Throughout (fun _ _ => True) m.duration.toInt sittings)) ∧
      ∀ (s : Sitting) (age : Int), 0 ≤ age → ¬ s.loaded.InLeapSecond →
        s.ageAfter age = min (age + ((s.played : Int) + 500) / 1000) Instant.maxAge := by
  have loadable := isLoadable_of_restore h
  refine ⟨fun saves run => ?_, fun free => ⟨?_, playAll_of_times loadable free⟩, fun s age => ?_⟩
  · obtain ⟨each, times, last⟩ := ages_of_playAll run
    refine ⟨each, throughout_countable times, fun counted => ?_⟩
    rw [last]
    refine lastAge_drift (age_bounds loadable.valid).1 fun n hn => ?_
    rw [← each] at hn
    obtain ⟨save, mem, rfl⟩ := List.mem_map.mp hn
    exact counted save mem
  · rintro ⟨saves, run⟩
    exact (ages_of_playAll run).2.1
  · exact ageAfter_of_not_inLeapSecond

/-- Two sittings with years between them. -/
def specimenSittings : List Sitting :=
  [⟨.epoch, 1499, true, []⟩, ⟨.mk 90000000 999000000, 500, true, []⟩]

theorem specimen_age :
    ∃ saves, specimen.playAll specimenSittings = .ok saves ∧
      (saves.map fun n => n.duration.toInt) = [755, 756] ∧
      Throughout Instant.Countable 754 specimenSittings ∧
      ((∀ n ∈ saves, n.duration.toInt ≠ Instant.maxAge) →
        |1000 * (saves.getLastD specimen).duration.toInt - (1000 * 754 + 1999)| ≤ 1000) := by
  have free : ∀ s ∈ specimenSittings, specimen.Undemanding s := by
    intro s hs
    have ignored : ∀ s ∈ specimenSittings, s.ignoreConstraints = true := by
      simp [specimenSittings]
    exact .inl (ignored s hs)
  have times : Throughout (fun _ _ => True) 754 specimenSittings :=
    ⟨⟨_, _, rfl, rfl, trivial⟩, ⟨_, _, rfl, rfl, trivial⟩, trivial⟩
  obtain ⟨g, h⟩ : ∃ g, Game.restore specimen (.mk 2000 0) = .ok g := ⟨_, rfl⟩
  obtain ⟨each, runs, -⟩ := age_carries_over h specimenSittings
  obtain ⟨saves, run⟩ := (runs free).mpr times
  exact ⟨saves, run, each saves run⟩

/-- A sitting of a second that begins in the leap second before a new day. -/
def leapSitting : Sitting := ⟨.mk 86399 1000000000, 1000, true, []⟩

/-- A game that is ten seconds old is no older after a second. -/
theorem leap_sitting_lost :
    ∃ g n, Game.restore { specimen with duration := 10 } leapSitting.loaded = .ok g ∧
      ({ specimen with duration := 10 } : Snapshot).play leapSitting = .ok n ∧
      n.duration.toInt = 10 ∧
      min (10 + ((leapSitting.played : Int) + 500) / 1000) Instant.maxAge = 11 := by
  obtain ⟨n, saved⟩ : ∃ n, ({ specimen with duration := 10 } : Snapshot).play leapSitting = .ok n :=
    ⟨_, rfl⟩
  have aged : n.duration.toInt = 10 := by
    rw [duration_of_play saved]
    decide +kernel
  exact ⟨_, n, rfl, saved, aged, by decide⟩

end Snapshot

end SavedGames
