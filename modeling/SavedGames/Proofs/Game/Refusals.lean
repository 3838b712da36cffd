import Mathlib
import SavedGames.Proofs.Game.Relaid
import SavedGames.Proofs.Game.Restore
import SavedGames.Proofs.Snapshot.Lossless

/-!
# Why a snapshot is not restored

A snapshot is refused by its check, for its options, or for a part that its layout lacks, in this
order. Otherwise it is restored to a waiting game with its seats. A record of potentials for a seat
that does not exist is refused by the check, so it is never met while the game is built, and the
players are numbered as the list of vacancies is.
-/
namespace SavedGames

namespace Layout

variable {l : Layout} {key : String}

/-- The first part that a board needs and that the named parts do not give as numbers. -/
def missingPart? : Layout → Option String
  | positional _ => none
  | parted l => [Board.hexKey, Board.numberKey].find? fun key => (l.numbers? key).isNone

theorem ofLayout_of_missing (missing : l.missingPart? = some key) :
    Board.ofLayout l = .error (.invalid (.missingPart key)) := by
  cases l with
  | positional l => cases missing
  | parted l =>
    rw [missingPart?] at missing
    cases hexes : l.numbers? Board.hexKey with
    | none =>
      obtain rfl : Board.hexKey = key := by simpa [hexes] using missing
      simp [Board.ofLayout, Board.requiredPart, hexes, bind, Except.bind]
    | some ns =>
      cases numbers : l.numbers? Board.numberKey with
      | none =>
        obtain rfl : Board.numberKey = key := by simpa [hexes, numbers] using missing
        simp [Board.ofLayout, Board.requiredPart, hexes, numbers, bind, Except.bind]
      | some ms => simp [hexes, numbers] at missing

theorem ofLayout_of_complete (complete : l.missingPart? = none) :
    ∃ b, Board.ofLayout l = .ok b := by
  cases l with
  | positional l => exact ⟨_, rfl⟩
  | parted l =>
    have given : ∀ key ∈ [Board.hexKey, Board.numberKey], ∃ ns, l.numbers? key = some ns := by
      simpa [missingPart?, Option.ne_none_iff_exists'] using complete
    obtain ⟨hexes, hexed⟩ := given Board.hexKey (by simp)
    obtain ⟨numbers, numbered⟩ := given Board.numberKey (by simp)
    exact ⟨_, Board.ofLayout_parted_eq_ok.mpr ⟨hexes, numbers, hexed, numbered, rfl⟩⟩

end Layout

namespace Snapshot

variable {m : Snapshot} {e : SaveError}

/-- A check refuses a version or what the snapshot says. -/
theorem fault_of_check (failed : m.check = .error e) :
    e = .incompatibleVersion m.version ∨ e = .engineTooOld m.minVersion ∨
      ∃ fault, e = .invalid fault := by
  have potentials : ∀ r ∈ m.board.potentials.flatMap (Potentials.requirements m.seats.length),
      ∃ fault, r.fault = .invalid fault := by
    refine List.forall_mem_flatMap.mpr fun p _ => ?_
    rw [Potentials.requirements]
    cases p.scope with
    | every => simp
    | only seat => exact List.forall_mem_singleton.mpr ⟨_, rfl⟩
  have seats : ∀ r ∈ m.seats.zipIdx.flatMap fun s => s.1.requirements s.2,
      ∃ fault, r.fault = .invalid fault := by
    refine List.forall_mem_flatMap.mpr fun s _ => ?_
    rw [SeatRecord.requirements, List.forall_mem_cons, List.forall_mem_map]
    exact ⟨⟨_, rfl⟩, fun _ _ => ⟨_, rfl⟩⟩
  obtain ⟨rs, report, faults⟩ : ∃ rs, Reports m.check rs ∧ ∀ r ∈ rs,
      r.fault = .incompatibleVersion m.version ∨ r.fault = .engineTooOld m.minVersion ∨
        ∃ fault, r.fault = .invalid fault := by
    -- every condition is taken as it is checked, so the number of seats needs no bound here
    refine ⟨_, .require .rfl <| .require .rfl <| .require .rfl <| .require .rfl <|
      .require .rfl <| .require .rfl <| .require .rfl <|
        (reports_checkPotentials _ _).bind (reports_checkSeats 0 _), ?_⟩
    simp only [List.forall_mem_cons, List.forall_mem_append, reduceCtorEq, true_or, or_true,
      false_or, SaveError.invalid.injEq, exists_eq', true_and]
    exact ⟨fun r mem => .inr (.inr (potentials r mem)), fun r mem => .inr (.inr (seats r mem))⟩
  obtain ⟨r, mem, -, rfl⟩ := exists_mem_of_firstFault ((report.error e).mp failed)
  exact faults r mem

end Snapshot

namespace Game

variable {m : Snapshot} {now : Instant} {e : SaveError}

theorem unpackOptions_eq_error {packed : Option String} :
    unpackOptions packed = .error e ↔
      ∃ text fault, packed = some text ∧ Options.parse text = .error fault ∧
        .options fault = e := by
  cases packed with
  | none => simp [unpackOptions]
  | some text =>
    rw [unpackOptions]
    cases parsed : Options.parse text <;> simp [parsed, Except.map, Except.mapError]

theorem unpackOptions_isOk {packed : Option String}
    (read : ∀ text, packed = some text → ∃ o, Options.parse text = .ok o) :
    ∃ options, unpackOptions packed = .ok options := by
  cases packed with
  | none => exact ⟨none, rfl⟩
  | some text =>
    obtain ⟨o, parsed⟩ := read text rfl
    exact ⟨some o, by rw [unpackOptions, parsed]; rfl⟩

theorem restore_of_check (failed : m.check = .error e) : restore m now = .error e := by
  rw [restore, failed]
  rfl

theorem restore_of_options (check : m.check = .ok ())
    (failed : unpackOptions m.options = .error e) : restore m now = .error e := by
  rw [restore, check, failed]
  rfl

theorem restore_of_layout {options : Option Options} (check : m.check = .ok ())
    (unpacked : unpackOptions m.options = .ok options)
    (failed : Board.ofLayout m.board.layout = .error e) : restore m now = .error e := by
  rw [restore, check, unpacked, failed]
  rfl

/-- The game has a player for each seat of the snapshot, with the number of the seat, and the list
of vacancies is the saved one. Each player finds its own seat in that list. -/
structure HasSeatsOf (g : Game) (m : Snapshot) : Prop where
  count : g.players.length = m.seats.length
  number : ∀ (i : Nat) (p : Player), g.players[i]? = some p → p.number = i
  player : ∀ (i : Nat) (s : SeatRecord), m.seats[i]? = some s →
    g.player? i = some ((Player.ofRecord i s g.hasSea).withPotentialsAt i m.board.potentials)
  vacant : g.vacant = m.seats.map SeatRecord.vacant
  seated : g.seated? = some (g.players.filter fun p => !g.isVacant p.number)

theorem hasSeatsOf_waiting (m : Snapshot) (options : Option Options) (board : Board)
    (startTime : Instant) : (m.waiting options board startTime).HasSeatsOf m where
  count := maxPlayers_waiting options board startTime
  number := (consistent_waiting options board startTime).numbered
  player i s there := by
    have seat := m.getElem?_seats_waiting options board startTime i
    rw [there, Option.map_some] at seat
    rw [hasSea_waiting, player?_of_seat seat, SeatRecord.restored]
  vacant := rfl
  seated := seated?_of_consistent (consistent_waiting options board startTime)

section Outcome

variable {startTime : Instant} (start : now.subSeconds? m.duration.toInt = some startTime)

include start

theorem restore_of_board {options : Option Options} {board : Board} (check : m.check = .ok ())
    (unpacked : unpackOptions m.options = .ok options)
    (built : Board.ofLayout m.board.layout = .ok board) :
    restore m now = .ok (m.waiting options board startTime) :=
  Snapshot.restore_eq_ok.mpr
    ⟨Snapshot.check_eq_ok.mp check, options, board, startTime, unpacked, built, start, rfl⟩

/-- What is refused is refused by the check, for the options or for the layout, so no record of
potentials is without its seat. -/
theorem restore_ne_missingSeat (seat seats : Nat) :
    restore m now ≠ .error (.missingSeat seat seats) := by
  intro refused
  cases check : m.check with
  | error e =>
    obtain rfl := Except.error.inj ((restore_of_check check).symm.trans refused)
    simpa using Snapshot.fault_of_check check
  | ok u =>
    cases unpacked : unpackOptions m.options with
    | error e =>
      obtain rfl := Except.error.inj ((restore_of_options check unpacked).symm.trans refused)
      simpa using unpackOptions_eq_error.mp unpacked
    | ok options =>
      cases missing : m.board.layout.missingPart? with
      | some key =>
        have failed := Layout.ofLayout_of_missing missing
        cases (restore_of_layout check unpacked failed).symm.trans refused
      | none =>
        -- the records of potentials are left, and the check has bounded each of them
        obtain ⟨board, built⟩ := Layout.ofLayout_of_complete missing
        cases (restore_of_board start check unpacked built).symm.trans refused

end Outcome

/-- A snapshot of an age that can be taken off the time is refused by its check, for its options or
for its layout, in this order, and is restored otherwise. -/
theorem restore_outcome {startTime : Instant}
    (start : now.subSeconds? m.duration.toInt = some startTime) :
    (∀ e, m.check = .error e → restore m now = .error e) ∧
      (m.check = .ok () →
        (∀ packed fault, m.options = some packed → Options.parse packed = .error fault →
          restore m now = .error (.options fault)) ∧
        ((∀ packed, m.options = some packed → ∃ o, Options.parse packed = .ok o) →
          (∀ key, m.board.layout.missingPart? = some key →
            restore m now = .error (.invalid (.missingPart key))) ∧
          (m.board.layout.missingPart? = none →
            ∃ g, restore m now = .ok g ∧ g.phase = .loading ∧ g.HasSeatsOf m))) ∧
      ∀ seat seats, restore m now ≠ .error (.missingSeat seat seats) := by
  refine ⟨fun e => restore_of_check, fun check => ⟨fun packed fault given failed => ?_,
    fun read => ?_⟩, restore_ne_missingSeat start⟩
  · have refused : unpackOptions m.options = .error (.options fault) :=
      unpackOptions_eq_error.mpr ⟨packed, fault, given, failed, rfl⟩
    exact restore_of_options check refused
  · obtain ⟨options, unpacked⟩ := unpackOptions_isOk read
    refine ⟨fun key missing => ?_, fun complete => ?_⟩
    · exact restore_of_layout check unpacked (Layout.ofLayout_of_missing missing)
    · obtain ⟨board, built⟩ := Layout.ofLayout_of_complete complete
      exact ⟨_, restore_of_board start check unpacked built, rfl,
        hasSeatsOf_waiting m options board startTime⟩

/-- A save whose board has a text where the numbers should be. -/
def unnumbered : Snapshot :=
  { Snapshot.specimen with
    board := { Snapshot.specimen.board with
      layout := .parted ⟨.large, TextMap.empty.insert "HL" (.numbers [1, 6])
        |>.insert "NL" (.text "none")⟩ } }

theorem specimen_restored_unnumbered_refused :
    (∃ g, restore Snapshot.specimen (.mk 2000 0) = .ok g ∧ g.phase = .loading ∧ g.maxPlayers = 2 ∧
      g.isVacant 0 = true ∧ g.isVacant 1 = false) ∧
      restore unnumbered (.mk 2000 0) = .error (.invalid (.missingPart "NL")) := by
  have start : (Instant.mk 2000 0).subSeconds? Snapshot.specimen.duration.toInt =
      some (.mk 1246 0) := by decide
  have options : ∀ packed, Snapshot.specimen.options = some packed →
      ∃ o, Options.parse packed = .ok o := by
    intro packed given
    obtain rfl : "PL=2,SBL=t" = packed := Option.some.inj given
    exact ⟨_, rfl⟩
  obtain ⟨-, checked, -⟩ := restore_outcome start
  obtain ⟨-, refused, -⟩ := restore_outcome (m := unnumbered) start
  obtain ⟨g, restored, waits, seats⟩ := ((checked (by decide)).2 options).2 (by decide)
  refine ⟨⟨g, restored, waits, seats.count, ?_, ?_⟩, ?_⟩
  · rw [isVacant, seats.vacant]
    rfl
  · rw [isVacant, seats.vacant]
    rfl
  · exact ((refused (by decide)).2 options).1 _ (by decide)

end Game

end SavedGames
