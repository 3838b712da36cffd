import Mathlib
import SavedGames.Proofs.Checks

/-!
# The snapshots that pass their check

The check looks at one condition after the other, and a snapshot passes it if all of them hold. Its
two scans, over the records of potentials and over the seats, stop at the first fault.
-/
namespace SavedGames

/-- The record speaks of a seat that exists. -/
def Potentials.InRange (seats : Nat) (p : Potentials) : Prop :=
  ∀ seat, p.scope = .only seat → seat.toNat < seats

/-- A vacant seat has nothing that belongs to play, and the pieces of a seat are its own. -/
structure SeatRecord.ValidAt (seat : Nat) (s : SeatRecord) : Prop where
  idle : s.vacant = true → s.hasPlay = false
  owned : ∀ piece ∈ s.owned, piece.owner.toNat = seat

/-- A record of potentials for one seat speaks of a seat that exists. -/
def Potentials.requirements (seats : Nat) (p : Potentials) : List Requirement :=
  match p.scope with
  | .every => []
  | .only seat => [⟨seat.toNat < seats, .invalid (.potentialsWithoutSeat seat seats)⟩]

/-- A vacant seat has nothing that belongs to play. After that, each piece and then the fortress is
the seat's own. -/
def SeatRecord.requirements (seat : Nat) (s : SeatRecord) : List Requirement :=
  ⟨s.vacant = true → s.elements = [] ∧ s.newCards = [] ∧ s.oldCards = [] ∧ s.pieces = [] ∧
      s.fortress = none, .invalid (.vacantSeatInPlay seat)⟩ ::
    (s.pieces ++ s.fortress.toList).map fun piece =>
      ⟨piece.owner.toNat = seat, .invalid (.misownedPiece seat piece)⟩

theorem Potentials.inRange_iff {seats : Nat} {p : Potentials} :
    p.InRange seats ↔ ∀ r ∈ p.requirements seats, r.holds := by
  rw [InRange, requirements]
  cases p.scope <;> simp

theorem SeatRecord.hasPlay_eq_false_iff {s : SeatRecord} :
    s.hasPlay = false ↔ s.elements = [] ∧ s.newCards = [] ∧ s.oldCards = [] ∧ s.pieces = [] ∧
      s.fortress = none := by
  simp [hasPlay, and_assoc]

theorem SeatRecord.validAt_iff {seat : Nat} {s : SeatRecord} :
    s.ValidAt seat ↔ ∀ r ∈ s.requirements seat, r.holds := by
  rw [requirements, List.forall_mem_cons, List.forall_mem_map, ← hasPlay_eq_false_iff]
  exact ⟨fun valid => ⟨valid.idle, valid.owned⟩, fun hold => ⟨hold.1, hold.2⟩⟩

namespace Snapshot

variable {m : Snapshot}

structure Valid (m : Snapshot) : Prop where
  version : m.version = modelVersion
  minVersion : m.minVersion ≤ engineVersion
  name : isBlankName m.name = false
  seats : m.seats ≠ []
  player : -1 ≤ m.currentPlayer ∧ m.currentPlayer < m.seatLimit
  phase : m.phase.isSavable = true
  duration : 0 ≤ m.duration
  potentials : ∀ p ∈ m.board.potentials, p.InRange m.seats.length
  records : ∀ (i : Nat) (s : SeatRecord), m.seats[i]? = some s → s.ValidAt i

section Scans

theorem reports_checkPotentials (seats : Nat) (records : List Potentials) :
    Reports (checkPotentials seats records)
      (records.flatMap (Potentials.requirements seats)) := by
  induction records with
  | nil => exact .nil
  | cons p records ih =>
    rw [List.flatMap_cons, checkPotentials, Potentials.requirements]
    cases scope : p.scope with
    | every => exact ih
    | only seat =>
      refine .cons (fun inside => ?_) (fun outside => ?_) ih
      · simp only [if_neg (Nat.not_le_of_lt inside)]
      · simp only [if_pos (Nat.le_of_not_lt outside)]

theorem reports_find {rs : List Requirement} {next : Except SaveError Unit} (seat : Nat)
    (pieces : List Piece) (later : Reports next rs) :
    Reports
      (match pieces.find? fun piece => piece.owner.toNat ≠ seat with
        | some piece => .error (.invalid (.misownedPiece seat piece))
        | none => next)
      ((pieces.map fun piece =>
        ⟨piece.owner.toNat = seat, .invalid (.misownedPiece seat piece)⟩) ++ rs) := by
  induction pieces with
  | nil => exact later
  | cons piece pieces ih =>
    refine .cons (fun own => ?_) (fun other => ?_) ih
    · rw [List.find?_cons_of_neg (by simpa using own)]
    · rw [List.find?_cons_of_pos (by simpa using other)]

theorem reports_checkSeats (first : Nat) (records : List SeatRecord) :
    Reports (checkSeats first records)
      ((records.zipIdx first).flatMap fun s => s.1.requirements s.2) := by
  induction records generalizing first with
  | nil => exact .nil
  | cons s records ih =>
    rw [List.zipIdx_cons, List.flatMap_cons, checkSeats, SeatRecord.requirements, List.cons_append]
    refine .cons (fun idle => ?_) (fun busy => ?_) (reports_find first s.owned (ih _))
    · have quiet : ¬ (s.vacant = true ∧ s.hasPlay = true) := by
        rintro ⟨vacant, play⟩
        rw [SeatRecord.hasPlay_eq_false_iff.mpr (idle vacant)] at play
        cases play
      rw [if_neg quiet]
      rfl
    · have play : s.vacant = true ∧ s.hasPlay = true := by
        rw [← SeatRecord.hasPlay_eq_false_iff] at busy
        simpa using busy
      rw [if_pos play]

/-- The requirements of a seat are among those of all seats. -/
theorem mem_seats_iff {first : Nat} {records : List SeatRecord} {r : Requirement} :
    (r ∈ (records.zipIdx first).flatMap fun s => s.1.requirements s.2) ↔
      ∃ (i : Nat) (s : SeatRecord), records[i]? = some s ∧ r ∈ s.requirements (first + i) := by
  rw [List.mem_flatMap]
  constructor
  · rintro ⟨⟨s, seat⟩, there, mem⟩
    obtain ⟨low, there⟩ := List.mem_zipIdx_iff_le_and_getElem?_sub.mp there
    refine ⟨seat - first, s, there, ?_⟩
    rwa [Nat.add_sub_cancel' low]
  · rintro ⟨i, s, there, mem⟩
    exact ⟨(s, first + i), List.mk_add_mem_zipIdx_iff_getElem?.mpr there, mem⟩

theorem checkPotentials_eq_ok {seats : Nat} {records : List Potentials} :
    checkPotentials seats records = .ok () ↔ ∀ p ∈ records, p.InRange seats := by
  simp only [(reports_checkPotentials seats records).ok, List.forall_mem_flatMap,
    Potentials.inRange_iff]

theorem checkSeats_eq_ok {first : Nat} {records : List SeatRecord} :
    checkSeats first records = .ok () ↔
      ∀ (i : Nat) (s : SeatRecord), records[i]? = some s → s.ValidAt (first + i) := by
  rw [(reports_checkSeats first records).ok]
  constructor
  · intro hold i s there
    exact SeatRecord.validAt_iff.mpr fun r hr => hold r (mem_seats_iff.mpr ⟨i, s, there, hr⟩)
  · intro valid r hr
    obtain ⟨i, s, there, mem⟩ := mem_seats_iff.mp hr
    exact SeatRecord.validAt_iff.mp (valid i s there) r mem

/-- A fault of the seats is play in a vacant seat or a piece of another one. -/
theorem checkSeats_eq_error {first : Nat} {records : List SeatRecord} {e : SaveError}
    (h : checkSeats first records = .error e) :
    ∃ (i : Nat) (s : SeatRecord), records[i]? = some s ∧
      (s.vacant = true ∧ s.hasPlay = true ∧ e = .invalid (.vacantSeatInPlay (first + i)) ∨
        ∃ piece ∈ s.owned, piece.owner.toNat ≠ first + i ∧
          e = .invalid (.misownedPiece (first + i) piece)) := by
  have fault := ((reports_checkSeats first records).error e).mp h
  obtain ⟨r, hr, failed, rfl⟩ := exists_mem_of_firstFault fault
  obtain ⟨i, s, there, mem⟩ := mem_seats_iff.mp hr
  refine ⟨i, s, there, ?_⟩
  rcases List.mem_cons.mp mem with rfl | mem
  · rw [← SeatRecord.hasPlay_eq_false_iff] at failed
    exact .inl (by simpa using failed)
  · obtain ⟨piece, owned, rfl⟩ := List.mem_map.mp mem
    exact .inr ⟨piece, owned, failed, rfl⟩

end Scans

theorem require_bind {α : Type} {condition : Prop} [Decidable condition] {fault : SaveError}
    {next : Unit → Except SaveError α} :
    (require condition fault >>= next) = if condition then next () else .error fault := by
  by_cases holds : condition <;> simp [require, holds, bind, Except.bind]

theorem ite_error_eq_ok {α : Type} {condition : Prop} [Decidable condition] {fault : SaveError}
    {x : Except SaveError α} {a : α} :
    (if condition then x else .error fault) = .ok a ↔ condition ∧ x = .ok a := by
  by_cases holds : condition <;> simp [holds]

theorem ite_error_eq_error {α : Type} {condition : Prop} [Decidable condition] {fault e : SaveError}
    {x : Except SaveError α} :
    (if condition then x else .error fault) = .error e ↔
      ¬ condition ∧ fault = e ∨ condition ∧ x = .error e := by
  by_cases holds : condition <;> simp [holds]

/-- Below half of 32 bits the current player is compared with the number of seats as it is. -/
theorem player_lt_iff {player : Int32} {seats : Nat} (small : seats < 2 ^ 31) :
    (-1 ≤ player ∧ player < Int32.ofNat seats) ↔ (-1 ≤ player.toInt ∧ player.toInt < seats) := by
  have least : (-1 : Int32).toInt = -1 := rfl
  rw [Int32.le_iff_toInt_le, Int32.lt_iff_toInt_lt, Int32.toInt_ofNat_of_lt small, least]

/-- There the current player is the number of a seat, or `-1`. -/
theorem player_iff {player : Int32} {seats : Nat} (small : seats < 2 ^ 31) :
    (-1 ≤ player ∧ player < Int32.ofNat seats) ↔
      (player = -1 ∨ ∃ i < seats, player.toInt = i) := by
  have least : (-1 : Int32).toInt = -1 := rfl
  rw [player_lt_iff small, ← Int32.toInt_inj, least]
  constructor
  · rintro ⟨low, high⟩
    by_cases none : player.toInt = -1
    · exact .inl none
    · exact .inr ⟨player.toInt.toNat, by omega, by omega⟩
  · rintro (none | ⟨i, inside, here⟩) <;> omega

theorem check_eq_ok : m.check = .ok () ↔ m.Valid := by
  simp only [check, require_bind, ite_error_eq_ok, then_eq_ok, checkPotentials_eq_ok,
    checkSeats_eq_ok, Nat.zero_add, Bool.not_eq_true']
  constructor
  · rintro ⟨version, minVersion, name, seats, player, phase, duration, potentials, records⟩
    exact ⟨version, minVersion, name, seats, player, phase, duration, potentials, records⟩
  · rintro ⟨version, minVersion, name, seats, player, phase, duration, potentials, records⟩
    exact ⟨version, minVersion, name, seats, player, phase, duration, potentials, records⟩

end Snapshot

end SavedGames
