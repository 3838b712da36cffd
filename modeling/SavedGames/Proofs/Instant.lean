import Mathlib
import SavedGames.Instant

/-!
# Times and ages

An age is counted in whole seconds, so a game that began a whole number of seconds ago has just
this age, and playing on adds whole seconds to it. Only a game that is loaded in a leap second can
lose a second. A time that a number of milliseconds gives has this number.
-/
namespace SavedGames.Instant

/-- The start of 1970. -/
def epoch : Instant := .mk 0 0

variable {t u start now : Instant} {second nano span age : Int} {played : Nat}

theorem ofSecond?_eq_some {n : Nat} :
    ofSecond? second n = some t ↔ t.second = second ∧ t.nano = n := by
  obtain ⟨s, m, year, nanos⟩ := t
  unfold ofSecond?
  split
  · simp [eq_comm]
  · rename_i outside
    constructor
    · nofun
    · rintro ⟨rfl, rfl⟩
      exact absurd ⟨year, nanos⟩ outside

theorem carry?_eq_some :
    carry? second nano = some t ↔
      ¬ t.InLeapSecond ∧ t.nanoseconds = second * nanosPerSecond + nano := by
  have low := Int.emod_nonneg nano (show (nanosPerSecond : Int) ≠ 0 by decide)
  rw [carry?, ofSecond?_eq_some]
  simp only [InLeapSecond, nanoseconds, nanosPerSecond] at low ⊢
  omega

/-- A span is split into seconds and a fraction of the same sign. -/
theorem span_split (span : Int) :
    span = span.tdiv nanosPerSecond * nanosPerSecond + span.tmod nanosPerSecond ∧
      (0 ≤ span → 0 ≤ span.tdiv nanosPerSecond ∧ 0 ≤ span.tmod nanosPerSecond) ∧
      (span ≤ 0 → span.tdiv nanosPerSecond ≤ 0 ∧ span.tmod nanosPerSecond ≤ 0) ∧
      |span.tmod nanosPerSecond| < nanosPerSecond := by
  have pos : (0 : Int) < nanosPerSecond := by decide
  refine ⟨(Int.tdiv_mul_add_tmod _ _).symm,
    fun h => ⟨Int.tdiv_nonneg h pos.le, Int.tmod_nonneg _ h⟩, fun h => ?_,
    abs_lt.mpr ⟨Int.lt_tmod_of_pos _ pos, Int.tmod_lt_of_pos _ pos⟩⟩
  have quotient := Int.tdiv_nonneg (neg_nonneg.mpr h) pos.le
  have rest := Int.tmod_nonneg (nanosPerSecond : Int) (neg_nonneg.mpr h)
  rw [Int.neg_tdiv] at quotient
  rw [Int.neg_tmod] at rest
  exact ⟨neg_nonneg.mp quotient, neg_nonneg.mp rest⟩

theorem add?_of_not_inLeapSecond (usual : ¬ t.InLeapSecond) :
    t.add? span = some u ↔ ¬ u.InLeapSecond ∧ u.nanoseconds = t.nanoseconds + span := by
  have whole := (span_split span).1
  rw [add?, if_neg usual, carry?_eq_some]
  simp only [InLeapSecond, nanoseconds, nanosPerSecond] at whole ⊢
  omega

theorem add?_of_inLeapSecond (leap : t.InLeapSecond) :
    t.add? span = some u ↔
      2 * nanosPerSecond ≤ t.nano + span ∧ ¬ u.InLeapSecond ∧
          u.nanoseconds = t.nanoseconds + span - nanosPerSecond ∨
        span ≤ -nanosPerSecond ∧ ¬ u.InLeapSecond ∧ u.nanoseconds = t.nanoseconds + span ∨
        -nanosPerSecond < span ∧ t.nano + span < 2 * nanosPerSecond ∧ u.second = t.second ∧
          u.nano = t.nano + span := by
  obtain ⟨whole, up, down, small⟩ := span_split span
  have bound := t.nano_lt
  have bound' := u.nano_lt
  rw [abs_lt] at small
  rw [add?, if_pos leap]
  generalize span.tdiv nanosPerSecond = seconds at *
  generalize span.tmod nanosPerSecond = fraction at *
  split_ifs with forwards backwards
  · rw [carry?_eq_some]
    simp only [InLeapSecond, nanoseconds, nanosPerSecond] at *
    omega
  · rw [carry?_eq_some]
    simp only [InLeapSecond, nanoseconds, nanosPerSecond] at *
    omega
  · rw [ofSecond?_eq_some]
    simp only [InLeapSecond, nanoseconds, nanosPerSecond] at *
    omega

theorem add?_zero (t : Instant) : t.add? 0 = some t := by
  by_cases leap : t.InLeapSecond
  · have bound := t.nano_lt
    refine (add?_of_inLeapSecond leap).mpr (.inr (.inr ⟨by decide, ?_, rfl, by omega⟩))
    omega
  · exact (add?_of_not_inLeapSecond leap).mpr ⟨leap, by omega⟩

/-- Outside of leap seconds an instant is known by its nanoseconds. -/
theorem eq_of_nanoseconds (here : ¬ t.InLeapSecond) (there : ¬ u.InLeapSecond)
    (same : t.nanoseconds = u.nanoseconds) : t = u := by
  obtain ⟨s, n, _, _⟩ := t
  obtain ⟨r, m, _, _⟩ := u
  simp only [InLeapSecond, nanoseconds, nanosPerSecond] at here there same
  obtain ⟨rfl, rfl⟩ : s = r ∧ n = m := by omega
  rfl

theorem le_nanoseconds (t : Instant) : firstSecond * nanosPerSecond ≤ t.nanoseconds := by
  have first := t.exists_year.1
  simp only [nanoseconds, nanosPerSecond]
  omega

theorem nanoseconds_lt (t : Instant) : t.nanoseconds < (lastSecond + 2) * nanosPerSecond := by
  have last := t.exists_year.2
  have nano := t.nano_lt
  simp only [nanoseconds, nanosPerSecond] at nano ⊢
  omega

theorem exists_nanoseconds (low : firstSecond * nanosPerSecond ≤ span)
    (high : span < (lastSecond + 1) * nanosPerSecond) :
    ∃ t : Instant, ¬ t.InLeapSecond ∧ t.nanoseconds = span := by
  simp only [nanosPerSecond] at low high
  refine ⟨⟨span / nanosPerSecond, (span % nanosPerSecond).toNat, ?_, ?_⟩, ?_, ?_⟩
  all_goals
    simp only [InLeapSecond, nanoseconds, nanosPerSecond]
    omega

/-- A game of some age began before it is loaded, outside of leap seconds. One without an age begins
just then. -/
theorem subSeconds?_eq_some (nonneg : 0 ≤ age) :
    t.subSeconds? age = some start ↔
      0 < age ∧ ¬ start.InLeapSecond ∧
          start.nanoseconds = t.nanoseconds - age * nanosPerSecond ∨
        age = 0 ∧ start = t := by
  rcases nonneg.eq_or_lt with rfl | older
  · rw [subSeconds?, zero_mul, neg_zero, add?_zero]
    simp [eq_comm]
  · have bound := t.nano_lt
    by_cases leap : t.InLeapSecond
    · rw [subSeconds?, add?_of_inLeapSecond leap]
      simp only [InLeapSecond, nanosPerSecond] at bound ⊢
      omega
    · rw [subSeconds?, add?_of_not_inLeapSecond leap, ← sub_eq_add_neg]
      simp [older, older.ne']

theorem exists_subSeconds? (nonneg : 0 ≤ age)
    (low : firstSecond * nanosPerSecond ≤ t.nanoseconds - age * nanosPerSecond) :
    ∃ start, t.subSeconds? age = some start := by
  rcases nonneg.eq_or_lt with rfl | older
  · exact ⟨t, (subSeconds?_eq_some nonneg).mpr (.inr ⟨rfl, rfl⟩)⟩
  · have high := t.nanoseconds_lt
    obtain ⟨start, usual, nanos⟩ := exists_nanoseconds low (by
      simp only [nanosPerSecond] at high ⊢
      omega)
    exact ⟨start, (subSeconds?_eq_some nonneg).mpr (.inl ⟨older, usual, nanos⟩)⟩

/-- A younger game began at a time that exists too. -/
theorem exists_subSeconds?_of_le {younger : Int} (began : t.subSeconds? age = some start)
    (nonneg : 0 ≤ younger) (le : younger ≤ age) : ∃ later, t.subSeconds? younger = some later := by
  have low := start.le_nanoseconds
  refine exists_subSeconds? nonneg ?_
  rcases (subSeconds?_eq_some (nonneg.trans le)).mp began with ⟨-, -, begins⟩ | ⟨rfl, rfl⟩
  · simp only [nanosPerSecond] at low begins ⊢
    omega
  · obtain rfl : younger = 0 := le_antisymm le nonneg
    simpa using low

theorem millis_of_ofMillis? {ms : Int} (h : ofMillis? ms = some t) : t.millis = ms := by
  obtain ⟨second, nano⟩ := ofSecond?_eq_some.mp h
  simp only [millis, nanoseconds, nanosPerSecond, second, nano]
  omega

theorem max_tdiv (span : Int) : max (span.tdiv 1000000) 0 = max (span / 1000000) 0 := by
  rcases le_total 0 span with past | future
  · rw [Int.tdiv_eq_ediv_of_nonneg past]
  · have negative : span.tdiv 1000000 ≤ 0 := by
      have opposite := Int.tdiv_nonneg (neg_nonneg.mpr future) (show (0 : Int) ≤ 1000000 by decide)
      rw [Int.neg_tdiv] at opposite
      exact neg_nonneg.mp opposite
    omega

theorem toInt_elapsedSeconds (start now : Instant) :
    (elapsedSeconds start now).toInt =
      min ((max (now.since start / 1000000) 0 + 500) / 1000) 0x7fffffff := by
  have low : 0 ≤ (max (now.since start / 1000000) 0 + 500) / 1000 := by omega
  rw [elapsedSeconds, max_tdiv, Int32.toInt_ofInt_of_le (by omega) (by omega)]

theorem elapsedSeconds_nonneg (start now : Instant) : 0 ≤ elapsedSeconds start now := by
  rw [Int32.le_iff_toInt_le, toInt_elapsedSeconds]
  simp
  omega

/-- The second that is lost of a game which began at `start`, if it is loaded in a leap second: this
second has passed when the game is saved, and the game did not begin in it too, or of two times one
is in it and comes earlier in its day than the other one. -/
def lostSecond (start loaded saved : Instant) : Int :=
  if loaded.InLeapSecond ∧
      (if saved.InLeapSecond then saved.secondOfDay < start.secondOfDay
      else ¬ (start.InLeapSecond ∧ start.secondOfDay < saved.secondOfDay)) then 1
  else 0

theorem lostSecond_of_not_inLeapSecond (usual : ¬ t.InLeapSecond) (start now : Instant) :
    lostSecond start t now = 0 := if_neg fun lost => usual lost.1

theorem lostSecond_cases (start t now : Instant) :
    lostSecond start t now = 0 ∨ lostSecond start t now = 1 := by
  rw [lostSecond]
  split_ifs <;> simp

/-- A game that is loaded in a leap second is saved behind it, which drops a second, or still in
it. -/
theorem addMillis?_of_inLeapSecond (leap : t.InLeapSecond)
    (saved : t.addMillis? played = some now) :
    (¬ now.InLeapSecond ∧
        now.nanoseconds = t.nanoseconds + played * 1000000 - nanosPerSecond) ∨
      now.InLeapSecond ∧ now.second = t.second ∧
        now.nanoseconds = t.nanoseconds + played * 1000000 := by
  rcases (add?_of_inLeapSecond leap).mp saved with ⟨-, left⟩ | ⟨back, -⟩ | ⟨-, -, second, nano⟩
  · exact .inl left
  · simp only [nanosPerSecond] at back
    omega
  · have within : now.InLeapSecond := by
      simp only [InLeapSecond] at leap ⊢
      omega
    exact .inr ⟨within, second, by rw [nanoseconds, nanoseconds, second, nano]; ring⟩

/-- Between the start of a game of some age and a later time lie the age and the time since. -/
theorem since_of_played (nonneg : 0 ≤ age) (began : t.subSeconds? age = some start)
    (saved : t.addMillis? played = some now) :
    now.since start =
      age * nanosPerSecond + played * 1000000 - lostSecond start t now * nanosPerSecond := by
  by_cases leap : t.InLeapSecond
  · rcases (subSeconds?_eq_some nonneg).mp began with ⟨-, before, begins⟩ | ⟨rfl, rfl⟩ <;>
      rcases addMillis?_of_inLeapSecond leap saved with ⟨left, ends⟩ | ⟨within, second, ends⟩
    · have lost : lostSecond start t now = 1 := if_pos ⟨leap, by simp [left, before]⟩
      rw [since, if_neg (by simp [before]), if_neg (by simp [left]), begins, ends, lost]
      ring
    · rw [since, if_neg (by simp [before]), begins, ends, lostSecond]
      simp only [leap, within, true_and, and_true, if_true]
      split_ifs <;> ring
    · rw [since, ends, lostSecond]
      simp only [leap, left, true_and, and_true, and_false, if_false]
      split_ifs <;> ring
    · have day : now.secondOfDay = start.secondOfDay := by rw [secondOfDay, second, secondOfDay]
      have kept : lostSecond start start now = 0 := if_neg (by simp [within, day])
      rw [since, if_neg (by simp [day]), if_neg (by simp [day]), ends, kept]
      ring
  · obtain ⟨before, begins⟩ := (add?_of_not_inLeapSecond leap).mp began
    obtain ⟨after, ends⟩ := (add?_of_not_inLeapSecond leap).mp saved
    rw [since, if_neg (by simp [before]), if_neg (by simp [after]), begins, ends,
      lostSecond_of_not_inLeapSecond leap]
    ring

/-- The greatest age that 32 bits hold. -/
def maxAge : Int := 0x7fffffff

/-- The age of a game after it is played on for so many milliseconds, if so many seconds are
lost. -/
def ageAfter (age : Int) (played : Nat) (lost : Int) : Int :=
  min (max (age + (played + 500) / 1000 - lost) 0) maxAge

/-- A game that is loaded with an age and then played on has the age of both. -/
theorem toInt_elapsedSeconds_of_played (nonneg : 0 ≤ age)
    (began : t.subSeconds? age = some start) (saved : t.addMillis? played = some now) :
    (elapsedSeconds start now).toInt = ageAfter age played (lostSecond start t now) := by
  have gone := since_of_played nonneg began saved
  have lost := lostSecond_cases start t now
  rw [toInt_elapsedSeconds, gone, ageAfter, maxAge]
  simp only [nanosPerSecond]
  omega

/-- A game without an age has no second to lose while it is only loaded and saved. -/
theorem lostSecond_le (nonneg : 0 ≤ age) (began : t.subSeconds? age = some start) :
    lostSecond start t t ≤ age := by
  rcases (subSeconds?_eq_some nonneg).mp began with ⟨older, -⟩ | ⟨rfl, rfl⟩
  · have lost := lostSecond_cases start t t
    omega
  · exact (if_neg (by simp)).le

/-- A game that is saved at the instant at which it was loaded keeps its age, up to a second that is
lost. -/
theorem toInt_elapsedSeconds_of_subSeconds? (nonneg : 0 ≤ age) (young : age ≤ maxAge)
    (began : t.subSeconds? age = some start) :
    (elapsedSeconds start t).toInt = age - lostSecond start t t := by
  have lost := lostSecond_cases start t t
  have le := lostSecond_le nonneg began
  have saved : t.addMillis? (0 : Nat) = some t := add?_zero t
  rw [toInt_elapsedSeconds_of_played nonneg began saved, ageAfter]
  simp only [maxAge] at young ⊢
  omega

/-- Whichever time comes first, 64 bits count the milliseconds between them and half a second
more. -/
def Countable (start now : Instant) : Prop :=
  |(now.since start).tdiv 1000000| + 500 < 2 ^ 63

theorem countable (start now : Instant) : Countable start now := by
  have low := start.le_nanoseconds
  have low' := now.le_nanoseconds
  have high := start.nanoseconds_lt
  have high' := now.nanoseconds_lt
  have near : |now.since start| < 2 ^ 62 * 1000000 := by
    simp only [nanosPerSecond, firstSecond, lastSecond] at low low' high high'
    rw [since, abs_lt]
    simp only [nanosPerSecond]
    split_ifs <;> omega
  have whole := Int.tdiv_mul_add_tmod (now.since start) 1000000
  have rest := Int.lt_tmod_of_pos (now.since start) (show (0 : Int) < 1000000 by decide)
  have rest' := Int.tmod_lt_of_pos (now.since start) (show (0 : Int) < 1000000 by decide)
  rw [abs_lt] at near
  rw [Countable, ← lt_sub_iff_add_lt, abs_lt]
  omega

/-- The time since the start of a game leads back to its start: both are the same, or the start is
not in a leap second, nor is the time, unless it is later and, in its day, not before the start. -/
def LeadsBack (now start : Instant) : Prop :=
  now = start ∨ ¬ start.InLeapSecond ∧
    (now.InLeapSecond → now.since start ≠ 0 ∧ start.secondOfDay ≤ now.secondOfDay)

theorem since_self (t : Instant) : t.since t = 0 := by simp [since]

theorem exists_subSeconds?_of_since (nonneg : 0 ≤ age)
    (gone : now.since start = age * nanosPerSecond) :
    ∃ again, now.subSeconds? age = some again ∧ (again = start ↔ now.LeadsBack start) := by
  have first := start.le_nanoseconds
  have kept := gone
  rw [since] at gone
  obtain ⟨again, started⟩ : ∃ again, now.subSeconds? age = some again := by
    refine exists_subSeconds? nonneg ?_
    have second := start.exists_year.1
    simp only [InLeapSecond, nanoseconds, nanosPerSecond] at gone first ⊢
    split_ifs at gone <;> omega
  refine ⟨again, started, ?_⟩
  rcases (subSeconds?_eq_some nonneg).mp started with ⟨older, before, nanos⟩ | ⟨rfl, rfl⟩
  · have apart : now.since start ≠ 0 := by
      simp only [kept, nanosPerSecond]
      omega
    constructor
    · rintro rfl
      refine .inr ⟨before, fun leap => ⟨apart, not_lt.mp fun earlier => ?_⟩⟩
      -- the leap second would have been left out of the age
      simp only [before, and_false, if_false, if_pos (And.intro earlier leap), nanosPerSecond]
        at gone nanos
      omega
    · rintro (rfl | ⟨began, order⟩)
      · exact absurd now.since_self apart
      · have whole : ¬ (now.secondOfDay < start.secondOfDay ∧ now.InLeapSecond) :=
          fun ⟨earlier, leap⟩ => not_lt.mpr (order leap).2 earlier
        simp only [began, whole, and_false, if_false] at gone
        exact eq_of_nanoseconds before began (by omega)
  · rw [zero_mul] at kept
    refine ⟨.inl, ?_⟩
    rintro (same | ⟨began, order⟩)
    · exact same
    · have usual : ¬ again.InLeapSecond := fun leap => (order leap).1 kept
      simp only [began, usual, and_false, if_false] at gone
      exact eq_of_nanoseconds usual began (by omega)

/-- An age of whole seconds is not rounded. -/
theorem toInt_elapsedSeconds_of_since (nonneg : 0 ≤ age) (young : age ≤ maxAge)
    (gone : now.since start = age * nanosPerSecond) : (elapsedSeconds start now).toInt = age := by
  rw [maxAge] at young
  rw [toInt_elapsedSeconds, gone]
  simp only [nanosPerSecond]
  omega

/-- A time so many seconds later is so many seconds away, or one less behind a leap second. -/
theorem since_of_add? (saved : start.add? (age * nanosPerSecond) = some now) (nonneg : 0 ≤ age) :
    now.since start = age * nanosPerSecond ∨
      start.InLeapSecond ∧ 0 < age ∧ now.since start = (age - 1) * nanosPerSecond := by
  by_cases leap : start.InLeapSecond
  · rcases nonneg.eq_or_lt with rfl | older
    · obtain rfl : start = now := by
        rw [zero_mul, add?_zero] at saved
        exact Option.some.inj saved
      exact .inl (by simp [since])
    · obtain ⟨usual, ends⟩ : ¬ now.InLeapSecond ∧
          now.nanoseconds = start.nanoseconds + age * nanosPerSecond - nanosPerSecond := by
        rcases (add?_of_inLeapSecond leap).mp saved with ⟨-, left⟩ | ⟨back, -⟩ | ⟨-, near, -⟩
        · exact left
        · simp only [nanosPerSecond] at back
          omega
        · simp only [InLeapSecond, nanosPerSecond] at leap near
          omega
      rw [since, ends]
      simp only [leap, usual, older, and_true, true_and, and_false, if_false]
      split_ifs
      · exact .inl (by ring)
      · exact .inr (by ring)
  · obtain ⟨usual, ends⟩ := (add?_of_not_inLeapSecond leap).mp saved
    refine .inl ?_
    rw [since, ends]
    simp only [leap, usual, and_false, if_false]
    ring

/-- So many seconds lead from the earlier time to the later one, or lie between the two. Next to a
leap second this is not the same. -/
def IsSecondsAfter (now start : Instant) (age : Int) : Prop :=
  start.add? (age * nanosPerSecond) = some now ∨ now.since start = age * nanosPerSecond

/-- The start that a game is given when it is loaded whole seconds after its start. -/
theorem IsSecondsAfter.exists_subSeconds? (later : now.IsSecondsAfter start age)
    (nonneg : 0 ≤ age) (young : age ≤ maxAge) :
    ∃ again, now.subSeconds? (elapsedSeconds start now).toInt = some again ∧
      (again = start ↔ now.LeadsBack start) := by
  obtain ⟨seconds, started, bound, gone⟩ : ∃ seconds : Int, 0 ≤ seconds ∧ seconds ≤ maxAge ∧
      now.since start = seconds * nanosPerSecond := by
    rcases later with saved | gone
    · rcases since_of_add? saved nonneg with gone | ⟨-, older, gone⟩
      · exact ⟨age, nonneg, young, gone⟩
      · exact ⟨age - 1, by omega, by omega, gone⟩
    · exact ⟨age, nonneg, young, gone⟩
  rw [toInt_elapsedSeconds_of_since started bound gone]
  exact exists_subSeconds?_of_since started gone

end SavedGames.Instant
