import Mathlib
import SavedGames.Snapshot.Check

/-!
# Checks and the first fault

A check looks at one requirement after the other. It passes if all of them hold, and otherwise it
reports the fault of the first one that does not.
-/
namespace SavedGames

theorem bind_eq_ok {α β ε : Type} {x : Except ε α} {f : α → Except ε β} {b : β} :
    (x >>= f) = .ok b ↔ ∃ a, x = .ok a ∧ f a = .ok b := by
  cases x <;> simp [bind, Except.bind]

theorem then_eq_ok {β ε : Type} {x : Except ε Unit} {y : Except ε β} {b : β} :
    (x >>= fun _ => y) = .ok b ↔ x = .ok () ∧ y = .ok b := by
  cases x <;> simp [bind, Except.bind]

/-- A condition, and the fault that is reported where it does not hold. -/
structure Requirement where
  holds : Prop
  fault : SaveError

/-- The first requirement that does not hold has the fault `e`. -/
def FirstFault (rs : List Requirement) (e : SaveError) : Prop :=
  ∃ before r after, rs = before ++ r :: after ∧ (∀ q ∈ before, q.holds) ∧ ¬ r.holds ∧ r.fault = e

/-- The outcome of a check is what the requirements say. -/
structure Reports (outcome : Except SaveError Unit) (rs : List Requirement) : Prop where
  ok : outcome = .ok () ↔ ∀ r ∈ rs, r.holds
  error : ∀ e, outcome = .error e ↔ FirstFault rs e

section FirstFault

variable {r : Requirement} {rs qs : List Requirement} {e : SaveError}

theorem not_firstFault_nil : ¬ FirstFault [] e := by
  rintro ⟨before, r, after, split, -⟩
  simp at split

theorem firstFault_cons_of_holds (holds : r.holds) :
    FirstFault (r :: rs) e ↔ FirstFault rs e := by
  constructor
  · rintro ⟨before, s, after, split, passed, failed, fault⟩
    cases before with
    | nil =>
      obtain ⟨rfl, -⟩ := List.cons.inj split
      exact absurd holds failed
    | cons q before =>
      obtain ⟨-, rest⟩ := List.cons.inj split
      exact ⟨before, s, after, rest, fun q hq => passed q (List.mem_cons_of_mem _ hq), failed,
        fault⟩
  · rintro ⟨before, s, after, rfl, passed, failed, fault⟩
    exact ⟨r :: before, s, after, rfl, List.forall_mem_cons.mpr ⟨holds, passed⟩, failed, fault⟩

theorem firstFault_cons_of_fails (fails : ¬ r.holds) :
    FirstFault (r :: rs) e ↔ r.fault = e := by
  constructor
  · rintro ⟨before, s, after, split, passed, -, fault⟩
    cases before with
    | nil =>
      obtain ⟨rfl, -⟩ := List.cons.inj split
      exact fault
    | cons q before =>
      obtain ⟨rfl, -⟩ := List.cons.inj split
      exact absurd (passed r List.mem_cons_self) fails
  · intro fault
    exact ⟨[], r, rs, rfl, by simp, fails, fault⟩

theorem firstFault_append_of_holds (hold : ∀ r ∈ rs, r.holds) :
    FirstFault (rs ++ qs) e ↔ FirstFault qs e := by
  induction rs with
  | nil => rfl
  | cons r rs ih =>
    obtain ⟨here, others⟩ := List.forall_mem_cons.mp hold
    rw [List.cons_append, firstFault_cons_of_holds here, ih others]

theorem firstFault_append_of_fails (fails : ¬ ∀ r ∈ rs, r.holds) :
    FirstFault (rs ++ qs) e ↔ FirstFault rs e := by
  induction rs with
  | nil => exact absurd (by simp) fails
  | cons r rs ih =>
    rw [List.cons_append]
    by_cases here : r.holds
    · have others : ¬ ∀ q ∈ rs, q.holds := fun hold =>
        fails (List.forall_mem_cons.mpr ⟨here, hold⟩)
      rw [firstFault_cons_of_holds here, firstFault_cons_of_holds here, ih others]
    · rw [firstFault_cons_of_fails here, firstFault_cons_of_fails here]

theorem exists_mem_of_firstFault (h : FirstFault rs e) : ∃ r ∈ rs, ¬ r.holds ∧ r.fault = e := by
  obtain ⟨before, r, after, rfl, -, failed, fault⟩ := h
  exact ⟨r, by simp, failed, fault⟩

end FirstFault

namespace Reports

variable {r : Requirement} {rs qs : List Requirement} {outcome next : Except SaveError Unit}
  {e : SaveError}

theorem nil : Reports (.ok ()) [] where
  ok := by simp
  error e := by simp [not_firstFault_nil]

/-- A check that looks at one more requirement first. -/
theorem cons (passes : r.holds → outcome = next) (fails : ¬ r.holds → outcome = .error r.fault)
    (later : Reports next rs) : Reports outcome (r :: rs) := by
  by_cases holds : r.holds
  · rw [passes holds]
    constructor
    · rw [later.ok, List.forall_mem_cons, and_iff_right holds]
    · intro e
      rw [later.error, firstFault_cons_of_holds holds]
  · rw [fails holds]
    constructor
    · have broken : ¬ ∀ q ∈ r :: rs, q.holds := fun all => holds (all r List.mem_cons_self)
      exact iff_of_false (by simp) broken
    · intro e
      rw [firstFault_cons_of_fails holds, Except.error.injEq]

theorem failed {holds : Prop} {fault : SaveError} (fails : ¬ holds) :
    Reports (.error fault) [⟨holds, fault⟩] :=
  cons (fun holds => absurd holds fails) (fun _ => rfl) nil

/-- What comes after a check that failed is not looked at. -/
theorem stopped (h : Reports (.error e) rs) : Reports (.error e) (rs ++ qs) := by
  have fails : ¬ ∀ r ∈ rs, r.holds := fun hold => by cases h.ok.mpr hold
  constructor
  · have broken : ¬ ∀ r ∈ rs ++ qs, r.holds := fun hold =>
      fails (List.forall_mem_append.mp hold).1
    exact iff_of_false (by simp) broken
  · intro f
    rw [firstFault_append_of_fails fails, ← h.error]

/-- One check after another. -/
theorem bind (first : Reports outcome rs) (later : Reports next qs) :
    Reports (outcome >>= fun _ => next) (rs ++ qs) := by
  cases done : outcome with
  | ok u =>
    have hold := first.ok.mp done
    have same : ((.ok u : Except SaveError Unit) >>= fun _ => next) = next := rfl
    rw [same]
    constructor
    · rw [later.ok, List.forall_mem_append, and_iff_right hold]
    · intro e
      rw [later.error, firstFault_append_of_holds hold]
  | error f =>
    exact stopped (done ▸ first)

/-- One step after another, where a step that passes gives a value to the next. -/
theorem andThen {α β : Type} {x : Except SaveError α} {f : α → Except SaveError β}
    (first : Reports (x.map fun _ => ()) rs)
    (later : ∀ a, x = .ok a → Reports ((f a).map fun _ => ()) qs) :
    Reports ((x >>= f).map fun _ => ()) (rs ++ qs) := by
  cases x with
  | ok a => exact first.bind (later a rfl)
  | error e => exact first.stopped

/-- A last step that cannot fail. -/
theorem ending {α β : Type} {x : Except SaveError α} {f : α → β}
    (h : Reports (x.map fun _ => ()) rs) :
    Reports ((x >>= fun a => .ok (f a)).map fun _ => ()) rs := by
  cases x <;> exact h

theorem require {condition holds : Prop} [Decidable condition] {fault : SaveError}
    (same : condition ↔ holds) (later : Reports next rs) :
    Reports (Snapshot.require condition fault >>= fun _ => next) (⟨holds, fault⟩ :: rs) := by
  refine cons (fun passes => ?_) (fun fails => ?_) later
  · rw [Snapshot.require, if_pos (same.mpr passes)]
    rfl
  · rw [Snapshot.require, if_neg (same.not.mpr fails)]
    rfl

end Reports

end SavedGames
