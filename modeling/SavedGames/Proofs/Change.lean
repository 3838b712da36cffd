import Mathlib
import SavedGames.Change

/-!
# Operations step by step

Each step of an operation goes on with the state that the step before it left, until one fails.
-/
namespace SavedGames.Change

variable {σ ε α β : Type} {s t : σ} {e : ε}

@[simp] theorem on_modify (f : σ → σ) (s : σ) :
    (modify f : Change σ ε PUnit).on s = (.ok ⟨⟩, f s) := rfl

@[simp] theorem on_lift (x : Except ε α) (s : σ) : (liftM x : Change σ ε α).on s = (x, s) := rfl

theorem on_bind (c : Change σ ε α) (f : α → Change σ ε β) (s : σ) :
    (c >>= f).on s =
      match c.on s with
      | (.ok a, t) => (f a).on t
      | (.error e, t) => (.error e, t) := by
  change ((ExceptT.bindCont f (c.on s).1 : StateM σ (Except ε β)) (c.on s).2 :) = _
  rcases c.on s with ⟨a | a, t⟩ <;> rfl

@[simp] theorem on_get_bind (f : σ → Change σ ε β) (s : σ) :
    ((get : Change σ ε σ) >>= f).on s = (f s).on s := rfl

theorem changed_eq_ok {c : Change σ ε Unit} : c.changed s = .ok t ↔ c.on s = (.ok (), t) := by
  rw [changed]
  rcases c.on s with ⟨e | u, r⟩ <;> simp [Except.map]

theorem changed_eq_error {c : Change σ ε α} :
    c.changed s = .error e ↔ ∃ t, c.on s = (.error e, t) := by
  rw [changed]
  rcases c.on s with ⟨e | a, r⟩ <;> simp [Except.map]

end SavedGames.Change
