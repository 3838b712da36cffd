import Mathlib
import SavedGames.Generator
import SavedGames.Proofs.Lists

/-!
# What holds of every draw

`d.Always P` says that `d` draws only values with the property `P`, whatever the state of the
generator is. Each way to draw has a law for it, so that a property of a long chain of draws follows
from the properties of its links.
-/
namespace SavedGames

variable {α β : Type} {P : α → Prop} {Q : β → Prop}

namespace Draw

def Always (d : Draw α) (P : α → Prop) : Prop := ∀ r, P (d.run r).1

variable {d : Draw α} {f : α → Draw β}

theorem always_pure {a : α} (h : P a) : Always (pure a) P := fun _ => h

theorem always_any (d : Draw α) : d.Always fun _ => True := fun _ => trivial

theorem Always.bind (h : d.Always P) (next : ∀ a, P a → (f a).Always Q) :
    Always (d >>= f) Q := fun r => next _ (h r) (d.run r).2

theorem Always.imp {R : α → Prop} (h : d.Always P) (weaker : ∀ a, P a → R a) : d.Always R :=
  fun r => weaker _ (h r)

theorem Always.and {R : α → Prop} (h : d.Always P) (h' : d.Always R) :
    d.Always fun a => P a ∧ R a := fun r => ⟨h r, h' r⟩

/-- A draw of which nothing needs to be known. -/
theorem always_bind (next : ∀ a, (f a).Always Q) : Always (d >>= f) Q :=
  d.always_any.bind fun a _ => next a

end Draw

namespace Generator

theorem always_between {lo hi : Nat} (h : lo ≤ hi) :
    (between lo hi h).Always fun n => lo ≤ n ∧ n ≤ hi := by
  refine (Draw.always_any _).bind fun n _ => Draw.always_pure ?_
  have := n.isLt
  omega

theorem always_pick {items : List α} (h : items ≠ []) : (pick items h).Always (· ∈ items) :=
  Draw.always_bind fun _ => Draw.always_pure (List.get_mem ..)

/-- Of a list, each value is drawn at its place. -/
theorem always_listFrom {draw : Nat → Draw α} {R : Nat → α → Prop} {first count : Nat}
    (h : ∀ i, first ≤ i → i < first + count → (draw i).Always (R i)) :
    (listFrom draw first count).Always fun as =>
      as.length = count ∧ ∀ (i : Nat) (a : α), as[i]? = some a → R (first + i) a := by
  induction count generalizing first with
  | zero => exact Draw.always_pure (by simp)
  | succ count ih =>
    refine (h first (by omega) (by omega)).bind fun a here => ?_
    refine (ih fun i low high => h i (by omega) (by omega)).bind fun as ⟨size, others⟩ => ?_
    exact Draw.always_pure ⟨by simp [size], (forall_getElem?_cons (R := R)).mpr ⟨here, others⟩⟩

end Generator

end SavedGames
