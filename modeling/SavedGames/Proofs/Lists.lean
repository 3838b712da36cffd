import Mathlib

/-!
# Facts of lists

Lists of entries with keys, and lists with a property for each place.
-/
namespace SavedGames

variable {α β κ : Type}

/-- A property that depends on the place, where the places are counted from a first one. -/
theorem forall_getElem?_cons {R : Nat → α → Prop} {first : Nat} {a : α} {rest : List α} :
    (∀ (i : Nat) (b : α), (a :: rest)[i]? = some b → R (first + i) b) ↔
      R first a ∧ ∀ (i : Nat) (b : α), rest[i]? = some b → R (first + 1 + i) b := by
  have later (i : Nat) : first + (i + 1) = first + 1 + i := by omega
  constructor
  · exact fun h => ⟨h 0 a rfl, fun i b there => later i ▸ h (i + 1) b there⟩
  · rintro ⟨here, others⟩ i b there
    cases i with
    | zero => exact Option.some.inj there ▸ here
    | succ i => exact later i ▸ others i b there

/-- Lists that agree pair by pair agree at each place. -/
theorem exists_getElem?_of_forall₂ {R : α → β → Prop} {as : List α} {bs : List β}
    (h : List.Forall₂ R as bs) {i : Nat} {a : α} (there : as[i]? = some a) :
    ∃ b, bs[i]? = some b ∧ R a b := by
  induction h generalizing i with
  | nil => cases there
  | cons here _ ih =>
    cases i with
    | zero => exact ⟨_, rfl, Option.some.inj there ▸ here⟩
    | succ i => exact ih there

/-- What comes of the members of a list has no repetition if that of each one has none and no two of
them have anything in common. -/
theorem nodup_flatMap_iff {f : α → List β} {as : List α} :
    (as.flatMap f).Nodup ↔ (∀ a ∈ as, (f a).Nodup) ∧ ∀ (i j : Nat) (a b : α), i < j →
      as[i]? = some a → as[j]? = some b → (f a).Disjoint (f b) := by
  rw [List.nodup_flatMap, List.pairwise_iff_getElem]
  refine and_congr_right fun _ => ⟨fun apart i j a b lt here there => ?_, fun apart => ?_⟩
  · obtain ⟨hi, rfl⟩ := List.getElem?_eq_some_iff.mp here
    obtain ⟨hj, rfl⟩ := List.getElem?_eq_some_iff.mp there
    exact apart i j hi hj lt
  · intro i j hi hj lt
    exact apart i j _ _ lt (List.getElem?_eq_getElem hi) (List.getElem?_eq_getElem hj)

theorem mapIdx_id (as : List α) : as.mapIdx (fun _ => id) = as := by
  induction as with
  | nil => rfl
  | cons a as ih => rw [List.mapIdx_cons, ih, id]

theorem modify_length_append (f : α → α) (as : List α) (a : α) (bs : List α) :
    (as ++ a :: bs).modify as.length f = as ++ f a :: bs := by
  induction as with
  | nil => rfl
  | cons b as ih => rw [List.cons_append, List.length_cons, List.modify_succ_cons, ih,
      List.cons_append]

/-- A list that goes with the numbers of another one's places. -/
theorem zipWith_map_range {γ δ : Type} (f : γ → α → δ) (number : Nat → γ) (as : List α) :
    List.zipWith f ((List.range as.length).map number) as =
      as.mapIdx fun i a => f (number i) a := by
  refine List.ext_getElem? fun i => ?_
  cases there : as[i]? with
  | none => simp [List.getElem?_zipWith, there]
  | some a =>
    obtain ⟨inside, -⟩ := List.getElem?_eq_some_iff.mp there
    simp [List.getElem?_zipWith, there, List.getElem?_range inside]

/-- What stands before the first separator belongs to the first part. -/
theorem splitOn_append [BEq α] [LawfulBEq α] {a : α} {xs : List α} (apart : a ∉ xs)
    (ys : List α) : (xs ++ ys).splitOn a = (ys.splitOn a).modifyHead (xs ++ ·) := by
  induction xs with
  | nil => cases parts : ys.splitOn a <;> simp [parts]
  | cons x xs ih =>
    rw [List.mem_cons, not_or] at apart
    have other : ¬ (x == a) = true := by simpa using Ne.symm apart.1
    rw [List.cons_append, List.splitOn_cons_eq_if_modifyHead, if_neg other, ih apart.2,
      List.modifyHead_modifyHead]
    rfl

section Lookup

variable [BEq κ] [LawfulBEq κ] {key : κ}

theorem lookup_eq_none {entries : List (κ × β)} :
    entries.lookup key = none ↔ key ∉ entries.map Prod.fst := by
  rw [List.lookup_eq_none_iff, List.mem_map]
  constructor
  · rintro absent ⟨entry, mem, rfl⟩
    simpa using absent entry mem
  · intro absent entry mem
    exact bne_iff_ne.mpr fun eq => absent ⟨entry, mem, eq.symm⟩

theorem lookup_cons_ne {other : κ} {value : β} {entries : List (κ × β)} (differ : key ≠ other) :
    ((other, value) :: entries).lookup key = entries.lookup key := by
  simp [List.lookup_cons, beq_eq_false_iff_ne.mpr differ]

/-- A key that comes once is found wherever it stands. -/
theorem lookup_eq_of_perm {l l' : List (κ × β)}
    (perm : l.Perm l') (once : (l.map Prod.fst).count key ≤ 1) : l.lookup key = l'.lookup key := by
  induction perm with
  | nil => rfl
  | cons entry perm ih =>
    obtain ⟨k, b⟩ := entry
    cases here : key == k with
    | true => simp [List.lookup_cons, here]
    | false =>
      have differ : key ≠ k := beq_eq_false_iff_ne.mp here
      rw [lookup_cons_ne differ, lookup_cons_ne differ]
      exact ih (by simpa [List.count_cons, differ.symm] using once)
  | swap first second rest =>
    obtain ⟨k, b⟩ := first
    obtain ⟨k', b'⟩ := second
    cases here : key == k <;> cases there : key == k' <;> simp only [List.lookup_cons, here, there]
    obtain rfl := eq_of_beq here
    obtain rfl := eq_of_beq there
    simp at once
  | trans left right ihLeft ihRight =>
    exact (ihLeft once).trans (ihRight ((left.map _).count_eq key ▸ once))

end Lookup

end SavedGames
