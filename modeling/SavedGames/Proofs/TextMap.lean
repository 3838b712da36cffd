import Mathlib
import SavedGames.TextMap

/-!
# Laws of the maps with text keys

Keys that come in ascending order stand in the order in which they come. A map is what it answers,
so it does not matter in which order different keys were set.
-/
namespace SavedGames

/-- An item is found by its key, if no other one has this key. -/
theorem find?_key {β : Type} (key : β → String) {items : List β}
    (distinct : items.Pairwise fun a b => key a ≠ key b) {item : β} (mem : item ∈ items) :
    items.find? (fun other => key other = key item) = some item := by
  induction items with
  | nil => cases mem
  | cons first items ih =>
    obtain ⟨others, rest⟩ := List.pairwise_cons.mp distinct
    rcases List.mem_cons.mp mem with rfl | mem
    · simp
    · rw [List.find?_cons_of_neg (by simpa using others item mem)]
      exact ih rest mem

namespace TextMap

variable {α : Type} {key : String} {value : α}

theorem insertEntry_last {entries : List (String × α)} (h : ∀ e ∈ entries, e.1 < key) :
    insertEntry key value entries = entries ++ [(key, value)] := by
  induction entries with
  | nil => rfl
  | cons e entries ih =>
    have below := h e (by simp)
    rw [insertEntry, if_neg (String.lt_asymm below), if_pos below,
      ih fun d hd => h d (by simp [hd]), List.cons_append]

theorem insert_last {m : TextMap α} (h : ∀ e ∈ m.entries, e.1 < key) :
    (m.insert key value).entries = m.entries ++ [(key, value)] := insertEntry_last h

theorem contains_above {m : TextMap α} (h : ∀ e ∈ m.entries, e.1 < key) :
    m.contains key = false := by
  rw [contains, List.any_eq_false]
  intro e he
  simpa using (h e he).ne

theorem contains_eq (m : TextMap α) (key : String) : m.contains key = (m.get? key).isSome := by
  rw [Bool.eq_iff_iff, contains, get?, Option.isSome_map, List.any_eq_true, List.find?_isSome]

theorem get?_empty (key : String) : (empty : TextMap α).get? key = none := rfl

theorem find?_insertEntry {entries : List (String × α)} (sought : String) :
    ((insertEntry key value entries).find? fun e => e.1 == sought) =
      if key = sought then some (key, value) else entries.find? fun e => e.1 == sought := by
  induction entries with
  | nil => by_cases same : key = sought <;> simp [insertEntry, same]
  | cons e entries ih =>
    unfold insertEntry
    split
    · by_cases same : key = sought <;> simp [same]
    · rename_i notBelow
      split
      · rename_i below
        by_cases here : e.1 = sought
        · have other : key ≠ sought := fun same => (here ▸ same ▸ below).ne rfl
          simp [here, other]
        · simp [here, ih]
      · rename_i notAbove
        have equal : e.1 = key := String.le_antisymm notBelow notAbove
        by_cases same : key = sought <;> simp [same, equal]

/-- A map gives back what was set last for a key. -/
theorem get?_insert (m : TextMap α) (key sought : String) (value : α) :
    (m.insert key value).get? sought = if key = sought then some value else m.get? sought := by
  rw [get?, insert, find?_insertEntry sought]
  by_cases same : key = sought <;> simp [same, get?]

/-- The entries of a map are what it answers. -/
theorem mem_entries_iff {m : TextMap α} :
    (key, value) ∈ m.entries ↔ m.get? key = some value := by
  constructor
  · intro h
    have distinct : m.entries.Pairwise fun a b => a.1 ≠ b.1 := m.sorted.imp fun below => below.ne
    have found : m.entries.find? (fun e => e.1 == key) = some (key, value) :=
      find?_key Prod.fst distinct h
    rw [get?, found, Option.map_some]
  · intro h
    obtain ⟨e, found, rfl⟩ := Option.map_eq_some_iff.mp h
    obtain rfl : e.1 = key := by simpa using List.find?_some found
    exact List.mem_of_find?_eq_some found

/-- Maps that give the same answers are the same. -/
theorem ext_get? {m n : TextMap α} (h : ∀ key, m.get? key = n.get? key) : m = n := by
  have distinct (m : TextMap α) : m.entries.Nodup :=
    m.sorted.imp fun below same => below.ne (congrArg Prod.fst same)
  have members : ∀ e, e ∈ m.entries ↔ e ∈ n.entries := by
    rintro ⟨key, value⟩
    rw [mem_entries_iff, mem_entries_iff, h]
  have perm : m.entries.Perm n.entries :=
    (List.perm_ext_iff_of_nodup (distinct m) (distinct n)).mpr members
  have same : m.entries = n.entries :=
    perm.eq_of_pairwise (fun _ _ _ _ below above => absurd above (String.lt_asymm below))
      m.sorted n.sorted
  obtain ⟨entries, sorted⟩ := m
  cases n
  cases same
  rfl

theorem insert_comm (m : TextMap α) {k l : String} (v w : α) (h : k ≠ l) :
    (m.insert k v).insert l w = (m.insert l w).insert k v := by
  refine ext_get? fun sought => ?_
  simp only [get?_insert]
  by_cases left : k = sought
  · have right : l ≠ sought := fun same => h (left.trans same.symm)
    simp [left, right]
  · simp [left]

end TextMap

end SavedGames
