/-! A finite map with text keys, as the list of its entries in ascending order of the keys, so
that two maps with the same entries are the same map. Texts are ordered by their characters. -/
namespace SavedGames

structure TextMap (α : Type) where
  entries : List (String × α)
  sorted : entries.Pairwise fun a b => a.1 < b.1

namespace TextMap

instance [DecidableEq α] : DecidableEq (TextMap α) := fun m n =>
  decidable_of_iff (m.entries = n.entries)
    ⟨fun h => by cases m; cases n; cases h; rfl, fun h => h ▸ rfl⟩

def empty : TextMap α := ⟨[], .nil⟩

def insertEntry (key : String) (value : α) : List (String × α) → List (String × α)
  | [] => [(key, value)]
  | entry :: entries =>
    if key < entry.1 then (key, value) :: entry :: entries
    else if entry.1 < key then entry :: insertEntry key value entries
    else (key, value) :: entries

theorem mem_insertEntry {key : String} {value : α} {entries : List (String × α)}
    {e : String × α} (h : e ∈ insertEntry key value entries) :
    e = (key, value) ∨ e ∈ entries := by
  induction entries with
  | nil => simpa [insertEntry] using h
  | cons entry entries ih =>
    unfold insertEntry at h
    split at h
    · simpa using h
    · split at h
      · rcases List.mem_cons.1 h with rfl | h
        · simp
        · rcases ih h with h | h <;> simp [h]
      · rcases List.mem_cons.1 h with rfl | h <;> simp [*]

theorem sorted_insertEntry {key : String} {value : α} {entries : List (String × α)}
    (h : entries.Pairwise fun a b => a.1 < b.1) :
    (insertEntry key value entries).Pairwise fun a b => a.1 < b.1 := by
  induction entries with
  | nil => simp [insertEntry]
  | cons entry entries ih =>
    obtain ⟨first, rest⟩ := List.pairwise_cons.1 h
    unfold insertEntry
    split
    · rename_i lt
      refine List.pairwise_cons.2 ⟨fun e he => ?_, h⟩
      rcases List.mem_cons.1 he with rfl | he
      · exact lt
      · exact String.lt_trans lt (first e he)
    · split
      · rename_i lt
        refine List.pairwise_cons.2 ⟨fun e he => ?_, ih rest⟩
        rcases mem_insertEntry he with rfl | he
        · exact lt
        · exact first e he
      · rename_i above below
        have same : entry.1 = key := String.le_antisymm above below
        exact List.pairwise_cons.2 ⟨fun e he => same ▸ first e he, rest⟩

/-- Sets the value of a key; every other entry stays. -/
def insert (m : TextMap α) (key : String) (value : α) : TextMap α :=
  ⟨insertEntry key value m.entries, sorted_insertEntry m.sorted⟩

def get? (m : TextMap α) (key : String) : Option α :=
  (m.entries.find? fun e => e.1 == key).map Prod.snd

def contains (m : TextMap α) (key : String) : Bool := m.entries.any fun e => e.1 == key

def size (m : TextMap α) : Nat := m.entries.length

end TextMap
end SavedGames
