import Mathlib
import SavedGames.Catalogue
import SavedGames.Proofs.Instant
import SavedGames.Proofs.Snapshot.Reading
import SavedGames.Proofs.TextMap

/-!
# What a catalogue answers

A catalogue whose rows are those of some saves lists each of them once and no other one, the newest
first, and gives back those that pass the check. Each question has a condition, an order and a limit
of its own, and the answers agree: the rows of one game are sorted as they stand among all rows.
-/
namespace SavedGames.Catalogue

/-- A game as it is put into a catalogue. -/
structure Save where
  id : String
  snapshot : Snapshot
  savedAt : Instant
  deriving DecidableEq

namespace Save

/-- The row of the save under a number. -/
def row (number : Nat) (s : Save) : SavedRow := .ofSnapshot number s.id s.snapshot s.savedAt

/-- The row that a list shows for a save. The size is that of the text without indentation. -/
def listing (s : Save) : Listing where
  id := s.id
  name := s.snapshot.name
  version := s.snapshot.version
  phase := s.snapshot.phase
  savedAt := s.savedAt
  bytes := (s.snapshot.text false).utf8ByteSize

/-- The snapshot is one that can be read back, and the time is a whole number of milliseconds. -/
structure Storable (s : Save) : Prop where
  narrow : s.snapshot.IsNarrow
  timed : ∃ ms, Instant.ofMillis? ms = some s.savedAt

end Save

/-- A save and the number of its row. -/
structure Entry where
  number : Nat
  save : Save
  deriving DecidableEq

namespace Entry

def row (e : Entry) : SavedRow := e.save.row e.number

/-- `a` is newer than `b`, or of the same time and not inserted earlier. -/
def isBefore (a b : Entry) : Bool :=
  b.save.savedAt.millis < a.save.savedAt.millis ||
    (b.save.savedAt.millis == a.save.savedAt.millis && b.number ≤ a.number)

theorem isBefore_iff {a b : Entry} :
    a.isBefore b = true ↔ b.save.savedAt.millis < a.save.savedAt.millis ∨
      b.save.savedAt.millis = a.save.savedAt.millis ∧ b.number ≤ a.number := by
  simp [isBefore]

theorem isBefore_trans (a b c : Entry) (ab : a.isBefore b) (bc : b.isBefore c) :
    a.isBefore c := by
  rw [isBefore_iff] at *
  omega

theorem isBefore_total (a b : Entry) : a.isBefore b || b.isBefore a := by
  rw [Bool.or_eq_true, isBefore_iff, isBefore_iff]
  omega

end Entry

/-- The catalogue has a row for each entry, and the numbers of the rows rise. -/
structure Holds (c : Catalogue) (entries : List Entry) : Prop where
  rows : c.rows = entries.map Entry.row
  rising : entries.Pairwise fun a b => a.number < b.number

variable {c : Catalogue} {s t : Save} {saves : List Save} {entries : List Entry} {e : Entry}

theorem int32?_integer (n : Int32) (index : Nat) (column : String) :
    (Cell.integer n.toInt).int32? index column = .ok n := by
  have low : -0x80000000 ≤ n.toInt := n.le_toInt
  have high : n.toInt < 0x80000000 := n.toInt_lt
  rw [Cell.int32?, if_pos ⟨low, high⟩, Int32.ofInt_toInt]

theorem time?_integer (h : s.Storable) (index : Nat) (column : String) :
    (Cell.integer s.savedAt.millis).time? index column = .ok s.savedAt := by
  obtain ⟨ms, timed⟩ := h.timed
  rw [Cell.time?, Instant.millis_of_ofMillis? timed, timed]

theorem listing_row (h : e.save.Storable) : e.row.listing = .ok e.save.listing := by
  simp only [SavedRow.listing, Entry.row, Save.row, SavedRow.ofSnapshot, time?_integer h,
    int32?_integer]
  rfl

theorem listings_rows (h : ∀ e ∈ entries, e.save.Storable) :
    listings (entries.map Entry.row) = .ok (entries.map fun e => e.save.listing) := by
  induction entries with
  | nil => rfl
  | cons e entries ih =>
    rw [List.forall_mem_cons] at h
    rw [List.map_cons, listings, listing_row h.1, ih h.2]
    rfl

theorem snapshot?_row (h : e.save.Storable) :
    snapshot? (some e.row) = e.save.snapshot.check.map fun _ => some e.save.snapshot := by
  have read : Snapshot.ofText e.row.text = e.save.snapshot.check.map fun _ => e.save.snapshot :=
    Snapshot.ofText_written h.narrow false
  rw [snapshot?, read]
  cases e.save.snapshot.check <;> rfl

section Queries

/-- The entries as they are listed. -/
def byTime (entries : List Entry) : List Entry := entries.mergeSort Entry.isBefore

theorem byTime_perm (entries : List Entry) : (byTime entries).Perm entries :=
  List.mergeSort_perm _ _

theorem sorted_byTime (entries : List Entry) :
    (byTime entries).Pairwise fun a b => a.isBefore b = true :=
  List.pairwise_mergeSort Entry.isBefore_trans Entry.isBefore_total _

/-- By time, and then by number. -/
theorem precedes_row (a b : Entry) :
    Query.precedes [SavedRow.savedAtDescending, SavedRow.rowidDescending] a.row b.row =
      a.isBefore b := by
  rw [Bool.eq_iff_iff, Entry.isBefore_iff]
  have time (a b : Entry) : SavedRow.savedAtDescending a.row b.row =
      decide (b.save.savedAt.millis ≤ a.save.savedAt.millis) := by
    simp [SavedRow.savedAtDescending, Entry.row, Save.row, SavedRow.ofSnapshot, Cell.le,
      Cell.fraction?]
  have number (a b : Entry) :
      SavedRow.rowidDescending a.row b.row = decide (b.number ≤ a.number) := rfl
  simp only [Query.precedes, time, number, Bool.and_eq_true, Bool.or_eq_true, Bool.not_eq_true',
    decide_eq_true_eq, decide_eq_false_iff_not, or_true, and_true]
  omega

theorem newestFirst_rows (entries : List Entry) :
    Query.newestFirst.run (entries.map Entry.row) = (byTime entries).map Entry.row := by
  simp only [Query.run, Query.newestFirst, List.filter_true]
  exact (List.map_mergeSort fun a _ b _ => (precedes_row a b).symm).symm

theorem latest_rows (entries : List Entry) (name : String) :
    ((Query.latest name).run (entries.map Entry.row)).head? =
      (byTime (entries.filter fun e => e.save.snapshot.name = name)).head?.map Entry.row := by
  have found : (entries.map Entry.row).filter (fun row => row.name = name) =
      (entries.filter fun e => e.save.snapshot.name = name).map Entry.row := List.filter_map
  simp only [Query.run, Query.latest, found, List.head?_take, one_ne_zero, if_false]
  rw [← List.head?_map, byTime]
  exact congrArg List.head? (List.map_mergeSort fun a _ b _ => (precedes_row a b).symm).symm

theorem byId_rows (entries : List Entry) (id : String) :
    ((Query.byId id).run (entries.map Entry.row)).head? =
      (entries.find? fun e => e.save.id = id).map Entry.row := by
  have found : (entries.map Entry.row).filter (fun row => row.id = id) =
      (entries.filter fun e => e.save.id = id).map Entry.row := List.filter_map
  have unsorted (rows : List SavedRow) : rows.mergeSort (Query.precedes []) = rows :=
    List.mergeSort_of_pairwise (List.pairwise_of_forall fun _ _ => rfl)
  simp only [Query.run, Query.byId, found, unsorted]
  rw [List.head?_map, List.head?_filter]

end Queries

namespace Holds

theorem eq_of_number (h : c.Holds entries) {a b : Entry} (ha : a ∈ entries) (hb : b ∈ entries)
    (same : a.number = b.number) : a = b := by
  have distinct : (entries.map Entry.number).Nodup := List.pairwise_map.mpr (h.rising.imp ne_of_lt)
  exact List.inj_on_of_nodup_map distinct ha hb same

/-- The entries that fulfil a condition are sorted as they stand among all entries. -/
theorem filter_byTime (h : c.Holds entries) (p : Entry → Bool) :
    byTime (entries.filter p) = (byTime entries).filter p := by
  refine List.Perm.eq_of_pairwise ?_ (sorted_byTime _) ((sorted_byTime entries).filter p) ?_
  · intro a b ha hb ab ba
    have inside : a ∈ entries := (List.mem_filter.mp ((byTime_perm _).subset ha)).1
    have inside' : b ∈ entries := (byTime_perm entries).subset (List.mem_filter.mp hb).1
    rw [Entry.isBefore_iff] at ab ba
    exact h.eq_of_number inside inside' (by omega)
  · exact (byTime_perm _).trans ((byTime_perm entries).filter p).symm

/-- Of two entries the one with the smaller number was inserted first. -/
theorem sublist_of_lt (h : c.Holds entries) {a b : Entry} (ha : a ∈ entries) (hb : b ∈ entries)
    (lt : b.number < a.number) : [b, a].Sublist entries := by
  have rising := h.rising
  clear h
  induction entries with
  | nil => cases ha
  | cons e entries ih =>
    obtain ⟨least, rising⟩ := List.pairwise_cons.mp rising
    rcases List.mem_cons.mp hb with rfl | hb
    · have later : a ∈ entries := (List.mem_cons.mp ha).resolve_left fun same => by
        rw [same] at lt
        exact lt.false
      exact (List.singleton_sublist.mpr later).cons_cons b
    · have later : a ∈ entries := (List.mem_cons.mp ha).resolve_left fun same => by
        rw [same] at lt
        exact lt.asymm (least b hb)
      exact (ih later hb rising).cons e

end Holds

/-- `a` is listed before `b`: it is newer, or it is of the same time and was inserted later. -/
def Above (saves : List Save) (a b : Save) : Prop :=
  b.savedAt.millis < a.savedAt.millis ∨
    a.savedAt.millis = b.savedAt.millis ∧ [b, a].Sublist saves

theorem Holds.pairwise_byTime (h : c.Holds entries) :
    ((byTime entries).map Entry.save).Pairwise (Above (entries.map Entry.save)) := by
  have distinct : (byTime entries).Nodup :=
    (byTime_perm entries).nodup_iff.mpr (h.rising.imp fun lt same => (same ▸ lt).false)
  rw [List.pairwise_map]
  refine ((sorted_byTime entries).and distinct).imp_of_mem fun {a b} ha hb both => ?_
  obtain ⟨before, other⟩ := both
  have inside := (byTime_perm entries).subset ha
  have inside' := (byTime_perm entries).subset hb
  refine (Entry.isBefore_iff.mp before).imp_right fun ⟨same, le⟩ => ⟨same.symm, ?_⟩
  have lt : b.number < a.number :=
    lt_of_le_of_ne le fun eq => other (h.eq_of_number inside inside' eq.symm)
  exact (h.sublist_of_lt inside inside' lt).map Entry.save

/-- The answers of a catalogue that holds the saves, given in the order of insertion. -/
structure Shows (c : Catalogue) (saves : List Save) : Prop where
  /-- Each save is listed once, the newest first. -/
  lists : ∃ order : List Save,
    order.Perm saves ∧ order.Pairwise (Above saves) ∧ c.list = .ok (order.map Save.listing)
  loads : ∀ s ∈ saves, c.load s.id = s.snapshot.check.map fun _ => some s.snapshot
  misses : ∀ id, (∀ s ∈ saves, s.id ≠ id) → c.load id = .ok none
  /-- The latest save of a game is the first one that is listed. -/
  latest : ∀ listed, c.list = .ok listed → ∀ name, c.latest name =
    match listed.find? fun l => l.name = name with
    | some l => c.load l.id
    | none => .ok none
  deletes : ∀ id, (c.delete id).1 = true ↔ ∃ s ∈ saves, s.id = id

/-- No two saves are under one identifier. -/
def Distinct (saves : List Save) : Prop := saves.Pairwise fun s t => s.id ≠ t.id

theorem Holds.load_eq (h : c.Holds entries) (id : String) :
    c.load id = snapshot? ((entries.find? fun e => e.save.id = id).map Entry.row) := by
  rw [load, h.rows, byId_rows]

theorem Holds.load_of_mem (h : c.Holds entries) (distinct : Distinct (entries.map Entry.save))
    (mem : e ∈ entries) (storable : e.save.Storable) :
    c.load e.save.id = e.save.snapshot.check.map fun _ => some e.save.snapshot := by
  rw [Distinct, List.pairwise_map] at distinct
  have found := find?_key (fun e : Entry => e.save.id) distinct mem
  rw [h.load_eq, found, Option.map_some, snapshot?_row storable]

theorem Holds.list_eq (h : c.Holds entries) (storable : ∀ e ∈ entries, e.save.Storable) :
    c.list = .ok ((byTime entries).map fun e => e.save.listing) := by
  have storable : ∀ e ∈ byTime entries, e.save.Storable := fun e mem =>
    storable e ((byTime_perm entries).subset mem)
  rw [list, h.rows, newestFirst_rows, listings_rows storable]
  rfl

theorem Holds.latest_eq (h : c.Holds entries) (name : String) :
    c.latest name =
      snapshot? (((byTime entries).find? fun e => e.save.snapshot.name = name).map Entry.row) := by
  rw [latest, h.rows, latest_rows, h.filter_byTime, List.head?_filter]

theorem Holds.delete (h : c.Holds entries) (id : String) :
    (c.delete id).2.Holds (entries.filter fun e => e.save.id ≠ id) where
  rows := by
    rw [Catalogue.delete, h.rows, List.filter_map]
    rfl
  rising := h.rising.filter _

theorem Holds.number_lt (h : c.Holds entries) (mem : e ∈ entries) : e.number < c.nextRowid := by
  have below (numbers : List Nat) : ∀ n ∈ numbers, n ≤ numbers.foldr max 0 := by
    induction numbers with
    | nil => simp
    | cons m numbers ih =>
      refine List.forall_mem_cons.mpr ⟨le_max_left _ _, fun n hn => ?_⟩
      exact (ih n hn).trans (le_max_right _ _)
  refine Nat.lt_succ_of_le (below _ _ ?_)
  rw [h.rows, List.map_map]
  exact List.mem_map.mpr ⟨e, mem, rfl⟩

/-- A new row gets a number above those that are there. -/
theorem Holds.insert (h : c.Holds entries) (s : Save) :
    (c.insert s.id s.snapshot s.savedAt).Holds (entries ++ [⟨c.nextRowid, s⟩]) where
  rows := by
    rw [Catalogue.insert, h.rows, List.map_append]
    rfl
  rising := by
    refine List.pairwise_append.mpr ⟨h.rising, List.pairwise_singleton _ _, fun e mem d last => ?_⟩
    rw [List.mem_singleton.mp last]
    exact h.number_lt mem

theorem Holds.shows (h : c.Holds entries) (same : entries.map Entry.save = saves)
    (distinct : Distinct saves) (storable : ∀ s ∈ saves, s.Storable) : c.Shows saves := by
  subst same
  have stored : ∀ e ∈ entries, e.save.Storable := fun e mem => storable _ (List.mem_map_of_mem mem)
  constructor
  case lists =>
    refine ⟨(byTime entries).map Entry.save, (byTime_perm entries).map _, h.pairwise_byTime, ?_⟩
    rw [h.list_eq stored, List.map_map]
    rfl
  case loads =>
    refine List.forall_mem_map.mpr fun e mem => ?_
    exact h.load_of_mem distinct mem (stored e mem)
  case misses =>
    intro id absent
    have none : entries.find? (fun e => e.save.id = id) = none := by simpa using absent
    rw [h.load_eq, none]
    rfl
  case latest =>
    intro listed eq name
    rw [h.list_eq stored] at eq
    obtain rfl := Except.ok.inj eq
    rw [h.latest_eq, List.find?_map]
    -- the entries and what is listed of them are searched for the same name
    change _ = match ((byTime entries).find? fun e => e.save.snapshot.name = name).map
        (fun e => e.save.listing) with
      | some l => c.load l.id
      | none => .ok none
    cases found : (byTime entries).find? fun e => e.save.snapshot.name = name with
    | none => rfl
    | some e =>
      have mem : e ∈ entries := (byTime_perm entries).subset (List.mem_of_find?_eq_some found)
      have loaded := h.load_of_mem distinct mem (stored e mem)
      exact (snapshot?_row (stored e mem)).trans loaded.symm
  case deletes =>
    intro id
    rw [Catalogue.delete, h.rows, List.any_map, List.any_eq_true]
    simp only [Function.comp_apply, decide_eq_true_eq, List.mem_map, exists_exists_and_eq_and]
    rfl

end SavedGames.Catalogue
