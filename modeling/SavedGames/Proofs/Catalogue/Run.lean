import Mathlib
import SavedGames.Proofs.Catalogue.Answers
import SavedGames.Proofs.Snapshot.Lossless

/-!
# A catalogue is a list of saves

Of a run of calls there remain the saves that were inserted and not deleted later, and a migrated
store holds just these. Each call keeps the rows those of the saves that remain.
-/
namespace SavedGames.Catalogue

inductive Call where
  | insert (s : Save)
  | delete (id : String)
  deriving DecidableEq

def Call.apply (c : Catalogue) : Call → Catalogue
  | .insert s => c.insert s.id s.snapshot s.savedAt
  | .delete id => (c.delete id).2

def Call.insertedId? : Call → Option String
  | .insert s => some s.id
  | .delete _ => none

/-- The saves that are inserted and not deleted later. -/
def remaining : List Call → List Save
  | [] => []
  | .insert s :: later => if .delete s.id ∈ later then remaining later else s :: remaining later
  | .delete _ :: later => remaining later

/-- Whatever save is inserted, the saves that are there stand in the relation `r` to it. -/
def Precede (r : Save → Save → Prop) (calls : List Call) : Prop :=
  ∀ before s after, calls = before ++ .insert s :: after → ∀ t ∈ remaining before, r t s

variable {s : Save} {calls : List Call}

/-- What remains was inserted, and its identifier was not deleted behind it. -/
theorem mem_remaining_iff : s ∈ remaining calls ↔
    ∃ before after, calls = before ++ .insert s :: after ∧ .delete s.id ∉ after := by
  induction calls with
  | nil => simp [remaining]
  | cons call later ih =>
    have head_or_later : s ∈ remaining (call :: later) ↔
        (call = .insert s ∧ .delete s.id ∉ later) ∨ s ∈ remaining later := by
      cases call with
      | insert t => by_cases deleted : .delete t.id ∈ later <;> grind [remaining]
      | delete id => simp [remaining]
    rw [head_or_later, ih]
    constructor
    · rintro (⟨rfl, kept⟩ | ⟨before, after, rfl, kept⟩)
      · exact ⟨[], later, rfl, kept⟩
      · exact ⟨call :: before, after, rfl, kept⟩
    · rintro ⟨before, after, eq, kept⟩
      rcases List.cons_eq_append_iff.1 eq with ⟨-, first⟩ | ⟨before, -, eq⟩
      · obtain ⟨rfl, rfl⟩ := List.cons.inj first
        exact .inl ⟨rfl, kept⟩
      · exact .inr ⟨before, after, eq, kept⟩

theorem remaining_insert (calls : List Call) (s : Save) :
    remaining (calls ++ [.insert s]) = remaining calls ++ [s] := by
  induction calls with
  | nil => rfl
  | cons call calls ih =>
    cases call with
    | insert t => by_cases deleted : .delete t.id ∈ calls <;> simp [remaining, ih, deleted]
    | delete id => exact ih

theorem remaining_delete (calls : List Call) (id : String) :
    remaining (calls ++ [.delete id]) = (remaining calls).filter fun s => s.id ≠ id := by
  induction calls with
  | nil => rfl
  | cons call calls ih =>
    cases call with
    | insert t =>
      rcases eq_or_ne t.id id with rfl | other
      · by_cases deleted : .delete t.id ∈ calls <;> simp [remaining, ih, deleted]
      · by_cases deleted : .delete t.id ∈ calls <;> simp [remaining, ih, deleted, other]
    | delete id => exact ih

/-- The step: a call keeps the rows those of the saves that remain. -/
theorem holds_apply {c : Catalogue} {entries : List Entry} (h : c.Holds entries)
    (same : entries.map Entry.save = remaining calls) (call : Call) :
    ∃ next, (call.apply c).Holds next ∧ next.map Entry.save = remaining (calls ++ [call]) := by
  cases call with
  | insert s =>
    refine ⟨_, h.insert s, ?_⟩
    rw [List.map_append, same, remaining_insert]
    rfl
  | delete id =>
    refine ⟨_, h.delete id, ?_⟩
    rw [remaining_delete, ← same, List.filter_map]
    rfl

theorem holds_run (calls : List Call) :
    ∃ entries, (calls.foldl Call.apply empty).Holds entries ∧
      entries.map Entry.save = remaining calls := by
  induction calls using List.reverseRecOn with
  | nil => exact ⟨[], ⟨rfl, .nil⟩, rfl⟩
  | append_singleton calls call ih =>
    obtain ⟨entries, holds, same⟩ := ih
    rw [List.foldl_concat]
    exact holds_apply holds same call

theorem pairwise_remaining {r : Save → Save → Prop} (h : Precede r calls) :
    (remaining calls).Pairwise r := by
  induction calls using List.reverseRecOn with
  | nil => exact .nil
  | append_singleton calls call ih =>
    have earlier : Precede r calls := fun before s after eq =>
      h before s (after ++ [call]) (by rw [eq, List.append_assoc, List.cons_append])
    cases call with
    | insert s =>
      rw [remaining_insert, List.pairwise_append]
      refine ⟨ih earlier, List.pairwise_singleton r s, fun t mem u last => ?_⟩
      rw [List.mem_singleton.1 last]
      exact h calls s [] rfl t mem
    | delete id =>
      rw [remaining_delete]
      exact (ih earlier).filter _

/-- Identifiers that are never given twice are fresh. -/
theorem fresh_of_nodup (h : (calls.filterMap Call.insertedId?).Nodup) :
    Precede (fun t s => t.id ≠ s.id) calls := by
  rintro before s after rfl t mem same
  rw [List.filterMap_append, List.nodup_append] at h
  have given : t.id ∈ before.filterMap Call.insertedId? := by
    obtain ⟨first, rest, rfl, -⟩ := mem_remaining_iff.1 mem
    simp [Call.insertedId?]
  exact h.2.2 t.id given s.id (by simp [Call.insertedId?]) same

/-- A number may be given a second time when the save that had it is no longer there. -/
theorem numbered_of_above {number : Save → Int} (rising : Precede (number · < number ·) calls)
    {a b : Save} (above : Above (remaining calls) a b) :
    b.savedAt.millis < a.savedAt.millis ∨
      a.savedAt.millis = b.savedAt.millis ∧ number b < number a := by
  have ascending := pairwise_remaining rising
  rw [List.pairwise_iff_forall_sublist] at ascending
  exact above.imp_right fun ⟨same, later⟩ => ⟨same, ascending later⟩

end SavedGames.Catalogue

namespace SavedGames.Store

open Catalogue

/-- The store after the calls, each of which needs the table. -/
def run (s : Store) : List Call → Except SaveError Store
  | [] => .ok s
  | call :: calls => do
    let c ← s.catalogue
    run ⟨some (call.apply c)⟩ calls

theorem run_table (c : Catalogue) (calls : List Call) :
    run ⟨some c⟩ calls = .ok ⟨some (calls.foldl Call.apply c)⟩ := by
  induction calls generalizing c with
  | nil => rfl
  | cons call calls ih => exact ih (call.apply c)

/-- Where no save is inserted under an identifier that is there, a migrated store holds just the
saves that were inserted and not deleted, and a further deletion takes out just its own. Row numbers
that are each above those that are there list the saves of one time in the same order. -/
theorem run_shows_remaining {calls : List Call}
    (fresh : Precede (fun t s => t.id ≠ s.id) calls)
    (storable : ∀ s, .insert s ∈ calls → s.Storable) :
    ∃ c, run (migrate {}) calls = .ok ⟨some c⟩ ∧ c.Shows (remaining calls) ∧
      (∀ id, (c.delete id).2.Shows ((remaining calls).filter fun s => s.id ≠ id)) ∧
      ∀ number : Save → Int, Precede (number · < number ·) calls →
        ∀ a b, Above (remaining calls) a b →
          b.savedAt.millis < a.savedAt.millis ∨
            a.savedAt.millis = b.savedAt.millis ∧ number b < number a := by
  obtain ⟨entries, holds, same⟩ := holds_run calls
  have distinct : Distinct (remaining calls) := pairwise_remaining fresh
  have stored : ∀ s ∈ remaining calls, s.Storable := by
    intro s mem
    obtain ⟨before, after, rfl, -⟩ := mem_remaining_iff.1 mem
    exact storable s (by simp)
  refine ⟨_, run_table .empty calls, holds.shows same distinct stored, fun id => ?_, ?_⟩
  · have left : (entries.filter fun e => e.save.id ≠ id).map Entry.save =
        (remaining calls).filter fun s => s.id ≠ id := by
      rw [← same, List.filter_map]
      rfl
    refine (holds.delete id).shows left (distinct.filter _) fun s mem => ?_
    exact stored s (List.mem_of_mem_filter mem)
  · exact fun number rising a b => numbered_of_above rising

/-- A save that is deleted, and behind it two saves of one time, of which one is of another version,
and one that is older. -/
def specimenCalls : List Call :=
  let save (id : String) (version : Int32) (savedAt : Instant) : Call :=
    .insert ⟨id, { Snapshot.specimen with version := version }, savedAt⟩
  [save "a" modelVersion (.mk 7200 500000000), .delete "b",
    save "b" modelVersion (.mk 3600 500000000), .delete "a", save "c" 2100 (.mk 3600 500000000),
    save "d" modelVersion (.mk (-1) 500000000)]

theorem specimen_shows_remaining :
    (remaining specimenCalls).map Save.id = ["b", "c", "d"] ∧
      ∃ c, run (migrate {}) specimenCalls = .ok ⟨some c⟩ ∧ c.Shows (remaining specimenCalls) ∧
        (c.delete "c").2.Shows ((remaining specimenCalls).filter fun s => s.id ≠ "c") ∧
        c.load "a" = .ok none ∧ c.load "c" = .error (.incompatibleVersion 2100) := by
  have fresh : (specimenCalls.filterMap Call.insertedId?).Nodup := by decide
  have storable : ∀ s, .insert s ∈ specimenCalls → s.Storable := by
    have narrow : Snapshot.specimen.IsNarrow := by
      simp [Snapshot.specimen, Snapshot.IsNarrow, SeatScope.IsNarrow]
    intro s mem
    simp only [specimenCalls, List.mem_cons, Call.insert.injEq, reduceCtorEq, List.not_mem_nil,
      or_false, false_or] at mem
    rcases mem with rfl | rfl | rfl | rfl
    · exact ⟨narrow, 7200500, rfl⟩
    · exact ⟨narrow, 3600500, rfl⟩
    · exact ⟨narrow, 3600500, rfl⟩
    · exact ⟨narrow, -500, rfl⟩
  obtain ⟨c, ran, shows, deleted, -⟩ := run_shows_remaining (fresh_of_nodup fresh) storable
  refine ⟨rfl, c, ran, shows, deleted "c", shows.misses "a" ?_, ?_⟩
  · decide
  · exact shows.loads _ (List.mem_cons_of_mem _ List.mem_cons_self)

end SavedGames.Store
