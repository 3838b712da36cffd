import Mathlib
import SavedGames.Snapshot.Resume
import SavedGames.Proofs.Change

/-!
# When a game is resumed

Only a waiting game is resumed, and only if what is demanded of it holds or is passed over. It gets
the saved phase and keeps everything else. The phase is changed behind everything that can fail, so
a game that is not resumed keeps its phase too.
-/
namespace SavedGames.Snapshot

variable {m : Snapshot} {g g' : Game} {ignoreConstraints : Bool} {extra : List Demand}

/-- What is looked at, first what the snapshot demands and then what the caller does. -/
def demands (m : Snapshot) (extra : List Demand) : List Demand :=
  m.constraints.map Constraint.demand ++ extra

/-- The demands that are not passed over. -/
def checkResumable (m : Snapshot) (g : Game) (ignoreConstraints : Bool) (extra : List Demand) :
    Except SaveError Unit :=
  if ignoreConstraints then .ok () else checkDemands g.session (m.demands extra)

theorem resume_of_not_waiting (other : g.phase ≠ .loading) :
    (m.resume ignoreConstraints extra).on g = (.error (.notLoading g.phase), g) := by
  rw [resume, Change.on_get_bind, if_pos other]
  rfl

theorem resume_of_unmet {e : SaveError} (waits : g.phase = .loading)
    (unmet : m.checkResumable g ignoreConstraints extra = .error e) :
    (m.resume ignoreConstraints extra).on g = (.error e, g) := by
  cases ignoreConstraints with
  | true => cases unmet
  | false =>
    have failed : checkDemands g.session (m.constraints.map Constraint.demand ++ extra) =
      .error e := unmet
    rw [resume, Change.on_get_bind]
    simp [waits, Change.on_bind, failed]

theorem resume_of_met (waits : g.phase = .loading)
    (met : m.checkResumable g ignoreConstraints extra = .ok ()) :
    (m.resume ignoreConstraints extra).on g = (.ok (), { g with phase := m.phase }) := by
  cases ignoreConstraints with
  | true =>
    rw [resume, Change.on_get_bind]
    simp [waits]
  | false =>
    have passed : checkDemands g.session (m.constraints.map Constraint.demand ++ extra) =
      .ok () := met
    rw [resume, Change.on_get_bind]
    simp [waits, Change.on_bind, passed]

/-- An attempt succeeds and changes the phase, or it fails and changes nothing. -/
theorem resume_cases (m : Snapshot) (g : Game) (ignoreConstraints : Bool) (extra : List Demand) :
    (g.phase = .loading ∧ m.checkResumable g ignoreConstraints extra = .ok () ∧
      (m.resume ignoreConstraints extra).on g = (.ok (), { g with phase := m.phase })) ∨
    ∃ e, (m.resume ignoreConstraints extra).on g = (.error e, g) := by
  by_cases waits : g.phase = .loading
  · cases checked : m.checkResumable g ignoreConstraints extra with
    | ok u => exact .inl ⟨waits, rfl, resume_of_met waits checked⟩
    | error e => exact .inr ⟨e, resume_of_unmet waits checked⟩
  · exact .inr ⟨_, resume_of_not_waiting waits⟩

theorem resume_eq_ok :
    (m.resume ignoreConstraints extra).on g = (.ok (), g') ↔
      g.phase = .loading ∧ m.checkResumable g ignoreConstraints extra = .ok () ∧
        g' = { g with phase := m.phase } := by
  constructor
  · intro resumed
    rcases m.resume_cases g ignoreConstraints extra with ⟨waits, met, same⟩ | ⟨e, failed⟩
    · rw [resumed] at same
      exact ⟨waits, met, (Prod.mk.inj same).2⟩
    · rw [resumed] at failed
      cases failed
  · rintro ⟨waits, met, rfl⟩
    exact resume_of_met waits met

end SavedGames.Snapshot
