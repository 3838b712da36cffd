/-! Operations that change a state where it stands, and that can fail. What an operation has changed
before it fails stays changed. -/
namespace SavedGames

abbrev Change (σ ε : Type) := ExceptT ε (StateM σ)

namespace Change

variable {σ ε α : Type}

/-- What comes of an operation, and the state that it leaves. -/
def on (c : Change σ ε α) (s : σ) : Except ε α × σ := c.run.run s

/-- The changed state, for a caller that gives it up after a failure. -/
def changed (c : Change σ ε α) (s : σ) : Except ε σ := (c.on s).1.map fun _ => (c.on s).2

end Change
end SavedGames
