import SavedGames.Config
import SavedGames.Files

/-! Settings from a file. -/
namespace SavedGames

namespace Config

inductive Fault where
  | unreadable (fault : FileFault)
  | notConfig (fault : Json.Fault)
  | noPlayers
  deriving DecidableEq, Repr

def check (c : Config) : Except Fault Config :=
  if c.demoPlayers = 0 then .error .noPlayers else .ok c

def load {m : Type → Type} [Monad m] (files : Files m) (path : String) :
    m (Except Fault Config) := do
  match ← files.readText path with
  | .error fault => return .error (.unreadable fault)
  | .ok text =>
    match Json.decode read text with
    | .error fault => return .error (.notConfig fault)
    | .ok config => return config.check

end Config

end SavedGames
