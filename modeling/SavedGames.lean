import SavedGames.Main
import SavedGames.Disk
import SavedGames.Proofs.Game.Constraints
import SavedGames.Proofs.Game.Age
import SavedGames.Proofs.Game.Elements
import SavedGames.Proofs.Game.Relaid
import SavedGames.Proofs.Game.Waiting
import SavedGames.Proofs.Game.Hands
import SavedGames.Proofs.Game.Sample
import SavedGames.Proofs.Options.Canonical
import SavedGames.Proofs.Catalogue.Run
import SavedGames.Proofs.Snapshot.Members
import SavedGames.Proofs.Snapshot.Shape
import SavedGames.Proofs.Snapshot.Requirements
import SavedGames.Proofs.Options.Carried
import SavedGames.Proofs.Options.Grammar
import SavedGames.Proofs.Game.Refusals
import SavedGames.Proofs.Snapshot.Demands
import SavedGames.Proofs.Game.Occupants
import SavedGames.Proofs.Session
import SavedGames.Proofs.Game.Records
import SavedGames.Proofs.Element
import SavedGames.Proofs.Game.Books
import SavedGames.Proofs.Game.Coordinates
import SavedGames.Proofs.Disk
import SavedGames.Proofs.Files
import SavedGames.Proofs.Snapshot.Saves
import SavedGames.Proofs.ByteSize.Order
import SavedGames.Proofs.ByteSize.Precision
import SavedGames.Proofs.Generator.Range
import SavedGames.Proofs.Game.Seats
