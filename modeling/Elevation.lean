import Elevation.Json.Reader
import Elevation.Main
import Elevation.Proofs.Cache.Accounts
import Elevation.Proofs.Cache.Progress
import Elevation.Proofs.Coverage.Written
import Elevation.Proofs.Grid.Floor
import Elevation.Proofs.Provider.Backing
import Elevation.Proofs.Report.Agreement
import Elevation.Proofs.Report.Exact
import Elevation.Proofs.Report.Points
import Elevation.Proofs.Report.Share
import Elevation.Proofs.Report.Sweep
import Elevation.Proofs.Session.Storage
import Elevation.Proofs.Settings.Environment
import Elevation.Proofs.Tile.Colouring
import Elevation.Proofs.Tile.Refusals
import Elevation.Proofs.Tile.Shading
import Elevation.Proofs.Transfer.Attempts
