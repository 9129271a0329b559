import Panes.Main
import Panes.Wire.Format
import Panes.Wire.Settings
import Panes.Proofs.Run
import Panes.Proofs.Effect
import Panes.Proofs.Emission
import Panes.Proofs.Orders
import Panes.Proofs.Frame
import Panes.Proofs.Frame.Mirror
import Panes.Proofs.Frame.Deferral
import Panes.Proofs.Background
import Panes.Proofs.Router
import Panes.Proofs.Search.Token
import Panes.Proofs.Presentation
import Panes.Proofs.Separation
import Panes.Proofs.Drawer
import Panes.Proofs.Selection
import Panes.Proofs.Selection.Surface
import Panes.Proofs.Selection.Stranding
import Panes.Proofs.Selection.Parity
import Panes.Proofs.Selection.Report
import Panes.Proofs.Surface.Tracking
import Panes.Proofs.Surface.History
import Panes.Proofs.Surface.Protocol
import Panes.Proofs.Surface.Operation
import Panes.Proofs.Synchronisation
import Panes.Proofs.Synchronisation.Posting
import Panes.Proofs.Teardown
import Panes.Proofs.Scheduler
import Panes.Proofs.Scheduler.Punctuality
import Panes.Proofs.Session.Delivery
import Panes.Proofs.Session.Run
import Panes.Proofs.Session.Clock
import Panes.Proofs.Session.Outage
import Panes.Proofs.Session.Switching
import Panes.Proofs.Session.Routes
import Panes.Proofs.Wire.Format
import Panes.Proofs.Document
import Panes.Proofs.Import
import Panes.Proofs.Import.Suggestion
import Panes.Proofs.DataDirectory
import Panes.Proofs.Change
import Panes.Proofs.Ignored
import Panes.Proofs.Deletion
import Panes.Proofs.Trace.Rotation
import Panes.Proofs.Trace.Restart
import Panes.Proofs.Trace.Retention
import Panes.Proofs.Trace.Limit
import Panes.Proofs.Replay
